import AgentControl.Checkers.Health
import AgentControl.K8s.GarbageCollector
import AgentControl.Lib.Json
import AgentControl.Lib.Except

/-!
# Health of an agent in Kubernetes

The health of an agent in Kubernetes (`checkers/health/k8s/`) is read from the objects of its
release: the Flux `HelmRelease`, the New Relic `Instrumentation`, and the workloads (deployments,
daemon sets and stateful sets), selected by name or by the Flux label of the release.
`K8sHealthChecker` asks its checkers in turn and reports the first error or unhealthy result, and
the workload checkers do the same over the objects they select (`check_health_for_items`): both
are one loop, `checkEachHealth`, which is the search of the first result that is not healthy
(`checkEachHealth_eq`).

Each workload is healthy exactly under the condition its checker states, and a field the decision
needs and does not find is an error naming the object's kind, its name and the field:

* a deployment, when no replica is unavailable and the available replicas reach the desired ones;
* a daemon set, when the ready pods reach the desired ones, none is unavailable, and, under a
  rolling update, the updated pods reach the desired ones as well; its update strategy is read only
  once the pods are ready, so a daemon set without one is unhealthy while pods are missing, and an
  error afterwards;
* a stateful set, when its ready replicas are its replicas, one by default.

A Helm release is healthy when the first of its conditions of type `Ready` has the status `True`.
The Kubernetes client is what it returned: a listing of the objects of a kind in a namespace, or an
object by its type, name and namespace, each with its error as the text it displays as.
-/

namespace AgentControl

/-! ### Checking in turn -/

/-- Models `Health::is_healthy`. -/
def Health.isHealthy : Health → Bool
  | .healthy _ => true
  | .unhealthy _ => false

/-- Whether a check succeeded with a healthy result. -/
def okHealthy {α : Type} (isHealthy : α → Bool) : Except HealthCheckerError α → Bool
  | .ok h => isHealthy h
  | .error _ => false

/-- The loop of `check_health_for_items` and of `K8sHealthChecker::check_health`: each check in
turn, stopping at the first error or unhealthy result, and `healthy` after the last. -/
def checkEachHealth {κ α : Type} (check : κ → Except HealthCheckerError α) (isHealthy : α → Bool)
    (healthy : α) : List κ → Except HealthCheckerError α
  | [] => .ok healthy
  | x :: xs =>
    (check x).bind fun h => if isHealthy h then checkEachHealth check isHealthy healthy xs else .ok h

/-- The loop returns the result of the first check that is not healthy, or `healthy`. -/
theorem checkEachHealth_eq {κ α : Type} (check : κ → Except HealthCheckerError α)
    (isHealthy : α → Bool) (healthy : α) (xs : List κ) :
    checkEachHealth check isHealthy healthy xs =
      match xs.find? (fun x => !okHealthy isHealthy (check x)) with
      | some x => check x
      | none => .ok healthy := by
  induction xs with
  | nil => rfl
  | cons x xs ih =>
    rw [checkEachHealth, List.find?_cons]
    -- the first check decides unless it is healthy
    cases hx : check x with
    | error e => simp only [Except.bind, okHealthy, Bool.not_false, hx]
    | ok h =>
      cases hh : isHealthy h with
      | true => simp only [Except.bind, okHealthy, hh, if_true, Bool.not_true, ih]
      | false =>
        simp only [Except.bind, okHealthy, hh, Bool.not_false, Bool.false_eq_true, if_false, hx]

/-- A computation followed by a check is healthy when the computation succeeds and the check of
its value is healthy. -/
theorem okHealthy_bind {α β : Type} {isHealthy : α → Bool} {x : Except HealthCheckerError β}
    {f : β → Except HealthCheckerError α} :
    okHealthy isHealthy (x >>= f) = true ↔
      ∃ b, x = .ok b ∧ okHealthy isHealthy (f b) = true := by
  cases x <;> simp [okHealthy]

/-- The loop is healthy exactly when every check is, its default being healthy. -/
theorem okHealthy_checkEachHealth {κ α : Type} (check : κ → Except HealthCheckerError α)
    (isHealthy : α → Bool) {healthy : α} (hhealthy : isHealthy healthy = true) (xs : List κ) :
    okHealthy isHealthy (checkEachHealth check isHealthy healthy xs) = true ↔
      ∀ x ∈ xs, okHealthy isHealthy (check x) = true := by
  rw [checkEachHealth_eq]
  cases hfind : xs.find? (fun x => !okHealthy isHealthy (check x)) with
  | some x =>
    -- the check found is not healthy, and it is one of the checks
    have hx : okHealthy isHealthy (check x) = false := by simpa using List.find?_some hfind
    simp only [hx, Bool.false_eq_true, false_iff, not_forall]
    exact ⟨x, List.mem_of_find?_eq_some hfind, by simp [hx]⟩
  | none =>
    have hall := List.find?_eq_none.mp hfind
    refine iff_of_true hhealthy fun x hx => ?_
    simpa using hall x hx

/-! ### Selecting objects -/

/-- `LABEL_RELEASE_FLUX`. -/
def labelReleaseFlux : List Char := "helm.toolkit.fluxcd.io/name".toList

/-- Models `ResourceFilter`. -/
inductive ResourceFilter where
  | byName (name : List Char)
  | byFluxLabel (release : List Char)

/-- Models `name_filter`. -/
def nameFilter (name : List Char) (metadata : ObjectMeta) : Bool := metadata.name == some name

/-- Models `flux_release_filter`: the selector `LABEL_RELEASE_FLUX = release` on the labels. -/
def fluxReleaseFilter (release : List Char) (metadata : ObjectMeta) : Bool :=
  match metadata.labels with
  | some labels => labels.lookup labelReleaseFlux == some release
  | none => false

/-- The objects a filter selects, as each workload checker filters its listing. -/
def ResourceFilter.select {κ : Type} (metadataOf : κ → ObjectMeta) : ResourceFilter → List κ → List κ
  | .byName name, items => items.filter fun x => nameFilter name (metadataOf x)
  | .byFluxLabel release, items => items.filter fun x => fluxReleaseFilter release (metadataOf x)

/-- Models `get_metadata_name`, with `Error::MissingName` as the health error it becomes. -/
def getMetadataName (kind : List Char) (metadata : ObjectMeta) :
    Except HealthCheckerError (List Char) :=
  match metadata.name with
  | some name => .ok name
  | none => .error (.k8sError (kind ++ " does not have .metadata.name".toList))

/-- Models `missing_field_error`. -/
def missingFieldError (kind name field : List Char) : HealthCheckerError :=
  .missingK8sObjectField kind name field

/-- A field the check needs, or the error naming it: `ok_or_else(|| missing_field_error(..))`. -/
def requireField {α : Type} (kind name field : List Char) (o : Option α) :
    Except HealthCheckerError α :=
  o.okOrElse (missingFieldError kind name field)

/-- Models `check_health_for_items`. -/
def checkHealthForItems {κ : Type} (now : Int) (healthCheckFn : κ → Except HealthCheckerError Health)
    (items : List κ) : Except HealthCheckerError Health :=
  checkEachHealth healthCheckFn Health.isHealthy (.healthy (Healthy.new now)) items

/-- The `check_health` shared by the workload checkers: list the objects of the namespace, select
them, and check them in turn. -/
def checkWorkloadHealth {κ : Type} (now startTime : Int) (listed : Except (List Char) (List κ))
    (metadataOf : κ → ObjectMeta) (check : κ → Except HealthCheckerError Health)
    (filter : ResourceFilter) : Except HealthCheckerError HealthWithStartTime := do
  let items ← listed.mapError .k8sError
  let health ← checkHealthForItems now check (filter.select metadataOf items)
  pure ⟨startTime, health⟩

/-- A workload checker is healthy exactly when the listing succeeds and every object it selects
is healthy. -/
theorem checkWorkloadHealth_healthy_iff {κ : Type} (now startTime : Int)
    (listed : Except (List Char) (List κ)) (metadataOf : κ → ObjectMeta)
    (check : κ → Except HealthCheckerError Health) (filter : ResourceFilter) :
    okHealthy HealthWithStartTime.isHealthy
        (checkWorkloadHealth now startTime listed metadataOf check filter) = true ↔
      ∃ items, listed = .ok items ∧
        ∀ x ∈ filter.select metadataOf items, okHealthy Health.isHealthy (check x) = true := by
  have hhealthy : Health.isHealthy (.healthy (Healthy.new now)) = true := rfl
  cases listed with
  | error e => simp [checkWorkloadHealth, Except.mapError, okHealthy]
  | ok items =>
    simp only [checkWorkloadHealth, Except.mapError, Except.ok.injEq, exists_eq_left',
      Except.ok_bind]
    rw [← okHealthy_checkEachHealth check Health.isHealthy hhealthy, ← checkHealthForItems]
    -- the start time does not change whether the health is healthy
    cases checkHealthForItems now check (filter.select metadataOf items) <;> rfl

/-! ### Deployments -/

/-- The part of `DeploymentSpec` the check reads. -/
structure DeploymentSpec where
  replicas : Option Int

/-- The part of `DeploymentStatus` the check reads. -/
structure DeploymentStatus where
  availableReplicas : Option Int
  unavailableReplicas : Option Int

/-- The part of `Deployment` the check reads. -/
structure Deployment where
  metadata : ObjectMeta
  spec : Option DeploymentSpec
  status : Option DeploymentStatus

/-- `Deployment::KIND`. -/
def deploymentKind : List Char := "Deployment".toList

/-- Models `K8sHealthDeployment::check_deployment_health`. -/
def checkDeploymentHealth (now : Int) (deployment : Deployment) : Except HealthCheckerError Health := do
  let name ← getMetadataName deploymentKind deployment.metadata
  let status ← requireField deploymentKind name ".status".toList deployment.status
  -- any unavailable pod makes the deployment unhealthy
  match status.unavailableReplicas.filter (0 < ·) with
  | some unavailableReplicas =>
    pure (.unhealthy (Unhealthy.new now ("Deployment `".toList ++ name ++ "`: has ".toList ++
      (toString unavailableReplicas).toList ++ " unavailable replicas".toList)))
  | none => do
    let spec ← requireField deploymentKind name ".spec".toList deployment.spec
    let desiredReplicas ← requireField deploymentKind name "spec.replicas".toList spec.replicas
    let availableReplicas := status.availableReplicas.getD 0
    if availableReplicas < desiredReplicas then
      pure (.unhealthy (Unhealthy.new now ("Deployment `".toList ++ name ++
        "`: available replicas `".toList ++ (toString availableReplicas).toList ++
        "` is less than desired `".toList ++ (toString desiredReplicas).toList ++ "`".toList)))
    else pure (.healthy (Healthy.new now))

/-- A deployment is healthy exactly when it has a name, a status, a spec and its desired replicas,
no replica is unavailable, and the available replicas reach the desired ones. -/
theorem checkDeploymentHealth_healthy_iff (now : Int) (d : Deployment) :
    okHealthy Health.isHealthy (checkDeploymentHealth now d) = true ↔
      ∃ name status spec desired, d.metadata.name = some name ∧ d.status = some status ∧
        d.spec = some spec ∧ spec.replicas = some desired ∧
        status.unavailableReplicas.getD 0 ≤ 0 ∧ desired ≤ status.availableReplicas.getD 0 := by
  obtain ⟨⟨name?, ns, labels, annotations⟩, spec?, status?⟩ := d
  -- a field missing on the way is an error, and an error is not healthy
  rcases name? with _ | name <;> rcases status? with _ | ⟨available, unavailable⟩ <;>
    simp [checkDeploymentHealth, getMetadataName, requireField, Option.okOrElse, okHealthy]
  -- the unavailable replicas decide first, then the spec and the replicas it asks for
  have hunavailable : unavailable.filter (0 < ·) = none ↔ unavailable.getD 0 ≤ 0 := by
    rcases unavailable with _ | u
    · simp
    · by_cases hu : 0 < u
      · simp [Option.filter, hu]
      · simp [Option.filter, hu]
        omega
  cases hfilter : unavailable.filter (0 < ·) with
  | some u =>
    have hpos : ¬ unavailable.getD 0 ≤ 0 := fun h => by simp [hunavailable.mpr h] at hfilter
    simp [Health.isHealthy, hpos]
  | none =>
    have hle := hunavailable.mp hfilter
    rcases spec? with _ | ⟨_ | desired⟩ <;> simp [hle]
    -- short of the desired replicas is unhealthy, and reaching them healthy
    by_cases hlt : available.getD 0 < desired
    · simp [hlt, Health.isHealthy]
    · simp [hlt, Health.isHealthy]
      omega

/-! ### Daemon sets -/

/-- The part of `DaemonSetUpdateStrategy` the check reads. -/
structure DaemonSetUpdateStrategy where
  type_ : Option (List Char)

/-- The part of `DaemonSetSpec` the check reads. -/
structure DaemonSetSpec where
  updateStrategy : Option DaemonSetUpdateStrategy

/-- The part of `DaemonSetStatus` the check reads. -/
structure DaemonSetStatus where
  desiredNumberScheduled : Int
  numberReady : Int
  numberUnavailable : Option Int
  updatedNumberScheduled : Option Int

/-- The part of `DaemonSet` the check reads. -/
structure DaemonSet where
  metadata : ObjectMeta
  spec : Option DaemonSetSpec
  status : Option DaemonSetStatus

/-- `DaemonSet::KIND`. -/
def daemonSetKind : List Char := "DaemonSet".toList

/-- `ROLLING_UPDATE_UPDATE_STRATEGY`. -/
def rollingUpdateUpdateStrategy : List Char := "RollingUpdate".toList

/-- Models `is_daemon_set_update_strategy_rolling_update`. -/
def isDaemonSetUpdateStrategyRollingUpdate (name : List Char) (daemonSet : DaemonSet) :
    Except HealthCheckerError Bool := do
  let spec ← requireField daemonSetKind name ".spec".toList daemonSet.spec
  let updateStrategy ← requireField daemonSetKind name ".spec.updateStrategy".toList spec.updateStrategy
  let updateType ← requireField daemonSetKind name ".spec.updateStrategy.type_".toList
    updateStrategy.type_
  pure (updateType == rollingUpdateUpdateStrategy)

/-- Models `K8sHealthDaemonSet::check_health_single_daemon_set`. -/
def checkHealthSingleDaemonSet (now : Int) (ds : DaemonSet) : Except HealthCheckerError Health := do
  let name ← getMetadataName daemonSetKind ds.metadata
  let status ← requireField daemonSetKind name ".status".toList ds.status
  if status.numberReady < status.desiredNumberScheduled then
    pure (.unhealthy (Unhealthy.new now ("DaemonSet `".toList ++ name ++
      "`: the number of pods ready `".toList ++ (toString status.numberReady).toList ++
      "` is less that the desired `".toList ++ (toString status.desiredNumberScheduled).toList ++
      "`".toList)))
  else if status.numberUnavailable.any (0 < ·) then
    pure (.unhealthy (Unhealthy.new now ("DaemonSet `".toList ++ name ++ "`: the are ".toList ++
      (toString (status.numberUnavailable.getD 0)).toList ++ " unavailable pods".toList)))
  else do
    -- under a rolling update every pod must run the latest version
    let rollingUpdate ← isDaemonSetUpdateStrategyRollingUpdate name ds
    let updatedNumberScheduled := status.updatedNumberScheduled.getD 0
    if rollingUpdate && decide (updatedNumberScheduled < status.desiredNumberScheduled) then
      pure (.unhealthy (Unhealthy.new now ("DaemonSet `".toList ++ name ++
        "`: the number of nodes having an updated and ready replica `".toList ++
        (toString updatedNumberScheduled).toList ++ "` is less that the desired `".toList ++
        (toString status.desiredNumberScheduled).toList ++ "`".toList)))
    else pure (.healthy (Healthy.new now))

/-- A daemon set is healthy exactly when it has a name and a status, the ready pods reach the
desired ones, none is unavailable, and it has an update strategy with a type, under which, if it
is a rolling update, the updated pods reach the desired ones too. -/
theorem checkHealthSingleDaemonSet_healthy_iff (now : Int) (ds : DaemonSet) :
    okHealthy Health.isHealthy (checkHealthSingleDaemonSet now ds) = true ↔
      ∃ name status spec strategy updateType, ds.metadata.name = some name ∧
        ds.status = some status ∧ status.desiredNumberScheduled ≤ status.numberReady ∧
        status.numberUnavailable.getD 0 ≤ 0 ∧ ds.spec = some spec ∧
        spec.updateStrategy = some strategy ∧ strategy.type_ = some updateType ∧
        (updateType = rollingUpdateUpdateStrategy →
          status.desiredNumberScheduled ≤ status.updatedNumberScheduled.getD 0) := by
  obtain ⟨⟨name?, ns, labels, annotations⟩, spec?, status?⟩ := ds
  rcases name? with _ | name <;>
    rcases status? with _ | ⟨desired, ready, unavailable, updated⟩ <;>
    simp [checkHealthSingleDaemonSet, getMetadataName, requireField, Option.okOrElse, okHealthy]
  -- the ready pods decide first, then the unavailable ones, then the update strategy
  by_cases hready : ready < desired
  · simp [hready, Health.isHealthy]
  have hunavailable : unavailable.any (0 < ·) = true ↔ ¬ unavailable.getD 0 ≤ 0 := by
    rcases unavailable with _ | u <;> simp
  by_cases hu : unavailable.any (0 < ·) = true
  · simp [hready, hu, Health.isHealthy, hunavailable.mp hu]
  have hle : unavailable.getD 0 ≤ 0 := by
    by_contra h
    exact hu (hunavailable.mpr h)
  rcases spec? with _ | ⟨_ | ⟨_ | updateType⟩⟩ <;>
    simp [hready, hu, hle, isDaemonSetUpdateStrategyRollingUpdate, requireField, Option.okOrElse]
  have hdesired : desired ≤ ready := Int.not_lt.mp hready
  by_cases hrolling : updateType = rollingUpdateUpdateStrategy
  · by_cases hupdated : updated.getD 0 < desired
    · simp [hrolling, hupdated, Health.isHealthy]
    · simp [hrolling, hupdated, Health.isHealthy, hdesired]
      omega
  · simp [hrolling, Health.isHealthy, hdesired]

/-! ### Stateful sets -/

/-- The part of `StatefulSetSpec` the check reads. -/
structure StatefulSetSpec where
  replicas : Option Int

/-- The part of `StatefulSetStatus` the check reads. -/
structure StatefulSetStatus where
  readyReplicas : Option Int

/-- The part of `StatefulSet` the check reads. -/
structure StatefulSet where
  metadata : ObjectMeta
  spec : Option StatefulSetSpec
  status : Option StatefulSetStatus

/-- `StatefulSet::KIND`. -/
def statefulSetKind : List Char := "StatefulSet".toList

/-- Models `K8sHealthStatefulSet::stateful_set_health`. -/
def statefulSetHealth (now : Int) (sts : StatefulSet) : Except HealthCheckerError Health := do
  let name ← getMetadataName statefulSetKind sts.metadata
  let spec ← requireField statefulSetKind name ".spec".toList sts.spec
  let status ← requireField statefulSetKind name ".status".toList sts.status
  let replicas := spec.replicas.getD 1
  let readyReplicas ← requireField statefulSetKind name ".status.readyReplicas".toList
    status.readyReplicas
  if replicas ≠ readyReplicas then
    pure (.unhealthy (Unhealthy.new now ("StatefulSet `".toList ++ name ++
      "` not ready: replicas `".toList ++ (toString replicas).toList ++
      "` different from ready_replicas `".toList ++ (toString readyReplicas).toList ++ "`".toList)))
  else pure (.healthy (Healthy.new now))

/-- A stateful set is healthy exactly when it has a name, a spec, a status and a count of ready
replicas, which is its replicas, one by default. -/
theorem statefulSetHealth_healthy_iff (now : Int) (sts : StatefulSet) :
    okHealthy Health.isHealthy (statefulSetHealth now sts) = true ↔
      ∃ name spec status ready, sts.metadata.name = some name ∧ sts.spec = some spec ∧
        sts.status = some status ∧ status.readyReplicas = some ready ∧
        spec.replicas.getD 1 = ready := by
  obtain ⟨⟨name?, ns, labels, annotations⟩, spec?, status?⟩ := sts
  rcases name? with _ | name <;> rcases spec? with _ | spec <;>
    rcases status? with _ | ⟨_ | ready⟩ <;>
    simp [statefulSetHealth, getMetadataName, requireField, Option.okOrElse, okHealthy]
  by_cases hready : spec.replicas.getD 1 = ready
  · simp [hready, Health.isHealthy]
  · simp [hready, Health.isHealthy]
    exact fun h => hready h.symm

/-! ### The client and the workload checkers -/

/-- Models `kube::api::TypeMeta`. -/
structure TypeMeta where
  apiVersion : List Char
  kind : List Char
  deriving DecidableEq

/-- Models `helmrelease_v2_type_meta`. -/
def helmreleaseV2TypeMeta : TypeMeta := ⟨"helm.toolkit.fluxcd.io/v2".toList, "HelmRelease".toList⟩

/-- Models `instrumentation_v1beta3_type_meta`. -/
def instrumentationV1beta3TypeMeta : TypeMeta :=
  ⟨"newrelic.com/v1beta3".toList, "Instrumentation".toList⟩

/-- What the checks ask of `K8sClient`, as the cluster answered: the data of an object by its type,
name and namespace, and the workloads of a namespace; an error by the text it displays as. -/
structure K8sClient where
  getDynamicObject : TypeMeta → List Char → List Char → Except (List Char) (Option JsonValue)
  listStatefulSet : List Char → Except (List Char) (List StatefulSet)
  listDaemonSet : List Char → Except (List Char) (List DaemonSet)
  listDeployment : List Char → Except (List Char) (List Deployment)

/-- The fields of a workload checker: `K8sHealthDeployment`, `K8sHealthDaemonSet` and
`K8sHealthStatefulSet` have the same. -/
structure K8sHealthWorkload where
  filter : ResourceFilter
  startTime : Int
  «namespace» : List Char

/-- Models `K8sHealthDeployment::check_health`. -/
def K8sHealthWorkload.checkDeployment (w : K8sHealthWorkload) (client : K8sClient) (now : Int) :
    Except HealthCheckerError HealthWithStartTime :=
  checkWorkloadHealth now w.startTime (client.listDeployment w.namespace) Deployment.metadata
    (checkDeploymentHealth now) w.filter

/-- Models `K8sHealthDaemonSet::check_health`. -/
def K8sHealthWorkload.checkDaemonSet (w : K8sHealthWorkload) (client : K8sClient) (now : Int) :
    Except HealthCheckerError HealthWithStartTime :=
  checkWorkloadHealth now w.startTime (client.listDaemonSet w.namespace) DaemonSet.metadata
    (checkHealthSingleDaemonSet now) w.filter

/-- Models `K8sHealthStatefulSet::check_health`. -/
def K8sHealthWorkload.checkStatefulSet (w : K8sHealthWorkload) (client : K8sClient) (now : Int) :
    Except HealthCheckerError HealthWithStartTime :=
  checkWorkloadHealth now w.startTime (client.listStatefulSet w.namespace) StatefulSet.metadata
    (statefulSetHealth now) w.filter

/-! ### Helm releases -/

/-- `CONDITION_READY`. -/
def conditionReady : List Char := "Ready".toList

/-- Models `ConditionStatus`. -/
inductive ConditionStatus where
  | true
  | false
  | unknown
  deriving DecidableEq

/-- Models `From<&str> for ConditionStatus`. -/
def ConditionStatus.ofStr (s : List Char) : ConditionStatus :=
  if s = "True".toList then .true else if s = "False".toList then .false else .unknown

/-- Models `K8sHealthHelmRelease`; the client is what it answered. -/
structure K8sHealthHelmRelease where
  typeMeta : TypeMeta
  name : List Char
  «namespace» : List Char
  startTime : Int

namespace K8sHealthHelmRelease

/-- Models `K8sHealthHelmRelease::get_status`. -/
def getStatus (hr : K8sHealthHelmRelease) (helmReleaseData : List (List Char × JsonValue)) :
    Except HealthCheckerError (List (List Char × JsonValue)) :=
  ((JsonValue.getMember helmReleaseData "status".toList).bind JsonValue.asObject).okOrElse
    (.generic ("Failed to parse status of HelmRelease '".toList ++ hr.name ++ ['\'']))

/-- Models `K8sHealthHelmRelease::get_status_conditions`. -/
def getStatusConditions (hr : K8sHealthHelmRelease) (status : List (List Char × JsonValue)) :
    Except HealthCheckerError (List JsonValue) :=
  ((JsonValue.getMember status "conditions".toList).bind JsonValue.asArray).okOrElse
    (.generic ("No conditions found in status of HelmRelease '".toList ++ hr.name ++ ['\'']))

/-- Models `K8sHealthHelmRelease::find_ready_condition`: the first condition of type `Ready`. -/
def findReadyCondition (conditions : List JsonValue) : Option JsonValue :=
  conditions.find? fun cond => ((cond.get "type".toList).bind JsonValue.asStr) == some conditionReady

/-- The message of a condition, or the text used when it has none. -/
def conditionMessage (condition : JsonValue) : List Char :=
  ((condition.get "message".toList).bind JsonValue.asStr).getD "No specific message found".toList

/-- Models `K8sHealthHelmRelease::is_healthy_and_message`. -/
def isHealthyAndMessage (conditions : List JsonValue) : Bool × List Char :=
  match findReadyCondition conditions with
  | some condition =>
    match ((condition.get "status".toList).bind JsonValue.asStr).map ConditionStatus.ofStr with
    | some .true => (true, "HelmRelease is healthy".toList)
    | some .false => (false, "HelmRelease not ready: ".toList ++ conditionMessage condition)
    | some .unknown => (false, "HelmRelease status unknown: ".toList ++ conditionMessage condition)
    | none => (false, "HelmRelease status missing".toList)
  | none => (false, "No 'Ready' condition was found".toList)

/-- Models `K8sHealthHelmRelease::check_health`. -/
def checkHealth (hr : K8sHealthHelmRelease) (client : K8sClient) (now : Int) :
    Except HealthCheckerError HealthWithStartTime := do
  let fetched ← (client.getDynamicObject hr.typeMeta hr.name hr.namespace).mapError fun e =>
    .generic ("Error fetching HelmRelease '".toList ++ hr.name ++ "': ".toList ++ e)
  let helmRelease ← fetched.okOrElse
    (.generic ("HelmRelease '".toList ++ hr.name ++ "' not found".toList))
  let helmReleaseData ← helmRelease.asObject.okOrElse
    (.generic "HelmRelease data is not an object".toList)
  let status ← hr.getStatus helmReleaseData
  let conditions ← hr.getStatusConditions status
  let (isHealthy, message) := isHealthyAndMessage conditions
  if isHealthy then pure ⟨hr.startTime, .healthy (Healthy.new now)⟩
  else pure ⟨hr.startTime, .unhealthy (Unhealthy.new now message)⟩

end K8sHealthHelmRelease

/-! ### Instrumentations -/

/-- Models `UnhealthyPodError`. -/
structure UnhealthyPodError where
  pod : List Char
  lastError : List Char

/-- Models `Display for UnhealthyPodError`. -/
def UnhealthyPodError.toString (e : UnhealthyPodError) : List Char :=
  "pod ".toList ++ e.pod ++ ':' :: e.lastError

/-- Models `InstrumentationStatus`; its counts are `u64`. -/
structure InstrumentationStatus where
  podsMatching : Nat
  podsHealthy : Nat
  podsInjected : Nat
  podsNotReady : Nat
  podsOutdated : Nat
  podsUnhealthy : Nat
  unhealthyPodsErrors : List UnhealthyPodError
  entityGuids : List (List Char)

namespace InstrumentationStatus

/-- Models `Display for InstrumentationStatus`. -/
def toString (s : InstrumentationStatus) : List Char :=
  "podsMatching:".toList ++ (Nat.repr s.podsMatching).toList ++
    ", podsHealthy:".toList ++ (Nat.repr s.podsHealthy).toList ++
    ", podsInjected:".toList ++ (Nat.repr s.podsInjected).toList ++
    ", podsNotReady:".toList ++ (Nat.repr s.podsNotReady).toList ++
    ", podsOutdated:".toList ++ (Nat.repr s.podsOutdated).toList ++
    ", podsUnhealthy:".toList ++ (Nat.repr s.podsUnhealthy).toList

/-- Models `InstrumentationStatus::is_healthy`. -/
def isHealthy (s : InstrumentationStatus) : Bool :=
  s.podsNotReady == 0 && s.podsUnhealthy == 0 && decide (0 < s.podsHealthy) &&
    decide (0 < s.podsMatching) && s.podsInjected == s.podsMatching

/-- Models `InstrumentationStatus::last_error`: the errors of the unhealthy pods. -/
def lastError (s : InstrumentationStatus) : List Char :=
  ", ".toList.intercalate (s.unhealthyPodsErrors.map UnhealthyPodError.toString)

/-- Models `InstrumentationStatus::get_health`, at the time `now`. -/
def getHealth (s : InstrumentationStatus) (now : Int) : Health :=
  if s.isHealthy then .healthy { Healthy.new now with status := s.toString }
  else .unhealthy { Unhealthy.new now s.lastError with status := s.toString }

end InstrumentationStatus

/-- Models `K8sHealthNRInstrumentation`. -/
structure K8sHealthNRInstrumentation where
  typeMeta : TypeMeta
  name : List Char
  «namespace» : List Char
  startTime : Int

/-- Models `K8sHealthNRInstrumentation::check_health`; `serde_json::from_value` into an
`InstrumentationStatus` is `parseStatus`, with its error as text. -/
def K8sHealthNRInstrumentation.checkHealth (i : K8sHealthNRInstrumentation) (client : K8sClient)
    (parseStatus : JsonValue → Except (List Char) InstrumentationStatus) (now : Int) :
    Except HealthCheckerError HealthWithStartTime := do
  let fetched ← (client.getDynamicObject i.typeMeta i.name i.namespace).mapError fun e =>
    .generic ("instrumentation CR could not be fetched'".toList ++ i.name ++ "': ".toList ++ e)
  let instrumentation ← fetched.okOrElse
    (.generic ("Instrumentation '".toList ++ i.name ++ "' not found".toList))
  let instrumentationData ← instrumentation.asObject.okOrElse
    (.generic "instrumentation CR data is not an object".toList)
  let status ← (JsonValue.getMember instrumentationData "status".toList).okOrElse
    (.generic "instrumentation status could not be retrieved".toList)
  let status ← (parseStatus status).mapError fun e =>
    .generic ("could not deserialize a valid instrumentation status: ".toList ++ e)
  pure ⟨i.startTime, status.getHealth now⟩

/-! ### All the checkers of an agent -/

/-- Models `K8sResourceHealthChecker`. -/
inductive K8sResourceHealthChecker where
  | helmRelease (hr : K8sHealthHelmRelease)
  | newRelic (i : K8sHealthNRInstrumentation)
  | statefulSet (w : K8sHealthWorkload)
  | daemonSet (w : K8sHealthWorkload)
  | deployment (w : K8sHealthWorkload)

/-- Models `HealthChecker for K8sResourceHealthChecker`. -/
def K8sResourceHealthChecker.checkHealth (client : K8sClient)
    (parseStatus : JsonValue → Except (List Char) InstrumentationStatus) (now : Int) :
    K8sResourceHealthChecker → Except HealthCheckerError HealthWithStartTime
  | .helmRelease hr => hr.checkHealth client now
  | .newRelic i => i.checkHealth client parseStatus now
  | .statefulSet w => w.checkStatefulSet client now
  | .daemonSet w => w.checkDaemonSet client now
  | .deployment w => w.checkDeployment client now

/-- Models `K8sHealthChecker`. -/
structure K8sHealthChecker (HC : Type) where
  healthCheckers : List HC
  startTime : Int

/-- Models `HealthChecker for K8sHealthChecker`: the checkers in turn, up to the first error or
unhealthy result. -/
def K8sHealthChecker.checkHealth {HC : Type}
    (checkHealth : HC → Except HealthCheckerError HealthWithStartTime) (now : Int)
    (k : K8sHealthChecker HC) : Except HealthCheckerError HealthWithStartTime :=
  checkEachHealth checkHealth HealthWithStartTime.isHealthy ⟨k.startTime, .healthy (Healthy.new now)⟩
    k.healthCheckers

/-- Models `K8sHealthResourceKind`. -/
inductive K8sHealthResourceKind where
  | deployment
  | daemonSet
  | statefulSet
  | instrumentation
  | helmReleaseWorkload
  deriving DecidableEq

/-- Models `K8sHealthCheckDefinition`. -/
structure K8sHealthCheckDefinition where
  name : List Char
  «namespace» : List Char
  kind : K8sHealthResourceKind
  targetNamespace : Option (List Char)

/-- Models `checkers_for_check_definition`: a Helm release workload is the release by its name,
and the workloads that carry its Flux label in the target namespace. -/
def checkersForCheckDefinition (check : K8sHealthCheckDefinition) (startTime : Int) :
    List K8sResourceHealthChecker :=
  match check.kind with
  | .deployment => [.deployment ⟨.byName check.name, startTime, check.namespace⟩]
  | .daemonSet => [.daemonSet ⟨.byName check.name, startTime, check.namespace⟩]
  | .statefulSet => [.statefulSet ⟨.byName check.name, startTime, check.namespace⟩]
  | .instrumentation =>
    [.newRelic ⟨instrumentationV1beta3TypeMeta, check.name, check.namespace, startTime⟩]
  | .helmReleaseWorkload =>
    let targetNs := check.targetNamespace.getD check.namespace
    [.helmRelease ⟨helmreleaseV2TypeMeta, check.name, check.namespace, startTime⟩,
      .statefulSet ⟨.byFluxLabel check.name, startTime, targetNs⟩,
      .daemonSet ⟨.byFluxLabel check.name, startTime, targetNs⟩,
      .deployment ⟨.byFluxLabel check.name, startTime, targetNs⟩]

/-- Models `K8sHealthChecker::from_checks_definition`: no checker at all disables the checks. -/
def K8sHealthChecker.fromChecksDefinition (checks : List K8sHealthCheckDefinition)
    (startTime : Int) : Option (K8sHealthChecker K8sResourceHealthChecker) :=
  let healthCheckers := checks.flatMap fun check => checkersForCheckDefinition check startTime
  if healthCheckers.isEmpty then none else some ⟨healthCheckers, startTime⟩

/-- Models `health_checkers_for_type_meta`: a Helm release and its workloads, an
instrumentation, or nothing for any other type. -/
def healthCheckersForTypeMeta (typeMeta : TypeMeta) (name «namespace» : List Char)
    (targetNamespace : Option (List Char)) (startTime : Int) : List K8sResourceHealthChecker :=
  if typeMeta = helmreleaseV2TypeMeta then
    let targetNamespace := targetNamespace.getD «namespace»
    [.helmRelease ⟨typeMeta, name, «namespace», startTime⟩,
      .statefulSet ⟨.byFluxLabel name, startTime, targetNamespace⟩,
      .daemonSet ⟨.byFluxLabel name, startTime, targetNamespace⟩,
      .deployment ⟨.byFluxLabel name, startTime, targetNamespace⟩]
  else if typeMeta = instrumentationV1beta3TypeMeta then
    [.newRelic ⟨typeMeta, name, «namespace», startTime⟩]
  else []

/-! ### What makes each checker healthy -/

/-- The deployment checker is healthy exactly when the deployments of its namespace are listed and
every one it selects has a name, a status, a spec and desired replicas, no unavailable replica,
and as many available replicas as desired. -/
theorem K8sHealthWorkload.checkDeployment_healthy_iff (w : K8sHealthWorkload) (client : K8sClient)
    (now : Int) :
    okHealthy HealthWithStartTime.isHealthy (w.checkDeployment client now) = true ↔
      ∃ deployments, client.listDeployment w.namespace = .ok deployments ∧
        ∀ d ∈ w.filter.select Deployment.metadata deployments,
          ∃ name status spec desired, d.metadata.name = some name ∧ d.status = some status ∧
            d.spec = some spec ∧ spec.replicas = some desired ∧
            status.unavailableReplicas.getD 0 ≤ 0 ∧ desired ≤ status.availableReplicas.getD 0 := by
  rw [K8sHealthWorkload.checkDeployment, checkWorkloadHealth_healthy_iff]
  simp only [checkDeploymentHealth_healthy_iff]

/-- The daemon set checker is healthy exactly when the daemon sets of its namespace are listed and
every one it selects has a name and a status with the desired pods ready and none unavailable,
and an update strategy with a type, under which a rolling update has the desired pods updated. -/
theorem K8sHealthWorkload.checkDaemonSet_healthy_iff (w : K8sHealthWorkload) (client : K8sClient)
    (now : Int) :
    okHealthy HealthWithStartTime.isHealthy (w.checkDaemonSet client now) = true ↔
      ∃ daemonSets, client.listDaemonSet w.namespace = .ok daemonSets ∧
        ∀ ds ∈ w.filter.select DaemonSet.metadata daemonSets,
          ∃ name status spec strategy updateType, ds.metadata.name = some name ∧
            ds.status = some status ∧ status.desiredNumberScheduled ≤ status.numberReady ∧
            status.numberUnavailable.getD 0 ≤ 0 ∧ ds.spec = some spec ∧
            spec.updateStrategy = some strategy ∧ strategy.type_ = some updateType ∧
            (updateType = rollingUpdateUpdateStrategy →
              status.desiredNumberScheduled ≤ status.updatedNumberScheduled.getD 0) := by
  rw [K8sHealthWorkload.checkDaemonSet, checkWorkloadHealth_healthy_iff]
  simp only [checkHealthSingleDaemonSet_healthy_iff]

/-- The stateful set checker is healthy exactly when the stateful sets of its namespace are listed
and every one it selects has a name, a spec, and a status whose ready replicas are its replicas,
one by default. -/
theorem K8sHealthWorkload.checkStatefulSet_healthy_iff (w : K8sHealthWorkload) (client : K8sClient)
    (now : Int) :
    okHealthy HealthWithStartTime.isHealthy (w.checkStatefulSet client now) = true ↔
      ∃ statefulSets, client.listStatefulSet w.namespace = .ok statefulSets ∧
        ∀ sts ∈ w.filter.select StatefulSet.metadata statefulSets,
          ∃ name spec status ready, sts.metadata.name = some name ∧ sts.spec = some spec ∧
            sts.status = some status ∧ status.readyReplicas = some ready ∧
            spec.replicas.getD 1 = ready := by
  rw [K8sHealthWorkload.checkStatefulSet, checkWorkloadHealth_healthy_iff]
  simp only [statefulSetHealth_healthy_iff]

theorem ConditionStatus.ofStr_eq_true {s : List Char} :
    ConditionStatus.ofStr s = .true ↔ s = "True".toList := by
  unfold ConditionStatus.ofStr
  split_ifs <;> simp_all

theorem K8sHealthHelmRelease.isHealthyAndMessage_fst_of_ready {conditions : List JsonValue}
    {condition : JsonValue} (hready : findReadyCondition conditions = some condition) :
    (isHealthyAndMessage conditions).1 = true ↔
      ((condition.get "status".toList).bind JsonValue.asStr).map ConditionStatus.ofStr =
        some .true := by
  unfold isHealthyAndMessage
  rw [hready]
  dsimp only
  split
  · simp_all
  · simp_all
  · simp_all
  · -- a status that is no string
    rename_i hnone
    simp only [Bool.false_eq_true, false_iff]
    rw [hnone]
    exact fun h => nomatch h

/-- A Helm release is healthy exactly when the first of its conditions of type `Ready` has the
status `True`. -/
theorem K8sHealthHelmRelease.isHealthyAndMessage_fst (conditions : List JsonValue) :
    (isHealthyAndMessage conditions).1 = true ↔ ∃ condition,
      findReadyCondition conditions = some condition ∧
        condition.get "status".toList = some (.string "True".toList) := by
  cases hready : findReadyCondition conditions with
  | none => simp [isHealthyAndMessage, hready]
  | some condition =>
    rw [isHealthyAndMessage_fst_of_ready hready]
    simp [Option.bind_eq_some_iff, ConditionStatus.ofStr_eq_true]

/-- A Helm release is healthy exactly when it is found, its data is an object with a status object
holding an array of conditions, and the first condition of type `Ready` has the status `True`. -/
theorem K8sHealthHelmRelease.checkHealth_healthy_iff_ready (hr : K8sHealthHelmRelease) (client : K8sClient)
    (now : Int) :
    okHealthy HealthWithStartTime.isHealthy (hr.checkHealth client now) = true ↔
      ∃ data status conditions condition,
        client.getDynamicObject hr.typeMeta hr.name hr.namespace = .ok (some (.object data)) ∧
        JsonValue.getMember data "status".toList = some (.object status) ∧
        JsonValue.getMember status "conditions".toList = some (.array conditions) ∧
        K8sHealthHelmRelease.findReadyCondition conditions = some condition ∧
        condition.get "status".toList = some (.string "True".toList) := by
  have hlast : ∀ conditions : List JsonValue,
      okHealthy HealthWithStartTime.isHealthy
        (let (isHealthy, message) := isHealthyAndMessage conditions
          if isHealthy then pure ⟨hr.startTime, .healthy (Healthy.new now)⟩
          else pure ⟨hr.startTime, .unhealthy (Unhealthy.new now message)⟩) =
        (isHealthyAndMessage conditions).1 := by
    intro conditions
    cases isHealthyAndMessage conditions with
    | mk isHealthy message => cases isHealthy <;> rfl
  simp only [checkHealth, okHealthy_bind, Except.mapError_eq_ok, Option.okOrElse_eq_ok, getStatus,
    getStatusConditions, Option.bind_eq_some_iff, JsonValue.asObject_eq_some,
    JsonValue.asArray_eq_some, hlast, isHealthyAndMessage_fst]
  constructor
  · rintro ⟨_, hfetch, _, rfl, data, rfl, status, ⟨_, hstatus, rfl⟩, conditions,
      ⟨_, hconditions, rfl⟩, condition, hready, hcondition⟩
    exact ⟨data, status, conditions, condition, hfetch, hstatus, hconditions, hready,
      hcondition⟩
  · rintro ⟨data, status, conditions, condition, hfetch, hstatus, hconditions, hready,
      hcondition⟩
    exact ⟨_, hfetch, _, rfl, data, rfl, status, ⟨_, hstatus, rfl⟩, conditions,
      ⟨_, hconditions, rfl⟩, condition, hready, hcondition⟩

/-- An instrumentation is healthy exactly when it is found, its data is an object with a status
that reads as an `InstrumentationStatus`, and that status has every pod ready, no pod unhealthy,
some pod healthy, and every matching pod injected, of which there is at least one. -/
theorem K8sHealthNRInstrumentation.checkHealth_healthy_iff_pods (i : K8sHealthNRInstrumentation)
    (client : K8sClient) (parseStatus : JsonValue → Except (List Char) InstrumentationStatus)
    (now : Int) :
    okHealthy HealthWithStartTime.isHealthy (i.checkHealth client parseStatus now) = true ↔
      ∃ data statusValue status,
        client.getDynamicObject i.typeMeta i.name i.namespace = .ok (some (.object data)) ∧
        JsonValue.getMember data "status".toList = some statusValue ∧
        parseStatus statusValue = .ok status ∧
        status.podsNotReady = 0 ∧ status.podsUnhealthy = 0 ∧ 0 < status.podsHealthy ∧
        0 < status.podsMatching ∧ status.podsInjected = status.podsMatching := by
  have hhealth : ∀ status : InstrumentationStatus,
      (status.getHealth now).isHealthy = true ↔ status.podsNotReady = 0 ∧
        status.podsUnhealthy = 0 ∧ 0 < status.podsHealthy ∧ 0 < status.podsMatching ∧
        status.podsInjected = status.podsMatching := by
    intro status
    unfold InstrumentationStatus.getHealth
    by_cases h : status.isHealthy = true
    · simp only [h, if_true, Health.isHealthy, true_iff]
      simpa [InstrumentationStatus.isHealthy, and_assoc] using h
    · simp only [h, Bool.false_eq_true, if_false, Health.isHealthy, false_iff]
      intro hall
      exact h (by simp [InstrumentationStatus.isHealthy, hall])
  simp only [K8sHealthNRInstrumentation.checkHealth, okHealthy_bind, Except.mapError_eq_ok,
    Option.okOrElse_eq_ok, JsonValue.asObject_eq_some]
  constructor
  · rintro ⟨_, hfetch, _, rfl, data, rfl, statusValue, hstatus, status, hparse, hhealthy⟩
    exact ⟨data, statusValue, status, hfetch, hstatus, hparse, (hhealth status).mp hhealthy⟩
  · rintro ⟨data, statusValue, status, hfetch, hstatus, hparse, hhealthy⟩
    exact ⟨_, hfetch, _, rfl, data, rfl, statusValue, hstatus, status, hparse,
      (hhealth status).mpr hhealthy⟩

/-- The health of an agent is the result of its first checker that fails or is unhealthy, in
order; with none, the agent is healthy from the start time of the checker. -/
theorem K8sHealthChecker.checkHealth_eq {HC : Type}
    (checkHealth : HC → Except HealthCheckerError HealthWithStartTime) (now : Int)
    (k : K8sHealthChecker HC) :
    k.checkHealth checkHealth now =
      match k.healthCheckers.find? (fun c => !okHealthy HealthWithStartTime.isHealthy (checkHealth c)) with
      | some c => checkHealth c
      | none => .ok ⟨k.startTime, .healthy (Healthy.new now)⟩ :=
  checkEachHealth_eq checkHealth HealthWithStartTime.isHealthy _ k.healthCheckers

end AgentControl
