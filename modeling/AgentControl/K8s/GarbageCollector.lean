import AgentControl.AgentType.AgentTypeId
import AgentControl.Package.Manager
import AgentControl.Lib.EState

/-!
# The Kubernetes garbage collector

`K8sGarbageCollector` (`agent_control/resource_cleaner/k8s_garbage_collector.rs`) deletes the
Kubernetes resources of sub-agents that are gone. `retain` keeps the resources of the agents of
an active map and deletes the other sub-agents' resources; `collect` deletes the resources of one
agent of one agent type. Each lists Agent Control's ConfigMaps and then, in two namespaces, the
dynamic objects of every resource type it knows, and decides object by object
(`should_delete_dynamic_object`) from the object's labels and annotations.

The cluster is the environment: what each listing returns and whether each deletion succeeds
(`ClusterAnswers`). A pass stops at its first error, and what it deleted before stays deleted;
so a pass is an `EStateM` computation over the log of its deletions.

An object is deleted only when it is labelled as managed by Agent Control, annotated as owned by
a sub-agent, and its agent-id label reads as a sub-agent id that is not reserved; by `retain`,
when that id is not active or the object's agent type differs from the active one; by
`collect`, when it is the collected id and the object's agent type is the collected one
(`deletes_only_dead_sub_agent_objects`). An agent-id label that spells Agent Control's id, in any
letter case, is reserved, so no mode deletes such an object.
-/

namespace AgentControl

/-! ### Agent ids -/

/-- `AGENT_ID_MAX_LENGTH`. -/
def agentIdMaxLength : Nat := 32

/-- `RESERVED_AGENT_IDS`. -/
def reservedAgentIds : List (List Char) := [agentControlId]

/-- Models `AgentIDError`. -/
inductive AgentIDError where
  | invalidFormat
  | reserved (id : List Char)
  deriving DecidableEq, Repr

/-- Models `agent_id_str_validation`: at most 32 bytes, RFC 1035 label characters. -/
def agentIdStrValidation (s : List Char) : Bool :=
  decide (Text.utf8Len s ≤ agentIdMaxLength) && s.head?.any Char.isAlpha &&
    s.getLast?.any Char.isAlphanum && s.all fun c => c == '-' || c.isDigit || c.isLower

/-- Models `agent_id_not_reserved_and_valid`. -/
def agentIdNotReservedAndValid (s : List Char) : Except AgentIDError Unit :=
  if reservedAgentIds.any (Text.eqIgnoreAsciiCase s) then .error (.reserved s)
  else if agentIdStrValidation s then .ok ()
  else .error .invalidFormat

/-- Models `TryFrom<&str> for AgentID`. -/
def AgentID.tryFrom (input : List Char) : Except AgentIDError AgentID := do
  agentIdNotReservedAndValid input
  return .subAgent input

/-- An id that `AgentID::try_from` accepts is a sub-agent's, and it does not spell Agent
Control's id in any letter case. -/
theorem AgentID.tryFrom_eq_ok {input : List Char} {id : AgentID}
    (h : AgentID.tryFrom input = .ok id) :
    id = .subAgent input ∧ Text.eqIgnoreAsciiCase input agentControlId = false := by
  unfold AgentID.tryFrom at h
  obtain ⟨⟨⟩, hvalid, hid⟩ := Except.bind_eq_ok.mp h
  cases hid
  refine ⟨rfl, ?_⟩
  unfold agentIdNotReservedAndValid at hvalid
  split_ifs at hvalid with hreserved
  simpa [reservedAgentIds] using hreserved

/-! ### Labels and annotations -/

/-- `MANAGED_BY_KEY`. -/
def managedByKey : List Char := "app.kubernetes.io/managed-by".toList

/-- `MANAGED_BY_VAL`. -/
def managedByVal : List Char := "newrelic-agent-control".toList

/-- `AGENT_ID_LABEL_KEY`. -/
def agentIdLabelKey : List Char := "newrelic.io/agent-id".toList

/-- `AGENT_TYPE_ID_ANNOTATION_KEY`. -/
def agentTypeIdAnnotationKey : List Char := "newrelic.io/agent-type-id".toList

/-- `OWNED_BY_ANNOTATION_KEY`. -/
def ownedByAnnotationKey : List Char := "newrelic.io/owned-by".toList

/-- `OWNED_BY_AGENT_CONTROL`. -/
def ownedByAgentControl : List Char := "agent-control".toList

/-- `OWNED_BY_SUB_AGENT`. -/
def ownedBySubAgent : List Char := "sub-agent".toList

/-- A `BTreeMap<String, String>` of labels or annotations, by its entries. -/
abbrev StringMap := List (List Char × List Char)

/-- Models `labels::is_managed_by_agent_control`. -/
def isManagedByAgentControl (labels : StringMap) : Bool :=
  labels.lookup managedByKey == some managedByVal

/-- Models `labels::get_agent_id`. -/
def getAgentId (labels : StringMap) : Option (List Char) := labels.lookup agentIdLabelKey

/-- Models `annotations::get_agent_type_id_value`. -/
def getAgentTypeIdValue (annotations : StringMap) : Option (List Char) :=
  annotations.lookup agentTypeIdAnnotationKey

/-- Models `annotations::get_owned_by_value`. -/
def getOwnedByValue (annotations : StringMap) : Option (List Char) :=
  annotations.lookup ownedByAnnotationKey

/-- Models `annotations::is_owned_by_agent_control`. -/
def isOwnedByAgentControl (annotations : StringMap) : Bool :=
  getOwnedByValue annotations == some ownedByAgentControl

/-- Models `annotations::is_owned_by_sub_agent`. -/
def isOwnedBySubAgent (annotations : StringMap) : Bool :=
  getOwnedByValue annotations == some ownedBySubAgent

/-- Models the part of `ObjectMeta` the collector reads. -/
structure ObjectMeta where
  name : Option (List Char)
  «namespace» : Option (List Char)
  labels : Option StringMap
  annotations : Option StringMap
  deriving DecidableEq, Repr

/-! ### The decision -/

/-- Models `K8sError`, as far as the collector tells its variants apart. -/
inductive K8sError where
  | missingAPIResource (message : List Char)
  | missingResourceName
  | missingResourceNamespace
  | other (message : List Char)
  deriving DecidableEq, Repr

/-- Models `K8sGarbageCollectorError`. -/
inductive K8sGarbageCollectorError where
  | generic (e : K8sError)
  | missingLabels
  | missingAnnotations
  | agentControlId
  deriving DecidableEq, Repr

/-- Models `K8sGarbageCollectorMode`; the active agents by the entries of their map. -/
inductive K8sGarbageCollectorMode (V : Type) where
  | retainConfig (activeAgents : List (AgentID × AgentTypeID V))
  | collect (id : AgentID) (agentTypeId : AgentTypeID V)

namespace K8sGarbageCollectorMode

variable {V : Type} (semver : Semver V)

/-- Models `retrieve_annotated_agent_type_id`. -/
def retrieveAnnotatedAgentTypeId (objMeta : ObjectMeta) :
    Except K8sGarbageCollectorError (List Char) :=
  match getAgentTypeIdValue (objMeta.annotations.getD []) with
  | some annotated => .ok annotated
  | none => .error .missingAnnotations

/-- Models `should_delete_agent_id`. -/
def shouldDeleteAgentId (mode : K8sGarbageCollectorMode V) (agentId : AgentID)
    (objMeta : ObjectMeta) : Except K8sGarbageCollectorError Bool :=
  match mode with
  | .retainConfig agentIdentities =>
    match agentIdentities.lookup agentId with
    | some agentTypeId =>
      -- an object of another agent type than the active one goes
      match retrieveAnnotatedAgentTypeId objMeta with
      | .ok annotated => .ok (annotated != AgentTypeID.toString semver agentTypeId)
      | .error .missingAnnotations => .ok false
      | .error e => .error e
    | none => .ok true
  | .collect id agentTypeId =>
    if agentId = id then
      match retrieveAnnotatedAgentTypeId objMeta with
      | .ok annotated => .ok (annotated == AgentTypeID.toString semver agentTypeId)
      | .error .missingAnnotations => .ok false
      | .error e => .error e
    else .ok false

end K8sGarbageCollectorMode

/-- Models `should_delete_dynamic_object`. -/
def shouldDeleteDynamicObject {V : Type} (semver : Semver V) (objMeta : ObjectMeta)
    (mode : K8sGarbageCollectorMode V) : Except K8sGarbageCollectorError Bool :=
  let labels := objMeta.labels.getD []
  let annotations := objMeta.annotations.getD []
  if !isManagedByAgentControl labels then .ok false
  else if !isOwnedBySubAgent annotations then .ok false
  else
    match getAgentId labels with
    | none => .error .missingLabels
    | some agentIdFromLabels =>
      match AgentID.tryFrom agentIdFromLabels with
      | .ok id => mode.shouldDeleteAgentId semver id objMeta
      -- reserved ids, and ids that do not parse, are kept
      | .error (.reserved _) => .ok false
      | .error _ => .ok false

/-- An object labelled as managed by Agent Control and annotated as owned by a sub-agent, whose
agent-id label reads as the agent id `id`. -/
def IsSubAgentObject (objMeta : ObjectMeta) (id : AgentID) : Prop :=
  isManagedByAgentControl (objMeta.labels.getD []) = true ∧
    isOwnedBySubAgent (objMeta.annotations.getD []) = true ∧
    ∃ v, getAgentId (objMeta.labels.getD []) = some v ∧ AgentID.tryFrom v = .ok id

section Decision

variable {V : Type} (semver : Semver V)

/-- The decision to delete: a sub-agent's object, by the mode's verdict on its id. -/
theorem shouldDeleteDynamicObject_eq_ok_true {objMeta : ObjectMeta}
    {mode : K8sGarbageCollectorMode V}
    (h : shouldDeleteDynamicObject semver objMeta mode = .ok true) :
    ∃ id, IsSubAgentObject objMeta id ∧
      mode.shouldDeleteAgentId semver id objMeta = .ok true := by
  unfold shouldDeleteDynamicObject at h
  dsimp only at h
  split_ifs at h with hmanaged howned
  · cases h
  · cases h
  · rw [Bool.not_eq_true', Bool.not_eq_false] at hmanaged howned
    split at h
    · cases h
    · rename_i v hv
      split at h
      · rename_i id hid
        exact ⟨id, ⟨hmanaged, howned, v, hv, hid⟩, h⟩
      · cases h
      · cases h

theorem retrieveAnnotatedAgentTypeId_eq_ok {objMeta : ObjectMeta} {annotated : List Char}
    (h : K8sGarbageCollectorMode.retrieveAnnotatedAgentTypeId objMeta = .ok annotated) :
    getAgentTypeIdValue (objMeta.annotations.getD []) = some annotated := by
  unfold K8sGarbageCollectorMode.retrieveAnnotatedAgentTypeId at h
  split at h
  · cases h
    assumption
  · cases h

/-- `retain` deletes the objects of inactive ids, and those of another agent type than the
active one. -/
theorem shouldDeleteAgentId_retainConfig {activeAgents : List (AgentID × AgentTypeID V)}
    {id : AgentID} {objMeta : ObjectMeta}
    (h : (K8sGarbageCollectorMode.retainConfig activeAgents).shouldDeleteAgentId semver id objMeta =
      .ok true) :
    activeAgents.lookup id = none ∨ ∃ agentTypeId annotated,
      activeAgents.lookup id = some agentTypeId ∧
        getAgentTypeIdValue (objMeta.annotations.getD []) = some annotated ∧
        annotated ≠ AgentTypeID.toString semver agentTypeId := by
  unfold K8sGarbageCollectorMode.shouldDeleteAgentId at h
  dsimp only at h
  split at h
  · rename_i agentTypeId hlookup
    split at h
    · rename_i annotated hannotated
      have hne := Except.ok.inj h
      refine Or.inr ⟨agentTypeId, annotated, hlookup,
        retrieveAnnotatedAgentTypeId_eq_ok hannotated, ?_⟩
      simpa using hne
    · cases h
    · cases h
  · rename_i hlookup
    exact Or.inl hlookup

/-- `collect` deletes the objects of the collected id that carry the collected agent type. -/
theorem shouldDeleteAgentId_collect {collected : AgentID} {agentTypeId : AgentTypeID V}
    {id : AgentID} {objMeta : ObjectMeta}
    (h : (K8sGarbageCollectorMode.collect collected agentTypeId).shouldDeleteAgentId semver id
      objMeta = .ok true) :
    id = collected ∧
      getAgentTypeIdValue (objMeta.annotations.getD []) =
        some (AgentTypeID.toString semver agentTypeId) := by
  unfold K8sGarbageCollectorMode.shouldDeleteAgentId at h
  dsimp only at h
  split_ifs at h with hid
  · split at h
    · rename_i annotated hannotated
      have heq := Except.ok.inj h
      refine ⟨hid, ?_⟩
      rw [retrieveAnnotatedAgentTypeId_eq_ok hannotated]
      simpa using heq
    · cases h
    · cases h
  · cases h

/-- The agent-id label of a sub-agent's object does not spell Agent Control's id. -/
theorem IsSubAgentObject.agentId_ne_agentControl {objMeta : ObjectMeta} {id : AgentID}
    {v : List Char} (h : IsSubAgentObject objMeta id)
    (hv : getAgentId (objMeta.labels.getD []) = some v) :
    Text.eqIgnoreAsciiCase v agentControlId = false := by
  obtain ⟨-, -, w, hw, htry⟩ := h
  rw [hw, Option.some.injEq] at hv
  exact hv ▸ (AgentID.tryFrom_eq_ok htry).2

/-- An agent-id label of Agent Control's id in capitals is reserved: its object is kept, although
no agent is active. -/
example : shouldDeleteDynamicObject textSemver
    ⟨some "cr".toList, some "default".toList,
      some [(managedByKey, managedByVal), (agentIdLabelKey, "AGENT-CONTROL".toList)],
      some [(ownedByAnnotationKey, ownedBySubAgent)]⟩ (.retainConfig []) = .ok false := by
  decide

end Decision

/-! ### The passes -/

/-- A deletion the cluster confirmed. -/
inductive Deletion where
  | configMap (name : List Char)
  | dynamicObject (objMeta : ObjectMeta)
  deriving DecidableEq, Repr

/-- What the cluster answers during a run of the collector: the ConfigMaps each listing of a
namespace returns, the objects of each resource type in a namespace, and whether each deletion
succeeds. -/
structure ClusterAnswers where
  listConfigmaps : List Char → Except K8sError (List ObjectMeta)
  deleteConfigmap : List Char → List Char → Except K8sError Unit
  listDynamicObjects : List Char → List (Except K8sError (List ObjectMeta))
  deleteDynamicObject : ObjectMeta → Except K8sError Unit

/-- Models `K8sGarbageCollector`: the namespace of Agent Control's data and that of the agents;
its resource types are those `ClusterAnswers.listDynamicObjects` lists. -/
structure K8sGarbageCollector where
  «namespace» : List Char
  namespaceAgents : List Char

/-- A pass of the collector, over the log of its deletions. -/
abbrev GcM := EStateM K8sGarbageCollectorError (List Deletion)

/-- A call to the cluster: its error stops the pass. -/
def clusterCall {α : Type} (x : Except K8sError α) : GcM α :=
  EStateM.ofExcept (x.mapError .generic)

/-- A deletion: logged once the cluster confirms it. -/
def delete (x : Except K8sError Unit) (d : Deletion) : GcM Unit := fun log =>
  match x with
  | .ok () => .ok () (log ++ [d])
  | .error e => .error (.generic e) log

namespace K8sGarbageCollector

variable {V : Type} (semver : Semver V) (gc : K8sGarbageCollector) (answers : ClusterAnswers)

/-- Models `get_name`. -/
def getName (objMeta : ObjectMeta) : Except K8sError (List Char) :=
  match objMeta.name with
  | some name => .ok name
  | none => .error .missingResourceName

/-- Models `get_namespace`. -/
def getNamespace (objMeta : ObjectMeta) : Except K8sError (List Char) :=
  match objMeta.«namespace» with
  | some ns => .ok ns
  | none => .error .missingResourceNamespace

/-- Models `garbage_collect_agent_control_resources`; the label selector is applied by the
cluster, so it is part of what the listing returns. -/
def garbageCollectAgentControlResources : GcM Unit := do
  let configMaps ← clusterCall (answers.listConfigmaps gc.namespace)
  (configMaps.filter fun cm => isOwnedByAgentControl (cm.annotations.getD [])).forM fun cm =>
    match cm.name with
    | some name => delete (answers.deleteConfigmap gc.namespace name) (.configMap name)
    -- a ConfigMap without a name is skipped
    | none => pure ()

/-- One listed object in `garbage_collect_sub_agent_resources`. -/
def collectDynamicObject (mode : K8sGarbageCollectorMode V) (d : ObjectMeta) : GcM Unit := do
  if ← EStateM.ofExcept (shouldDeleteDynamicObject semver d mode) then
    let _name ← clusterCall (getName d)
    let _namespace ← clusterCall (getNamespace d)
    delete (answers.deleteDynamicObject d) (.dynamicObject d)

/-- Models `garbage_collect_sub_agent_resources`: a resource type the cluster does not know is
skipped. -/
def garbageCollectSubAgentResources (mode : K8sGarbageCollectorMode V) (ns : List Char) :
    GcM Unit :=
  (answers.listDynamicObjects ns).forM fun listing =>
    match listing with
    | .ok dynObjs => dynObjs.forM (collectDynamicObject semver answers mode)
    | .error (.missingAPIResource _) => pure ()
    | .error e => throw (.generic e)

/-- Models `retain`. -/
def retain (activeAgents : List (AgentID × AgentTypeID V)) : GcM Unit := do
  let mode := K8sGarbageCollectorMode.retainConfig activeAgents
  garbageCollectAgentControlResources gc answers
  garbageCollectSubAgentResources semver answers mode gc.namespaceAgents
  garbageCollectSubAgentResources semver answers mode gc.namespace

/-- Models `collect`. -/
def collect (id : AgentID) (agentTypeId : AgentTypeID V) : GcM Unit := do
  -- nothing of Agent Control itself is collected
  if id = .agentControl then throw .agentControlId
  let mode := K8sGarbageCollectorMode.collect id agentTypeId
  garbageCollectAgentControlResources gc answers
  garbageCollectSubAgentResources semver answers mode gc.namespaceAgents
  garbageCollectSubAgentResources semver answers mode gc.namespace

/-! ### What a pass deletes -/

section Safety

open EStateM

/-- What a pass in `mode` may delete: Agent Control's ConfigMaps, which the listing selects, and
the object of a sub-agent whose id the mode condemns. -/
def DeletedBy (mode : K8sGarbageCollectorMode V) : Deletion → Prop
  | .configMap _ => True
  | .dynamicObject objMeta =>
    ∃ id, IsSubAgentObject objMeta id ∧ mode.shouldDeleteAgentId semver id objMeta = .ok true

variable (mode : K8sGarbageCollectorMode V)

theorem delete_stays {x : Except K8sError Unit} {d : Deletion} (hd : DeletedBy semver mode d) :
    Stays (AppendsOnly (DeletedBy semver mode)) (delete x d) := by
  intro log
  cases x with
  | ok u => exact AppendsOnly.append_singleton hd log
  | error e => exact Std.Refl.refl log

theorem garbageCollectAgentControlResources_stays :
    Stays (AppendsOnly (DeletedBy semver mode))
      (garbageCollectAgentControlResources gc answers) := by
  unfold garbageCollectAgentControlResources
  refine (Stays.ofExcept _).bind fun configMaps => Stays.forM fun cm _ => ?_
  split
  · exact delete_stays semver mode trivial
  · exact Stays.pure ()

/-- An object is deleted only on the decision to delete it. -/
theorem collectDynamicObject_stays (d : ObjectMeta) :
    Stays (AppendsOnly (DeletedBy semver mode)) (collectDynamicObject semver answers mode d) := by
  unfold collectDynamicObject
  refine Stays.ofExcept_bind fun b hdecide => ?_
  cases b with
  | false => exact Stays.pure ()
  | true =>
    have hd : DeletedBy semver mode (.dynamicObject d) :=
      shouldDeleteDynamicObject_eq_ok_true semver hdecide
    exact (Stays.ofExcept _).bind fun _ => (Stays.ofExcept _).bind fun _ =>
      delete_stays semver mode hd

theorem garbageCollectSubAgentResources_stays (ns : List Char) :
    Stays (AppendsOnly (DeletedBy semver mode))
      (garbageCollectSubAgentResources semver answers mode ns) := by
  unfold garbageCollectSubAgentResources
  refine Stays.forM fun listing _ => ?_
  split
  · exact Stays.forM fun d _ => collectDynamicObject_stays semver answers mode d
  · exact Stays.pure ()
  · exact Stays.throw _

/-- The pass both `retain` and `collect` make in their mode: Agent Control's ConfigMaps, then the
sub-agents' objects in both namespaces. -/
theorem pass_stays :
    Stays (AppendsOnly (DeletedBy semver mode)) (do
      garbageCollectAgentControlResources gc answers
      garbageCollectSubAgentResources semver answers mode gc.namespaceAgents
      garbageCollectSubAgentResources semver answers mode gc.namespace) :=
  (garbageCollectAgentControlResources_stays semver gc answers mode).bind fun _ =>
    (garbageCollectSubAgentResources_stays semver answers mode _).bind fun _ =>
      garbageCollectSubAgentResources_stays semver answers mode _

theorem retain_stays (activeAgents : List (AgentID × AgentTypeID V)) :
    Stays (AppendsOnly (DeletedBy semver (.retainConfig activeAgents)))
      (retain semver gc answers activeAgents) :=
  pass_stays semver gc answers _

theorem collect_stays (id : AgentID) (agentTypeId : AgentTypeID V) :
    Stays (AppendsOnly (DeletedBy semver (.collect id agentTypeId)))
      (collect semver gc answers id agentTypeId) := by
  unfold collect
  split
  · exact Stays.throw _
  · exact pass_stays semver gc answers _

/-- What `retain` deleted of the sub-agents' objects: those of an inactive id, and those of
another agent type than the active one. -/
theorem retain_deletes {activeAgents : List (AgentID × AgentTypeID V)} {objMeta : ObjectMeta}
    (hmem : Deletion.dynamicObject objMeta ∈ (retain semver gc answers activeAgents []).state) :
    ∃ id, IsSubAgentObject objMeta id ∧ (activeAgents.lookup id = none ∨
      ∃ active annotated, activeAgents.lookup id = some active ∧
        getAgentTypeIdValue (objMeta.annotations.getD []) = some annotated ∧
        annotated ≠ AgentTypeID.toString semver active) := by
  -- the log of a pass from nothing holds only what its mode may delete
  obtain ⟨id, hsub, hdecide⟩ :=
    AppendsOnly.of_nil (retain_stays semver gc answers activeAgents []) _ hmem
  exact ⟨id, hsub, shouldDeleteAgentId_retainConfig semver hdecide⟩

/-- What `collect` deleted of the sub-agents' objects: those of the collected id and agent type. -/
theorem collect_deletes {collected : AgentID} {agentTypeId : AgentTypeID V} {objMeta : ObjectMeta}
    (hmem : Deletion.dynamicObject objMeta ∈
      (collect semver gc answers collected agentTypeId []).state) :
    IsSubAgentObject objMeta collected ∧
      getAgentTypeIdValue (objMeta.annotations.getD []) =
        some (AgentTypeID.toString semver agentTypeId) := by
  obtain ⟨id, hsub, hdecide⟩ :=
    AppendsOnly.of_nil (collect_stays semver gc answers collected agentTypeId []) _ hmem
  obtain ⟨rfl, hannotated⟩ := shouldDeleteAgentId_collect semver hdecide
  exact ⟨hsub, hannotated⟩

/-- The collector deletes no live and no foreign object. Whether a pass completes or stops at an
error, every object it deleted is a sub-agent's object whose agent-id label reads as an id that
is not reserved; `retain` deleted it for an inactive id, or for an agent type other than the
active one; `collect` deleted it for the collected id and agent type; and no pass deleted an
object whose agent-id label spells Agent Control's id in any letter case. -/
theorem deletes_only_dead_sub_agent_objects (activeAgents : List (AgentID × AgentTypeID V))
    (collected : AgentID) (agentTypeId : AgentTypeID V) :
    (∀ objMeta,
      Deletion.dynamicObject objMeta ∈ (retain semver gc answers activeAgents []).state →
        ∃ id, IsSubAgentObject objMeta id ∧ (activeAgents.lookup id = none ∨
          ∃ active annotated, activeAgents.lookup id = some active ∧
            getAgentTypeIdValue (objMeta.annotations.getD []) = some annotated ∧
            annotated ≠ AgentTypeID.toString semver active)) ∧
    (∀ objMeta, Deletion.dynamicObject objMeta ∈
        (collect semver gc answers collected agentTypeId []).state →
      IsSubAgentObject objMeta collected ∧
        getAgentTypeIdValue (objMeta.annotations.getD []) =
          some (AgentTypeID.toString semver agentTypeId)) ∧
    ∀ objMeta v,
      Deletion.dynamicObject objMeta ∈ (retain semver gc answers activeAgents []).state ++
        (collect semver gc answers collected agentTypeId []).state →
      getAgentId (objMeta.labels.getD []) = some v →
        Text.eqIgnoreAsciiCase v agentControlId = false := by
  refine ⟨fun _ => retain_deletes semver gc answers, fun _ => collect_deletes semver gc answers,
    fun objMeta v hmem hv => ?_⟩
  rcases List.mem_append.mp hmem with hmem | hmem
  · obtain ⟨id, hsub, -⟩ := retain_deletes semver gc answers hmem
    exact IsSubAgentObject.agentId_ne_agentControl hsub hv
  · exact IsSubAgentObject.agentId_ne_agentControl (collect_deletes semver gc answers hmem).1 hv

end Safety

end K8sGarbageCollector

end AgentControl
