import AgentControl.AgentType.ValueTemplates
import AgentControl.Control.Model
import AgentControl.K8s.GarbageCollector

/-!
# The objects of a Kubernetes sub-agent, and what the collector makes of them

The supervisor of a Kubernetes sub-agent (`sub_agent/k8s/supervisor.rs`) turns each object of its
templated agent type into a `DynamicObject` (`create_dynamic_object`). The object keeps its type,
name and namespace; its labels are the default ones, Agent Control's `managed-by` and the
sub-agent's id, with the object's own labels added under them (`Labels`); its annotations say
that a sub-agent owns it, and of which agent type (`Annotations`); its fields lose their null
members (`retain_not_null`), so that what the cluster stores does not look like a change.

The garbage collector decides from exactly these labels and annotations, which ties the two
components together:

* an object's own labels never replace a default one (`lookup_appendExtraLabels_of_mem`), so an
  agent type cannot take its objects out of Agent Control's management or give them another
  sub-agent's id;
* a `retain` pass deletes an object that the supervisor built for a sub-agent exactly when the
  sub-agent is no longer active, or is active with another agent type
  (`shouldDeleteDynamicObject_createDynamicObject_retain`);
* the fields of a built object have no null member in any object reached through objects
  (`noNullValue_createDynamicObject_data`); a null inside an array is kept.
-/

namespace AgentControl

/-! ### Labels and annotations -/

/-- Models `Labels`. -/
structure Labels where
  map : AList fun _ : List Char => List Char

/-- Models `Default for Labels`: managed by Agent Control. -/
def Labels.default : Labels := ⟨(∅ : AList fun _ : List Char => List Char).insert managedByKey managedByVal⟩

/-- Models `Labels::new`: the default labels and the agent's id. -/
def Labels.new (agentId : AgentID) : Labels := ⟨Labels.default.map.insert agentIdLabelKey agentId.asStr⟩

/-- Models `Labels::append_extra_labels`: `entry(label).or_insert(value)` for each extra label. -/
def Labels.appendExtraLabels (l : Labels) (labels : AList fun _ : List Char => List Char) : Labels :=
  ⟨labels.entries.foldl (fun acc kv => acc.modifyOrInsert kv.1 kv.2 id) l.map⟩

/-- Models `Labels::get`. -/
def Labels.get (l : Labels) : StringMap := AList.toPairs l.map

/-- Models `Annotations`. -/
structure Annotations where
  map : AList fun _ : List Char => List Char

section Annotations

variable {V : Type} (semver : Semver V)

/-- Models `Annotations::new_agent_type_id_annotation`. -/
def Annotations.newAgentTypeIdAnnotation (agentType : AgentTypeID V) : Annotations :=
  ⟨(∅ : AList fun _ : List Char => List Char).insert agentTypeIdAnnotationKey
    (AgentTypeID.toString semver agentType)⟩

/-- Models `Annotations::new_agent_control_owned`. -/
def Annotations.newAgentControlOwned : Annotations :=
  ⟨(∅ : AList fun _ : List Char => List Char).insert ownedByAnnotationKey ownedByAgentControl⟩

/-- Models `Annotations::new_subagent_owned`. -/
def Annotations.newSubagentOwned : Annotations :=
  ⟨(∅ : AList fun _ : List Char => List Char).insert ownedByAnnotationKey ownedBySubAgent⟩

/-- Models `Annotations::new_agent_control_owned_with_type`: both maps chained and collected. -/
def Annotations.newAgentControlOwnedWithType (agentTypeId : AgentTypeID V) : Annotations :=
  ⟨(∅ : AList fun _ : List Char => List Char).extend
    (Annotations.newAgentControlOwned.map.entries ++
      (Annotations.newAgentTypeIdAnnotation semver agentTypeId).map.entries)⟩

/-- Models `Annotations::new_sub_agent_owned_with_type`: both maps chained and collected. -/
def Annotations.newSubAgentOwnedWithType (agentTypeId : AgentTypeID V) : Annotations :=
  ⟨(∅ : AList fun _ : List Char => List Char).extend
    (Annotations.newSubagentOwned.map.entries ++
      (Annotations.newAgentTypeIdAnnotation semver agentTypeId).map.entries)⟩

end Annotations

/-- Models `Annotations::get`. -/
def Annotations.get (a : Annotations) : StringMap := AList.toPairs a.map

/-! ### Null members -/

mutual

/-- Models `retain_not_null`: the members whose closure keeps them, as it leaves them. -/
def retainNotNull : List (List Char × JsonValue) → List (List Char × JsonValue)
  | [] => []
  | (k, v) :: rest =>
    match retainNotNullValue v with
    | some v' => (k, v') :: retainNotNull rest
    | none => retainNotNull rest

/-- The closure of `retain_not_null` on a member's value: a null goes, an object is cleaned in
place and stays, any other value stays as it is. -/
def retainNotNullValue : JsonValue → Option JsonValue
  | .null => none
  | .object inner => some (.object (retainNotNull inner))
  | v => some v

end

mutual

/-- No member of the object, nor of an object among its values, at any depth, is null. -/
def noNullMembers : List (List Char × JsonValue) → Bool
  | [] => true
  | (_, v) :: rest => noNullValue v && noNullMembers rest

/-- A value that is not null, and an object only with members that have no null. -/
def noNullValue : JsonValue → Bool
  | .null => false
  | .object inner => noNullMembers inner
  | _ => true

end

/-! ### Building the objects -/

/-- Models `DynamicObject`, by its type, the metadata the supervisor sets and its data. -/
structure DynamicObject where
  types : Option TypeMeta
  metadata : ObjectMeta
  data : JsonValue

section Build

variable {V : Type} (semver : Semver V) (agentIdentity : AgentIdentity AgentID (AgentTypeID V))

/-- Models `NotStartedSupervisorK8s::create_dynamic_object`; `serde_json::to_value` of a map is
the object of its members. -/
def createDynamicObject (k8sObj : K8sObject) : DynamicObject :=
  let types : TypeMeta := ⟨k8sObj.apiVersion, k8sObj.kind⟩
  -- the default labels take precedence over the object's own
  let labels := (Labels.new agentIdentity.id).appendExtraLabels k8sObj.metadata.labels
  let annotations := Annotations.newSubAgentOwnedWithType semver agentIdentity.agentTypeId
  let metadata : ObjectMeta :=
    ⟨some k8sObj.metadata.name, some k8sObj.metadata.«namespace», some labels.get,
      some annotations.get⟩
  ⟨some types, metadata, .object (retainNotNull k8sObj.fields)⟩

/-- Models `NotStartedSupervisorK8s::build_dynamic_objects`: one object for each configured one. -/
def buildDynamicObjects (k8sConfig : K8s) : List DynamicObject :=
  k8sConfig.objects.entries.map fun kv => createDynamicObject semver agentIdentity kv.2

end Build

/-! ### The default labels stay -/

/-- A label already there keeps its value, whatever the extra labels. -/
theorem lookup_appendExtraLabels_of_mem {l : Labels} {k : List Char} (hk : k ∈ l.map)
    (labels : AList fun _ : List Char => List Char) :
    (l.appendExtraLabels labels).map.lookup k = l.map.lookup k := by
  unfold Labels.appendExtraLabels
  dsimp only
  -- the label stays in the map, and each `or_insert` leaves a present key's value alone
  induction labels.entries generalizing l with
  | nil => rfl
  | cons kv rest ih =>
    rw [List.foldl_cons]
    have hk' : k ∈ l.map.modifyOrInsert kv.1 kv.2 id :=
      AList.mem_modifyOrInsert _ _ |>.mpr (Or.inr hk)
    rw [ih (l := ⟨l.map.modifyOrInsert kv.1 kv.2 id⟩) hk']
    by_cases hkv : k = kv.1
    · subst hkv
      obtain ⟨v, hv⟩ := Option.isSome_iff_exists.mp (AList.lookup_isSome.mpr hk)
      rw [AList.lookup_modifyOrInsert_self, hv]
      rfl
    · exact AList.lookup_modifyOrInsert_ne _ _ hkv

theorem lookup_new_managedByKey (agentId : AgentID) :
    (Labels.new agentId).map.lookup managedByKey = some managedByVal := by
  rw [Labels.new, AList.lookup_insert_ne (by decide), Labels.default, AList.lookup_insert]

theorem lookup_new_agentIdLabelKey (agentId : AgentID) :
    (Labels.new agentId).map.lookup agentIdLabelKey = some agentId.asStr :=
  AList.lookup_insert _

section Collector

variable {V : Type} (semver : Semver V) (agentIdentity : AgentIdentity AgentID (AgentTypeID V))

/-- What the collector reads of the labels of a built object: managed by Agent Control, with
the sub-agent's id. -/
theorem createDynamicObject_labels (k8sObj : K8sObject) :
    isManagedByAgentControl
        ((createDynamicObject semver agentIdentity k8sObj).metadata.labels.getD []) ∧
      getAgentId ((createDynamicObject semver agentIdentity k8sObj).metadata.labels.getD []) =
        some agentIdentity.id.asStr := by
  have hmem : ∀ k, k = managedByKey ∨ k = agentIdLabelKey →
      k ∈ (Labels.new agentIdentity.id).map := by
    rintro k (rfl | rfl)
    · exact AList.lookup_isSome.mp (by rw [lookup_new_managedByKey]; rfl)
    · exact AList.lookup_isSome.mp (by rw [lookup_new_agentIdLabelKey]; rfl)
  simp only [createDynamicObject, Option.getD_some, Labels.get, isManagedByAgentControl, getAgentId,
    AList.lookup_toPairs]
  rw [lookup_appendExtraLabels_of_mem (hmem _ (Or.inl rfl)),
    lookup_appendExtraLabels_of_mem (hmem _ (Or.inr rfl)), lookup_new_managedByKey,
    lookup_new_agentIdLabelKey]
  exact ⟨beq_self_eq_true _, rfl⟩

/-- What the collector reads of the annotations of a built object: owned by a sub-agent, of the
sub-agent's agent type. -/
theorem createDynamicObject_annotations (k8sObj : K8sObject) :
    isOwnedBySubAgent
        ((createDynamicObject semver agentIdentity k8sObj).metadata.annotations.getD []) ∧
      getAgentTypeIdValue
          ((createDynamicObject semver agentIdentity k8sObj).metadata.annotations.getD []) =
        some (AgentTypeID.toString semver agentIdentity.agentTypeId) := by
  have hkeys : ownedByAnnotationKey ≠ agentTypeIdAnnotationKey := by decide
  -- the two maps chained and collected: two inserts into the empty map, of distinct keys
  have hmap : (Annotations.newSubAgentOwnedWithType semver agentIdentity.agentTypeId).map =
      ((∅ : AList fun _ : List Char => List Char).insert ownedByAnnotationKey
          ownedBySubAgent).insert
        agentTypeIdAnnotationKey (AgentTypeID.toString semver agentIdentity.agentTypeId) := rfl
  simp only [createDynamicObject, Option.getD_some, Annotations.get, isOwnedBySubAgent,
    getOwnedByValue, getAgentTypeIdValue, AList.lookup_toPairs, hmap]
  rw [AList.lookup_insert_ne hkeys, AList.lookup_insert, AList.lookup_insert]
  exact ⟨beq_self_eq_true _, rfl⟩

/-- A `retain` pass deletes an object the supervisor built for a sub-agent exactly when the
sub-agent is not among the active ones, or is active with another agent type. -/
theorem shouldDeleteDynamicObject_createDynamicObject_retain
    (hid : AgentID.tryFrom agentIdentity.id.asStr = .ok agentIdentity.id) (k8sObj : K8sObject)
    (activeAgents : List (AgentID × AgentTypeID V)) :
    shouldDeleteDynamicObject semver (createDynamicObject semver agentIdentity k8sObj).metadata
        (.retainConfig activeAgents) =
      .ok (match activeAgents.lookup agentIdentity.id with
        | some agentTypeId =>
          AgentTypeID.toString semver agentIdentity.agentTypeId != AgentTypeID.toString semver agentTypeId
        | none => true) := by
  obtain ⟨hmanaged, hagentId⟩ := createDynamicObject_labels semver agentIdentity k8sObj
  obtain ⟨howned, htype⟩ := createDynamicObject_annotations semver agentIdentity k8sObj
  have hannotated : K8sGarbageCollectorMode.retrieveAnnotatedAgentTypeId
      (createDynamicObject semver agentIdentity k8sObj).metadata =
        .ok (AgentTypeID.toString semver agentIdentity.agentTypeId) := by
    rw [K8sGarbageCollectorMode.retrieveAnnotatedAgentTypeId, htype]
  rw [shouldDeleteDynamicObject]
  simp only [hmanaged, howned, hagentId, hid, Bool.not_true, Bool.false_eq_true, if_false]
  -- the verdict of `retain` on the sub-agent's id
  rw [K8sGarbageCollectorMode.shouldDeleteAgentId]
  cases activeAgents.lookup agentIdentity.id with
  | none => rfl
  | some agentTypeId => rw [hannotated]

end Collector

/-- The sub-agent `nginx`, of agent type `newrelic/nginx:0.1.0`. -/
def nginxIdentity : AgentIdentity AgentID (AgentTypeID (List Char)) :=
  ⟨.subAgent "nginx".toList, ⟨"nginx".toList, "newrelic".toList, "0.1.0".toList⟩⟩

theorem shouldDeleteDynamicObject_createDynamicObject_retain_at_nginx :
    AgentID.tryFrom nginxIdentity.id.asStr = .ok nginxIdentity.id ∧
      shouldDeleteDynamicObject textSemver
          (createDynamicObject textSemver nginxIdentity
            ⟨"v1".toList, "ConfigMap".toList, appMeta, []⟩).metadata
          (.retainConfig [(nginxIdentity.id, nginxIdentity.agentTypeId)]) = .ok false :=
  ⟨rfl, shouldDeleteDynamicObject_createDynamicObject_retain textSemver nginxIdentity rfl _ _⟩

/-! ### The fields have no null member -/

mutual

theorem noNullMembers_retainNotNull :
    ∀ members : List (List Char × JsonValue), noNullMembers (retainNotNull members) = true
  | [] => rfl
  | (k, v) :: rest => by
    rw [retainNotNull]
    cases hv : retainNotNullValue v with
    | none => exact noNullMembers_retainNotNull rest
    | some v' =>
      rw [noNullMembers, noNullValue_of_retainNotNullValue v hv, noNullMembers_retainNotNull rest]
      rfl

theorem noNullValue_of_retainNotNullValue :
    ∀ (v : JsonValue) {v' : JsonValue}, retainNotNullValue v = some v' → noNullValue v' = true
  | .null, _, h => by cases h
  | .object inner, _, h => by
    cases h
    rw [noNullValue]
    exact noNullMembers_retainNotNull inner
  | .bool _, _, h | .number _, _, h | .string _, _, h | .array _, _, h => by
    cases h
    rfl

end

/-- The data of an object the supervisor built has no null member in any object reached through
objects. -/
theorem noNullValue_createDynamicObject_data {V : Type} (semver : Semver V)
    (agentIdentity : AgentIdentity AgentID (AgentTypeID V)) (k8sObj : K8sObject) :
    noNullValue (createDynamicObject semver agentIdentity k8sObj).data = true := by
  rw [createDynamicObject, noNullValue]
  exact noNullMembers_retainNotNull k8sObj.fields

/-- A null inside an array stays. -/
example : retainNotNull [("a".toList, .null), ("b".toList, .array [.null])] =
    [("b".toList, .array [.null])] := by
  rfl

end AgentControl
