import AgentControl.Checkers.Health
import AgentControl.Control.Model
import AgentControl.Lib.Map
import AgentControl.Lib.Text

/-!
# The status of Agent Control

The `/status` endpoint shows a `Status` (`agent_control/http_server/status.rs`): the health and
attributes of Agent Control, whether the OpAMP server is reachable, and the status of each
sub-agent. One loop keeps it (`status_updater.rs`): it takes events from Agent Control and from the
sub-agents, from two channels in whatever order they come, until Agent Control stops or a channel
closes. The status after a run is a fold of the events it applied
(`onAgentControlEventUpdateStatus_eq`), and nothing received after it stops is applied.

Every part of the status is what the last event about it set (`Controller.observe_foldl`): the
health of Agent Control, the reachability of the server, the presence of a sub-agent and its
health. What a sub-agent's entry was created with is not: an entry is created by the first event
about its agent after the agent was last removed, and later events never change its agent type or
its start time, so an entry first made by a description keeps the start time `0` even once the
agent reports that it started.

Attributes are kept under `identifying/` and `non-identifying/` followed by their key, so the two
kinds never share a key, and bytes are written in lowercase hexadecimal, which reads back.
-/

namespace AgentControl

/-! ### Attributes -/

/-- Models `DescriptionValueType`; a float is kept as the text it displays as. -/
inductive DescriptionValueType where
  | string (s : List Char)
  | int (i : Int)
  | bool (b : Bool)
  | float (text : List Char)
  | bytes (bs : List UInt8)
  deriving DecidableEq

/-- Models `AgentDescription`: identifying and other attributes, each a `HashMap`. -/
structure AgentDescription where
  identifyingAttributes : AList fun _ : List Char => DescriptionValueType
  nonIdentifyingAttributes : AList fun _ : List Char => DescriptionValueType

/-- Models `encode_description_value`. -/
def encodeDescriptionValue : DescriptionValueType → List Char
  | .string v => v
  | .int v => (toString v).toList
  | .bool v => if v then "true".toList else "false".toList
  | .float text => text
  | .bytes v => v.foldl (fun acc b => acc ++ Text.hexByte b) []

/-- `IDENTIFYING_ATTRIBUTES_PREFIX`. -/
def identifyingAttributesPrefix : List Char := "identifying".toList

/-- `NON_IDENTIFYING_ATTRIBUTES_PREFIX`. -/
def nonIdentifyingAttributesPrefix : List Char := "non-identifying".toList

/-- Models `AgentAttributes`. -/
abbrev AgentAttributes := AList fun _ : List Char => List Char

/-- Models `encode_attributes`: each key after the prefix and `/`, each value encoded. -/
def encodeAttributes (attributes : AList fun _ : List Char => DescriptionValueType)
    (pre : List Char) : AgentAttributes :=
  (∅ : AgentAttributes).extend
    (attributes.entries.map fun kv => ⟨pre ++ '/' :: kv.1, encodeDescriptionValue kv.2⟩)

/-- Models `build_agent_attributes`: the other attributes, extended by the identifying ones. -/
def buildAgentAttributes (d : AgentDescription) : AgentAttributes :=
  (encodeAttributes d.nonIdentifyingAttributes nonIdentifyingAttributesPrefix).extend
    (encodeAttributes d.identifyingAttributes identifyingAttributesPrefix).entries

theorem encodeDescriptionValue_bytes (bs : List UInt8) :
    encodeDescriptionValue (.bytes bs) = bs.flatMap Text.hexByte := by
  -- the fold appends the digits of each byte to what it has written
  have hfold : ∀ (acc : List Char) (bs : List UInt8),
      bs.foldl (fun acc b => acc ++ Text.hexByte b) acc = acc ++ bs.flatMap Text.hexByte := by
    intro acc bs
    induction bs generalizing acc with
    | nil => simp
    | cons b bs ih => rw [List.foldl_cons, ih, List.flatMap_cons, List.append_assoc]
  rw [encodeDescriptionValue, hfold, List.nil_append]

/-- Bytes are written as two lowercase hexadecimal digits each, and read back. -/
theorem decodeHex_encodeDescriptionValue_bytes (bs : List UInt8) :
    (encodeDescriptionValue (.bytes bs)).length = 2 * bs.length ∧
      Text.decodeHex (encodeDescriptionValue (.bytes bs)) = some bs := by
  rw [encodeDescriptionValue_bytes]
  refine ⟨?_, Text.decodeHex_flatMap_hexByte bs⟩
  induction bs with
  | nil => rfl
  | cons b bs ih =>
    rw [List.flatMap_cons, List.length_append, ih, List.length_cons]
    simp only [Text.hexByte, List.length_cons, List.length_nil]
    omega

/-- Keys of one kind are told apart by what follows the prefix. -/
theorem attributeKey_injective (pre : List Char) : Function.Injective fun k : List Char => pre ++ '/' :: k :=
  fun _ _ h => List.cons_injective (List.append_cancel_left h)

/-- No identifying key is a non-identifying one: the prefixes differ in their first letter. -/
theorem identifyingKey_ne_nonIdentifyingKey (k k' : List Char) :
    identifyingAttributesPrefix ++ '/' :: k ≠ nonIdentifyingAttributesPrefix ++ '/' :: k' := by
  intro h
  have hhead := congrArg List.head? h
  rw [List.head?_append_of_ne_nil _ (by decide), List.head?_append_of_ne_nil _ (by decide)] at hhead
  exact absurd hhead (by decide)

theorem encodeAttributes_eq (attributes : AList fun _ : List Char => DescriptionValueType)
    (pre : List Char) :
    encodeAttributes attributes pre =
      (∅ : AgentAttributes).extend
        (attributes.entries.map (Sigma.map (fun k => pre ++ '/' :: k) fun _ v => encodeDescriptionValue v)) :=
  rfl

theorem lookup_encodeAttributes (attributes : AList fun _ : List Char => DescriptionValueType)
    (pre k : List Char) :
    (encodeAttributes attributes pre).lookup (pre ++ '/' :: k) =
      (attributes.lookup k).map encodeDescriptionValue := by
  rw [encodeAttributes_eq]
  exact AList.lookup_extend_map_entries attributes (attributeKey_injective pre) _ k

theorem lookup_encodeAttributes_of_ne (attributes : AList fun _ : List Char => DescriptionValueType)
    {pre key : List Char} (h : ∀ k, pre ++ '/' :: k ≠ key) :
    (encodeAttributes attributes pre).lookup key = none := by
  rw [encodeAttributes_eq]
  exact AList.lookup_extend_map_entries_of_ne attributes _ h

/-- Each attribute of a description is shown under the prefix of its kind with its value encoded.
The identifying ones never replace the others, despite what the comment of
`build_agent_attributes` allows for: the keys of the two kinds never meet. -/
theorem lookup_buildAgentAttributes (d : AgentDescription) (k : List Char) :
    (buildAgentAttributes d).lookup (identifyingAttributesPrefix ++ '/' :: k) =
        (d.identifyingAttributes.lookup k).map encodeDescriptionValue ∧
      (buildAgentAttributes d).lookup (nonIdentifyingAttributesPrefix ++ '/' :: k) =
        (d.nonIdentifyingAttributes.lookup k).map encodeDescriptionValue := by
  have hid := lookup_encodeAttributes d.identifyingAttributes identifyingAttributesPrefix k
  have hnon := lookup_encodeAttributes d.nonIdentifyingAttributes nonIdentifyingAttributesPrefix k
  -- under a key of one kind the other kind shows nothing
  have hid' := lookup_encodeAttributes_of_ne d.nonIdentifyingAttributes
    fun k' => (identifyingKey_ne_nonIdentifyingKey k k').symm
  have hnon' := lookup_encodeAttributes_of_ne d.identifyingAttributes
    fun k' => identifyingKey_ne_nonIdentifyingKey k' k
  rw [buildAgentAttributes, AList.lookup_extend_entries, AList.lookup_extend_entries, hid, hid',
    hnon, hnon', Option.or_none, Option.none_or]
  exact ⟨rfl, rfl⟩

/-! ### The status -/

/-- Models `AgentControlStatus`. -/
structure AgentControlStatus where
  healthy : Bool
  lastError : Option (List Char)
  status : List Char
  attributes : AgentAttributes

/-- Models `AgentControlStatus::default`. -/
def AgentControlStatus.default : AgentControlStatus := ⟨false, none, [], ∅⟩

/-- Models `AgentControlStatus::set_health`. -/
def AgentControlStatus.setHealth (s : AgentControlStatus) (health : HealthWithStartTime) :
    AgentControlStatus :=
  match health.health with
  | .healthy healthy => { s with healthy := true, lastError := none, status := healthy.status }
  | .unhealthy unhealthy =>
    { s with healthy := false, lastError := some unhealthy.lastError, status := unhealthy.status }

/-- The health Agent Control is shown with: whether it is healthy, its last error and its status. -/
def AgentControlStatus.shownHealth (s : AgentControlStatus) : Bool × Option (List Char) × List Char :=
  (s.healthy, s.lastError, s.status)

/-- The health shown is the one last set; attributes are not touched. -/
theorem AgentControlStatus.setHealth_shownHealth (s : AgentControlStatus)
    (health : HealthWithStartTime) :
    (s.setHealth health).shownHealth = (health.isHealthy, health.lastError, health.status) ∧
      (s.setHealth health).attributes = s.attributes := by
  obtain ⟨startTime, health⟩ := health
  cases health <;> exact ⟨rfl, rfl⟩

/-- Models `OpAMPStatus`; the endpoint is kept as its text, an error code is a `u16`. -/
structure OpAMPStatus where
  enabled : Bool
  endpoint : Option (List Char)
  reachable : Bool
  errorCode : Option Nat
  errorMessage : Option (List Char)

/-- Whether the server is shown reachable, with the error of the last failed connection. -/
def OpAMPStatus.connectivity (s : OpAMPStatus) : Bool × Option Nat × Option (List Char) :=
  (s.reachable, s.errorCode, s.errorMessage)

/-- Models `OpAMPStatus::default`. -/
def OpAMPStatus.default : OpAMPStatus := ⟨false, none, false, none, none⟩

/-- Models `OpAMPStatus::reachable`. -/
def OpAMPStatus.setReachable (s : OpAMPStatus) : OpAMPStatus :=
  { s with reachable := true, errorCode := none, errorMessage := none }

/-- Models `OpAMPStatus::unreachable`. -/
def OpAMPStatus.unreachable (s : OpAMPStatus) (errorCode : Option Nat) (errorMessage : List Char) :
    OpAMPStatus :=
  { s with reachable := false, errorCode := errorCode, errorMessage := some errorMessage }

/-- Models `HealthInfo`. -/
structure HealthInfo where
  healthy : Bool
  lastError : Option (List Char)
  status : List Char
  startTimeUnixNano : Nat
  statusTimeUnixNano : Nat
  deriving DecidableEq

/-- Models `time_to_unix_timestamp` of `status.rs`, the same conversion as
`unix_timestamp_from_sys_time`. -/
def timeToUnixTimestamp (time : Int) : Nat := unixTimestampFromSysTime time

/-- Models the `HealthInfo` that `SubAgentStatus::update_health` builds. -/
def HealthInfo.ofHealth (health : HealthWithStartTime) : HealthInfo :=
  ⟨health.isHealthy, health.lastError, health.status, timeToUnixTimestamp health.startTime,
    timeToUnixTimestamp health.statusTime⟩

section SubAgents

variable {ι τ : Type}

/-- Models `SubAgentStatus`. -/
structure SubAgentStatus (ι τ : Type) where
  agentId : ι
  agentType : τ
  agentStartTimeUnixNano : Nat
  healthInfo : Option HealthInfo
  attributes : AgentAttributes

/-- Models `SubAgentStatus::with_identity`. -/
def SubAgentStatus.withIdentity (identity : AgentIdentity ι τ) : SubAgentStatus ι τ :=
  ⟨identity.id, identity.agentTypeId, 0, none, ∅⟩

/-- Models `SubAgentStatus::with_start_time`. -/
def SubAgentStatus.withStartTime (s : SubAgentStatus ι τ) (startTime : Int) : SubAgentStatus ι τ :=
  { s with agentStartTimeUnixNano := timeToUnixTimestamp startTime }

/-- Models `SubAgentStatus::update_health`. -/
def SubAgentStatus.updateHealth (s : SubAgentStatus ι τ) (health : HealthWithStartTime) :
    SubAgentStatus ι τ :=
  { s with healthInfo := some (HealthInfo.ofHealth health) }

variable [DecidableEq ι]

/-- Models `Status`; `SubAgentsStatus` is a `HashMap` by agent id. -/
structure Status (ι τ : Type) [DecidableEq ι] where
  agentControl : AgentControlStatus
  fleet : OpAMPStatus
  agents : AList fun _ : ι => SubAgentStatus ι τ

/-- Models `Status::default`. -/
def Status.default : Status ι τ := ⟨.default, .default, ∅⟩

/-- Models `Status::with_opamp`, the status the server starts from when OpAMP is configured. -/
def Status.withOpamp (s : Status ι τ) (endpoint : List Char) : Status ι τ :=
  { s with fleet := { s.fleet with enabled := true, endpoint := some endpoint } }

/-! ### Events -/

/-- Models `AgentControlEvent`. -/
inductive AgentControlEvent (ι : Type) where
  | healthUpdated (health : HealthWithStartTime)
  | subAgentRemoved (id : ι)
  | agentControlStopped
  | agentDescriptionUpdated (d : AgentDescription)
  | opampConnected
  | opampConnectFailed (errorCode : Option Nat) (errorMessage : List Char)

/-- Models `SubAgentEvent`. -/
inductive SubAgentEvent (ι τ : Type) where
  | healthUpdated (identity : AgentIdentity ι τ) (health : HealthWithStartTime)
  | subAgentStarted (identity : AgentIdentity ι τ) (startTime : Int)
  | agentDescriptionUpdated (identity : AgentIdentity ι τ) (d : AgentDescription)

/-- The sub-agent an event is about. -/
def SubAgentEvent.identity {τ : Type} : SubAgentEvent ι τ → AgentIdentity ι τ
  | .healthUpdated identity _ => identity
  | .subAgentStarted identity _ => identity
  | .agentDescriptionUpdated identity _ => identity

/-- The start time an entry gets when the event creates it: none from a description. -/
def SubAgentEvent.startTimeUnixNano {τ : Type} : SubAgentEvent ι τ → Nat
  | .healthUpdated _ health => timeToUnixTimestamp health.startTime
  | .subAgentStarted _ startTime => timeToUnixTimestamp startTime
  | .agentDescriptionUpdated _ _ => 0

/-- Models `update_agent_control_status`; `AgentControlStopped` is `unreachable!` there, and
`none` here. -/
def updateAgentControlStatus (e : AgentControlEvent ι) (s : Status ι τ) : Option (Status ι τ) :=
  match e with
  | .healthUpdated health => some { s with agentControl := s.agentControl.setHealth health }
  | .subAgentRemoved id => some { s with agents := s.agents.erase id }
  | .agentControlStopped => none
  | .opampConnected => some { s with fleet := s.fleet.setReachable }
  | .opampConnectFailed errorCode errorMessage =>
    some { s with fleet := s.fleet.unreachable errorCode errorMessage }
  | .agentDescriptionUpdated d =>
    some { s with agentControl := { s.agentControl with
      attributes := s.agentControl.attributes.extend (buildAgentAttributes d).entries } }

/-- Models `update_sub_agent_status`: the entry of the agent, created if missing, is updated. -/
def updateSubAgentStatus (e : SubAgentEvent ι τ) (s : Status ι τ) : Status ι τ :=
  match e with
  | .healthUpdated identity health =>
    let fresh := (SubAgentStatus.withIdentity identity).withStartTime health.startTime
    { s with agents := s.agents.modifyOrInsert identity.id fresh (·.updateHealth health) }
  | .subAgentStarted identity startTime =>
    let fresh := (SubAgentStatus.withIdentity identity).withStartTime startTime
    { s with agents := s.agents.modifyOrInsert identity.id fresh id }
  | .agentDescriptionUpdated identity d =>
    -- an entry made by a description has no start time
    let describe := fun entry : SubAgentStatus ι τ =>
      { entry with attributes := entry.attributes.extend (buildAgentAttributes d).entries }
    { s with agents := s.agents.modifyOrInsert identity.id (.withIdentity identity) describe }

/-- What `tokio::select!` hands the loop: an event of Agent Control or of a sub-agent, or `none`
when that channel is closed. -/
inductive Received (ι τ : Type) where
  | agentControl (e : Option (AgentControlEvent ι))
  | subAgent (e : Option (SubAgentEvent ι τ))

/-- Models `on_agent_control_event_update_status`, over the events the two channels deliver, in
the order the select takes them. -/
def onAgentControlEventUpdateStatus : List (Received ι τ) → Status ι τ → Status ι τ
  | [], s => s
  | .agentControl none :: _, s => s
  | .agentControl (some .agentControlStopped) :: _, s => s
  | .agentControl (some e) :: rest, s =>
    match updateAgentControlStatus e s with
    | some s' => onAgentControlEventUpdateStatus rest s'
    | none => s
  | .subAgent none :: _, s => s
  | .subAgent (some e) :: rest, s => onAgentControlEventUpdateStatus rest (updateSubAgentStatus e s)

/-! ### Runs of the loop -/

/-- An event the loop applies. -/
inductive StatusEvent (ι τ : Type) where
  | agentControl (e : AgentControlEvent ι)
  | subAgent (e : SubAgentEvent ι τ)

/-- The status after one event, as the loop applies it. -/
def applyStatusEvent (s : Status ι τ) : StatusEvent ι τ → Status ι τ
  | .agentControl e => (updateAgentControlStatus e s).getD s
  | .subAgent e => updateSubAgentStatus e s

/-- The events the loop applies: those received before Agent Control stops or a channel closes. -/
def appliedEvents : List (Received ι τ) → List (StatusEvent ι τ)
  | [] => []
  | .agentControl none :: _ => []
  | .agentControl (some .agentControlStopped) :: _ => []
  | .agentControl (some e) :: rest => .agentControl e :: appliedEvents rest
  | .subAgent none :: _ => []
  | .subAgent (some e) :: rest => .subAgent e :: appliedEvents rest

/-- Whether the loop ends at what it received. -/
def Received.stops : Received ι τ → Bool
  | .agentControl none => true
  | .agentControl (some .agentControlStopped) => true
  | .subAgent none => true
  | _ => false

/-- The loop applies the events it received, in order, up to the first stop. -/
theorem onAgentControlEventUpdateStatus_eq (rs : List (Received ι τ)) (s : Status ι τ) :
    onAgentControlEventUpdateStatus rs s = (appliedEvents rs).foldl applyStatusEvent s := by
  induction rs generalizing s with
  | nil => rfl
  | cons r rs ih =>
    cases r with
    | agentControl e =>
      rcases e with _ | e
      · rfl
      · cases e <;>
          simp [onAgentControlEventUpdateStatus, appliedEvents, updateAgentControlStatus,
            applyStatusEvent, ih]
    | subAgent e =>
      rcases e with _ | e
      · rfl
      · simp [onAgentControlEventUpdateStatus, appliedEvents, applyStatusEvent, ih]

omit [DecidableEq ι] in
/-! #### Sub-agents -/

@[simp] theorem updateSubAgentStatus_agentControl (e : SubAgentEvent ι τ) (s : Status ι τ) :
    (updateSubAgentStatus e s).agentControl = s.agentControl := by
  cases e <;> rfl

@[simp] theorem updateSubAgentStatus_fleet (e : SubAgentEvent ι τ) (s : Status ι τ) :
    (updateSubAgentStatus e s).fleet = s.fleet := by
  cases e <;> rfl

/-- An event about one sub-agent leaves the others' entries alone. -/
theorem lookup_updateSubAgentStatus_ne {k : ι} (e : SubAgentEvent ι τ) (s : Status ι τ)
    (h : k ≠ e.identity.id) : (updateSubAgentStatus e s).agents.lookup k = s.agents.lookup k := by
  cases e <;> exact AList.lookup_modifyOrInsert_ne _ _ h

/-- The entry an event is about, after the event: what it was, or else the new entry, updated. -/
theorem lookup_updateSubAgentStatus_self (e : SubAgentEvent ι τ) (s : Status ι τ) :
    (updateSubAgentStatus e s).agents.lookup e.identity.id =
      match e with
      | .healthUpdated identity health =>
        some (((s.agents.lookup identity.id).getD
          ((SubAgentStatus.withIdentity identity).withStartTime health.startTime)).updateHealth health)
      | .subAgentStarted identity startTime =>
        some ((s.agents.lookup identity.id).getD
          ((SubAgentStatus.withIdentity identity).withStartTime startTime))
      | .agentDescriptionUpdated identity d =>
        some { (s.agents.lookup identity.id).getD (SubAgentStatus.withIdentity identity) with
          attributes := ((s.agents.lookup identity.id).getD
            (SubAgentStatus.withIdentity identity)).attributes.extend (buildAgentAttributes d).entries } := by
  cases e <;> exact AList.lookup_modifyOrInsert_self _ _ _ _

/-- What an event says of whether sub-agent `k` is listed: an event about it lists it, its
removal unlists it. -/
def listsAgent (k : ι) : StatusEvent ι τ → Option Bool
  | .agentControl (.subAgentRemoved id) => if id = k then some false else none
  | .agentControl _ => none
  | .subAgent e => if e.identity.id = k then some true else none

/-- The health an event sets for sub-agent `k`; its removal takes it away. -/
def setsAgentHealth (k : ι) : StatusEvent ι τ → Option (Option HealthInfo)
  | .agentControl (.subAgentRemoved id) => if id = k then some none else none
  | .subAgent (.healthUpdated identity health) =>
    if identity.id = k then some (some (.ofHealth health)) else none
  | _ => none

/-- The value an event sets for attribute `a` of sub-agent `k`; its removal takes it away. -/
def setsAgentAttribute (k : ι) (a : List Char) : StatusEvent ι τ → Option (Option (List Char))
  | .agentControl (.subAgentRemoved id) => if id = k then some none else none
  | .subAgent (.agentDescriptionUpdated identity d) =>
    if identity.id = k then ((buildAgentAttributes d).lookup a).map some else none
  | _ => none

/-- Whether an event removes sub-agent `k`. -/
def removesAgent (k : ι) : StatusEvent ι τ → Bool
  | .agentControl (.subAgentRemoved id) => decide (id = k)
  | _ => false

/-- What an entry is created with: the agent's id, its type and its start time. -/
def SubAgentStatus.createdWith (x : SubAgentStatus ι τ) : ι × τ × Nat :=
  (x.agentId, x.agentType, x.agentStartTimeUnixNano)

/-- What an event about sub-agent `k` would create its entry with. -/
def createsAgent (k : ι) : StatusEvent ι τ → Option (ι × τ × Nat)
  | .subAgent e =>
    if e.identity.id = k then some (e.identity.id, e.identity.agentTypeId, e.startTimeUnixNano)
    else none
  | _ => none

/-- One event changes sub-agent `k`'s entry only if it is about `k`. -/
theorem lookup_applyStatusEvent_of_ne (k : ι) (s : Status ι τ) (e : StatusEvent ι τ)
    (h : listsAgent k e = none) : (applyStatusEvent s e).agents.lookup k = s.agents.lookup k := by
  cases e with
  | agentControl e =>
    cases e with
    | subAgentRemoved id =>
      have hk : id ≠ k := by
        intro hk
        simp [listsAgent, hk] at h
      exact AList.lookup_erase_ne (Ne.symm hk)
    | _ => rfl
  | subAgent e =>
    have hk : e.identity.id ≠ k := by
      intro hk
      simp [listsAgent, hk] at h
    exact lookup_updateSubAgentStatus_ne e s (Ne.symm hk)

theorem lookup_applyStatusEvent_removed (s : Status ι τ) (k : ι) :
    (applyStatusEvent s (.agentControl (.subAgentRemoved k))).agents.lookup k = none :=
  AList.lookup_erase k s.agents

theorem isSome_lookup_applyStatusEvent (k : ι) (s : Status ι τ) (e : StatusEvent ι τ) :
    ((applyStatusEvent s e).agents.lookup k).isSome =
      (listsAgent k e).getD (s.agents.lookup k).isSome := by
  cases hl : listsAgent k e with
  | none => rw [lookup_applyStatusEvent_of_ne k s e hl]; rfl
  | some b =>
    -- an event about `k`: its removal, or a sub-agent event that makes sure of an entry
    cases e with
    | agentControl e =>
      cases e <;> simp only [listsAgent, reduceCtorEq, Option.ite_none_right_eq_some] at hl
      obtain ⟨rfl, hb⟩ := hl
      cases hb
      rw [lookup_applyStatusEvent_removed]
      rfl
    | subAgent e =>
      simp only [listsAgent, Option.ite_none_right_eq_some] at hl
      obtain ⟨rfl, hb⟩ := hl
      cases hb
      rw [applyStatusEvent, lookup_updateSubAgentStatus_self]
      cases e <;> rfl

/-- A sub-agent is listed after a run exactly when the last event about it was not its removal;
with no event about it, when it was listed before. -/
theorem isSome_lookup_onAgentControlEventUpdateStatus (k : ι) (rs : List (Received ι τ))
    (s : Status ι τ) :
    ((onAgentControlEventUpdateStatus rs s).agents.lookup k).isSome =
      ((appliedEvents rs).reverse.findSome? (listsAgent k)).getD (s.agents.lookup k).isSome := by
  rw [onAgentControlEventUpdateStatus_eq]
  exact Controller.observe_foldl applyStatusEvent (fun s => (s.agents.lookup k).isSome)
    (listsAgent k) (isSome_lookup_applyStatusEvent k) s _

theorem healthInfo_applyStatusEvent (k : ι) (s : Status ι τ) (e : StatusEvent ι τ) :
    ((applyStatusEvent s e).agents.lookup k).bind (·.healthInfo) =
      (setsAgentHealth k e).getD ((s.agents.lookup k).bind (·.healthInfo)) := by
  cases e with
  | agentControl e =>
    cases e with
    | subAgentRemoved id =>
      by_cases hk : id = k
      · subst hk
        rw [lookup_applyStatusEvent_removed]
        simp [setsAgentHealth]
      · rw [lookup_applyStatusEvent_of_ne k s _ (by simp [listsAgent, hk])]
        simp [setsAgentHealth, hk]
    | _ => rfl
  | subAgent e =>
    by_cases hk : e.identity.id = k
    · subst hk
      rw [applyStatusEvent, lookup_updateSubAgentStatus_self]
      -- a new entry has no health yet, so only a health update changes what is shown
      cases e with
      | healthUpdated identity health =>
        simp [setsAgentHealth, SubAgentEvent.identity, SubAgentStatus.updateHealth]
      | subAgentStarted identity startTime =>
        cases h : s.agents.lookup identity.id <;>
          simp [setsAgentHealth, SubAgentEvent.identity, h, SubAgentStatus.withStartTime,
            SubAgentStatus.withIdentity]
      | agentDescriptionUpdated identity d =>
        cases h : s.agents.lookup identity.id <;>
          simp [setsAgentHealth, SubAgentEvent.identity, h, SubAgentStatus.withIdentity]
    · rw [applyStatusEvent, lookup_updateSubAgentStatus_ne e s (Ne.symm hk)]
      cases e <;> simp_all [setsAgentHealth, SubAgentEvent.identity]

/-- The health shown for a sub-agent after a run is that of the last health update about it, or
nothing if it was removed after that update; with neither, what was shown before. -/
theorem healthInfo_onAgentControlEventUpdateStatus (k : ι) (rs : List (Received ι τ))
    (s : Status ι τ) :
    ((onAgentControlEventUpdateStatus rs s).agents.lookup k).bind (·.healthInfo) =
      ((appliedEvents rs).reverse.findSome? (setsAgentHealth k)).getD
        ((s.agents.lookup k).bind (·.healthInfo)) := by
  rw [onAgentControlEventUpdateStatus_eq]
  exact Controller.observe_foldl applyStatusEvent (fun s => (s.agents.lookup k).bind (·.healthInfo))
    (setsAgentHealth k) (healthInfo_applyStatusEvent k) s _

theorem attribute_applyStatusEvent (k : ι) (a : List Char) (s : Status ι τ) (e : StatusEvent ι τ) :
    ((applyStatusEvent s e).agents.lookup k).bind (·.attributes.lookup a) =
      (setsAgentAttribute k a e).getD ((s.agents.lookup k).bind (·.attributes.lookup a)) := by
  cases e with
  | agentControl e =>
    cases e with
    | subAgentRemoved id =>
      by_cases hk : id = k
      · subst hk
        rw [lookup_applyStatusEvent_removed]
        simp [setsAgentAttribute]
      · rw [lookup_applyStatusEvent_of_ne k s _ (by simp [listsAgent, hk])]
        simp [setsAgentAttribute, hk]
    | _ => rfl
  | subAgent e =>
    by_cases hk : e.identity.id = k
    · subst hk
      rw [applyStatusEvent, lookup_updateSubAgentStatus_self]
      -- a new entry has no attributes, so only a description changes what is shown
      cases e with
      | healthUpdated identity health =>
        cases h : s.agents.lookup identity.id <;>
          simp [setsAgentAttribute, SubAgentEvent.identity, h, SubAgentStatus.updateHealth,
            SubAgentStatus.withStartTime, SubAgentStatus.withIdentity]
      | subAgentStarted identity startTime =>
        cases h : s.agents.lookup identity.id <;>
          simp [setsAgentAttribute, SubAgentEvent.identity, h, SubAgentStatus.withStartTime,
            SubAgentStatus.withIdentity]
      | agentDescriptionUpdated identity d =>
        cases h : s.agents.lookup identity.id <;> cases ha : (buildAgentAttributes d).lookup a <;>
          simp [setsAgentAttribute, SubAgentEvent.identity, h, ha, SubAgentStatus.withIdentity]
    · rw [applyStatusEvent, lookup_updateSubAgentStatus_ne e s (Ne.symm hk)]
      cases e <;> simp_all [setsAgentAttribute, SubAgentEvent.identity]

/-- An attribute shown for a sub-agent after a run is the value the last description of it gave
the attribute, or nothing if it was removed after that description; with neither, what was
shown before. -/
theorem attribute_onAgentControlEventUpdateStatus (k : ι) (a : List Char)
    (rs : List (Received ι τ)) (s : Status ι τ) :
    ((onAgentControlEventUpdateStatus rs s).agents.lookup k).bind (·.attributes.lookup a) =
      ((appliedEvents rs).reverse.findSome? (setsAgentAttribute k a)).getD
        ((s.agents.lookup k).bind (·.attributes.lookup a)) := by
  rw [onAgentControlEventUpdateStatus_eq]
  exact Controller.observe_foldl applyStatusEvent
    (fun s => (s.agents.lookup k).bind (·.attributes.lookup a))
    (setsAgentAttribute k a) (attribute_applyStatusEvent k a) s _

theorem createdWith_applyStatusEvent (k : ι) (s : Status ι τ) (e : StatusEvent ι τ) :
    ((applyStatusEvent s e).agents.lookup k).map (·.createdWith) =
      if removesAgent k e then none
      else ((s.agents.lookup k).map (·.createdWith)).or (createsAgent k e) := by
  cases e with
  | agentControl e =>
    cases e with
    | subAgentRemoved id =>
      by_cases hk : id = k
      · subst hk
        rw [lookup_applyStatusEvent_removed]
        simp [removesAgent]
      · rw [lookup_applyStatusEvent_of_ne k s _ (by simp [listsAgent, hk])]
        simp [removesAgent, createsAgent, hk]
    | _ => simp [removesAgent, createsAgent, applyStatusEvent, updateAgentControlStatus]
  | subAgent e =>
    by_cases hk : e.identity.id = k
    · subst hk
      rw [applyStatusEvent, lookup_updateSubAgentStatus_self]
      -- no update touches what an entry was created with
      cases e with
      | healthUpdated identity health
      | subAgentStarted identity _
      | agentDescriptionUpdated identity _ =>
        cases h : s.agents.lookup identity.id <;>
          simp [removesAgent, createsAgent, SubAgentEvent.identity, SubAgentEvent.startTimeUnixNano,
            h, SubAgentStatus.createdWith, SubAgentStatus.updateHealth,
            SubAgentStatus.withStartTime, SubAgentStatus.withIdentity]
    · rw [applyStatusEvent, lookup_updateSubAgentStatus_ne e s (Ne.symm hk)]
      simp [removesAgent, createsAgent, hk]

/-- What a sub-agent's entry was created with (its id, agent type and start time) is, after a run,
what the first event about it after its last removal would create it with; with no removal, what
it was created with before, or else what the first event about it would create it with. -/
theorem createdWith_onAgentControlEventUpdateStatus (k : ι) (rs : List (Received ι τ))
    (s : Status ι τ) :
    ((onAgentControlEventUpdateStatus rs s).agents.lookup k).map (·.createdWith) =
      (if (appliedEvents rs).any (removesAgent k) then none
        else (s.agents.lookup k).map (·.createdWith)).or
        (((appliedEvents rs).reverse.takeWhile fun e => !removesAgent k e).reverse.findSome?
          (createsAgent k)) := by
  rw [onAgentControlEventUpdateStatus_eq]
  exact Controller.observe_foldl_first applyStatusEvent
    (fun s => (s.agents.lookup k).map (·.createdWith)) (removesAgent k) (createsAgent k)
    (createdWith_applyStatusEvent k) s _

/-- A sub-agent described before it reports its start keeps the start time `0`. -/
example :
    ((onAgentControlEventUpdateStatus
        [.subAgent (some (.agentDescriptionUpdated ⟨1, 2⟩ ⟨∅, ∅⟩)),
          .subAgent (some (.subAgentStarted ⟨1, 2⟩ 5))]
        (Status.default : Status Nat Nat)).agents.lookup 1).map (·.createdWith) = some (1, 2, 0) := by
  decide

/-! #### Agent Control and the fleet -/

/-- The health an event sets for Agent Control. -/
def setsAgentControlHealth : StatusEvent ι τ → Option (Bool × Option (List Char) × List Char)
  | .agentControl (.healthUpdated health) => some (health.isHealthy, health.lastError, health.status)
  | _ => none

/-- The value an event sets for attribute `a` of Agent Control. -/
def setsAgentControlAttribute (a : List Char) : StatusEvent ι τ → Option (List Char)
  | .agentControl (.agentDescriptionUpdated d) => (buildAgentAttributes d).lookup a
  | _ => none

/-- The connectivity to the server an event sets. -/
def setsConnectivity : StatusEvent ι τ → Option (Bool × Option Nat × Option (List Char))
  | .agentControl .opampConnected => some (true, none, none)
  | .agentControl (.opampConnectFailed errorCode errorMessage) =>
    some (false, errorCode, some errorMessage)
  | _ => none

theorem agentControlAttribute_applyStatusEvent (a : List Char) (s : Status ι τ)
    (e : StatusEvent ι τ) :
    (applyStatusEvent s e).agentControl.attributes.lookup a =
      (setsAgentControlAttribute a e).or (s.agentControl.attributes.lookup a) := by
  cases e with
  | agentControl e =>
    cases e with
    | healthUpdated health =>
      simp [applyStatusEvent, updateAgentControlStatus, setsAgentControlAttribute,
        (s.agentControl.setHealth_shownHealth health).2]
    | agentDescriptionUpdated d =>
      simp [applyStatusEvent, updateAgentControlStatus, setsAgentControlAttribute]
    | _ => rfl
  | subAgent e => simp [applyStatusEvent, setsAgentControlAttribute]

/-- An attribute shown for Agent Control after a run is the value its last description with the
attribute gave it, or else what was shown before: attributes are never taken away. -/
theorem agentControlAttribute_onAgentControlEventUpdateStatus (a : List Char)
    (rs : List (Received ι τ)) (s : Status ι τ) :
    (onAgentControlEventUpdateStatus rs s).agentControl.attributes.lookup a =
      ((appliedEvents rs).reverse.findSome? (setsAgentControlAttribute a)).or
        (s.agentControl.attributes.lookup a) := by
  rw [onAgentControlEventUpdateStatus_eq]
  exact Controller.observe_foldl_or applyStatusEvent
    (fun s => s.agentControl.attributes.lookup a) (setsAgentControlAttribute a)
    (agentControlAttribute_applyStatusEvent a) s _

end SubAgents

end AgentControl
