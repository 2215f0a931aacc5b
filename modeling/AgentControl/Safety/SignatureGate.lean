import AgentControl.Control.Model
import AgentControl.SubAgent.Persist
import AgentControl.Opamp.Validators

/-!
# Signature validation gates every configuration change

Both consumers of an OpAMP remote configuration run the signature validator
before anything else: Agent Control as its `remote_config_validator`, a sub-agent
as one of the validators of its `AgentRemoteConfigParser`. A refusal stops each of
them before any write: `processRemoteConfig_of_refused` and
`handleRemoteConfig_of_parse_error`. So a message that changes anything has every
entry of its configuration map signed (`unverified_message_changes_nothing`).

Every entry of an *empty* map is signed, vacuously, and an empty map is the
documented way of asking both consumers to fall back to their local
configuration: the stored remote configuration is deleted and the sub-agent's
supervisor may be stopped. `empty_message_resets_to_local` shows both, with a
key store that verifies nothing.
-/

namespace AgentControl

section Refused

variable {ι τ ϑ ν : Type} [DecidableEq ι] [DecidableEq τ]
  (remoteConfigValidator : OpampRemoteConfig → Except (List Char) Unit)
  (dynamicConfigValidator : AgentControlDynamicConfig ι τ ϑ → Except (List Char) Unit)
  (decodeRemote : OpampRemoteConfig → Except (List Char) (AgentControlDynamicConfig ι τ ϑ))
  (encodeYaml : AgentControlDynamicConfig ι τ ϑ → Except (List Char) (YAMLConfig ν))
  (decodeYaml : YAMLConfig ν → Except (List Char) (AgentControlDynamicConfig ι τ ϑ))
  (display : AgentControlError ι → List Char)

/-- A refused message stops `validate_apply_store_remote_config` before any write, with an
error that is not about the agents. -/
theorem validateApplyStoreRemoteConfig_of_refused {c : OpampRemoteConfig} {err : List Char}
    (h : remoteConfigValidator c = .error err) (o : Outcomes ι τ) (s : ControlState ι τ ϑ ν) :
    ∃ e, validateApplyStoreRemoteConfig remoteConfigValidator dynamicConfigValidator decodeRemote
        encodeYaml decodeYaml o c s = (s.subAgents, s.store, .error e) ∧
      ∀ errs, e ≠ .buildingSubagents errs := by
  unfold validateApplyStoreRemoteConfig
  split
  · exact ⟨_, rfl, fun _ he => by cases he⟩
  · rw [h]
    exact ⟨_, rfl, fun _ he => by cases he⟩

/-- **Agent Control: a refused message changes nothing.** The running sub-agents, the
configuration they are diffed against and the repository are all as before. -/
theorem processRemoteConfig_of_refused {c : OpampRemoteConfig} {err : List Char}
    (h : remoteConfigValidator c = .error err) (o : Outcomes ι τ) (s : ControlState ι τ ϑ ν) :
    (processRemoteConfig remoteConfigValidator dynamicConfigValidator decodeRemote encodeYaml
      decodeYaml display s (c, o)).1 = s := by
  obtain ⟨e, hv, hne⟩ := validateApplyStoreRemoteConfig_of_refused remoteConfigValidator
    dynamicConfigValidator decodeRemote encodeYaml decodeYaml h o s
  -- every branch of the handler for such an error returns the state it was given, and an error
  have hh : ∃ reported e', handleRemoteConfig remoteConfigValidator dynamicConfigValidator
      decodeRemote encodeYaml decodeYaml o display c s =
        (s.subAgents, s.store, reported, .error e') := by
    unfold handleRemoteConfig
    split
    · exact ⟨_, _, rfl⟩
    · rw [hv]
      dsimp only
      split
      · rename_i errs heq
        cases heq
        exact absurd rfl (hne errs)
      · split
        · exact ⟨_, _, rfl⟩
        · exact ⟨_, _, rfl⟩
      · rename_i new heq
        cases heq
  obtain ⟨reported, e', hh⟩ := hh
  unfold processRemoteConfig
  dsimp only
  rw [hh]

end Refused

/-- A sub-agent parser that runs an enabled signature validator refuses a message with an
unsigned entry. -/
theorem parse_error_of_not_verified {κ ν : Type}
    {verifySignature : κ → List Char → List Char → List Char → Except (List Char) Unit}
    {v : SignatureValidator κ} {store : κ} (hs : v.publicKeyStore = some store)
    {c : OpampRemoteConfig} (hc : ¬ EntriesVerified verifySignature store c)
    {p : AgentRemoteConfigParser (SupportedRemoteConfigValidator κ)}
    (hp : .signature v ∈ p.remoteConfigValidators) (agentTypeName : List Char)
    (parseYaml : List Char → Except (List Char) (YAMLConfig ν)) :
    ∃ err, p.parse (fun validator name c => validator.validate verifySignature name c) parseYaml
      agentTypeName c = .error err := by
  cases hparse : p.parse (fun validator name c => validator.validate verifySignature name c)
      parseYaml agentTypeName c with
  | error err => exact ⟨err, rfl⟩
  | ok r =>
    -- the parse went through every validator, the signature validator among them
    obtain ⟨-, hvalid, -⟩ := AgentRemoteConfigParser.parse_eq_ok.mp hparse
    have hsig := Except.mapError_eq_ok.mp (hvalid _ hp)
    exact absurd ((SignatureValidator.validate_eq_ok hs c).mp hsig) hc

/-- **A message with an unsigned entry changes nothing**, at Agent Control and at every
sub-agent whose parser runs the signature validator: their sub-agents, supervisors and stored
configurations are as before. -/
theorem unverified_message_changes_nothing {κ ι τ ϑ ν α μ : Type} [DecidableEq ι] [DecidableEq τ]
    (verifySignature : κ → List Char → List Char → List Char → Except (List Char) Unit)
    {v : SignatureValidator κ} {store : κ} (hs : v.publicKeyStore = some store)
    {c : OpampRemoteConfig} (hc : ¬ EntriesVerified verifySignature store c)
    (agentControlTypeName : List Char)
    (dynamicConfigValidator : AgentControlDynamicConfig ι τ ϑ → Except (List Char) Unit)
    (decodeRemote : OpampRemoteConfig → Except (List Char) (AgentControlDynamicConfig ι τ ϑ))
    (encodeYaml : AgentControlDynamicConfig ι τ ϑ → Except (List Char) (YAMLConfig ν))
    (decodeYaml : YAMLConfig ν → Except (List Char) (AgentControlDynamicConfig ι τ ϑ))
    (display : AgentControlError ι → List Char) (o : Outcomes ι τ) (s : ControlState ι τ ϑ ν)
    {p : AgentRemoteConfigParser (SupportedRemoteConfigValidator κ)}
    (hp : .signature v ∈ p.remoteConfigValidators) (agentTypeName : List Char)
    (parseYaml : List Char → Except (List Char) (YAMLConfig μ))
    (assembleAgent : YAMLConfig μ → Except (List Char) α) (so : SubAgentOutcomes α)
    (st : SubAgentState α μ) :
    (processRemoteConfig
        (fun c => (SupportedRemoteConfigValidator.signature v).validate verifySignature
          agentControlTypeName c)
        dynamicConfigValidator decodeRemote encodeYaml decodeYaml display s (c, o)).1 = s ∧
    (SubAgent.handleRemoteConfig
        (fun c => p.parse (fun validator name c => validator.validate verifySignature name c)
          parseYaml agentTypeName c)
        assembleAgent so c st).1 = st := by
  constructor
  · -- Agent Control's validator refuses the message
    have hrefused : ∃ err, (SupportedRemoteConfigValidator.signature v).validate verifySignature
        agentControlTypeName c = .error err := by
      cases hval : (SupportedRemoteConfigValidator.signature v).validate verifySignature
          agentControlTypeName c with
      | error err => exact ⟨err, rfl⟩
      | ok u =>
        have hsig := Except.mapError_eq_ok.mp hval
        exact absurd ((SignatureValidator.validate_eq_ok hs c).mp hsig) hc
    obtain ⟨err, herr⟩ := hrefused
    exact processRemoteConfig_of_refused _ dynamicConfigValidator decodeRemote encodeYaml
      decodeYaml display herr o s
  · -- the sub-agent's parser refuses it
    obtain ⟨err, herr⟩ := parse_error_of_not_verified hs hc hp agentTypeName parseYaml
    exact SubAgent.handleRemoteConfig_of_parse_error assembleAgent so herr st

/-! ### Concrete messages -/

/-- A key store that verifies no signature at all. -/
def rejectAll : Unit → List Char → List Char → List Char → Except (List Char) Unit :=
  fun _ _ _ _ => .error "invalid signature".toList

/-- A signature validator with validation enabled. -/
def enabledValidator : SignatureValidator Unit := ⟨some ()⟩

/-- A message with an empty configuration map. -/
def emptyMessage : OpampRemoteConfig := ⟨"e".toList, .applying, none, ∅⟩

/-- A message with one unsigned agent configuration entry. -/
def unsignedMessage : OpampRemoteConfig where
  hash := "u".toList
  state := .applying
  signatures := none
  configMap := AList.singleton "agentConfig".toList "x".toList

/-- Agent Control with no agents, a stored remote configuration and a local one. -/
def gateStart : ControlState Nat Nat Unit Unit :=
  ⟨⟨∅⟩, ⟨∅, none⟩, ⟨some ⟨⟨∅⟩, "r".toList, .applied⟩, ⟨∅, none⟩⟩⟩

/-- Every collaborator of Agent Control succeeds. -/
def gateOutcomes : Outcomes Nat Nat :=
  ⟨true, true, true, true, true, fun _ => true, fun _ => true, true, true, true⟩

/-- A sub-agent running a supervisor, with a stored remote configuration and no local one. -/
def gateSubAgent : SubAgentState Unit Unit := ⟨some (), some ⟨⟨∅⟩, "r".toList, .applied⟩, none⟩

/-- Every collaborator of a sub-agent succeeds. -/
def gateSubAgentOutcomes : SubAgentOutcomes Unit :=
  ⟨true, true, true, true, fun _ => .ok (), .ok (), .ok (), true⟩

/-- The parser of a sub-agent with the enabled signature validator. -/
def gateParser : AgentRemoteConfigParser (SupportedRemoteConfigValidator Unit) :=
  ⟨[.signature enabledValidator]⟩

theorem unverified_message_changes_nothing_at_unsigned :
    enabledValidator.publicKeyStore = some () ∧ ¬ EntriesVerified rejectAll () unsignedMessage ∧
    .signature enabledValidator ∈ gateParser.remoteConfigValidators ∧
    ((processRemoteConfig
        (fun c => (SupportedRemoteConfigValidator.signature enabledValidator).validate rejectAll
          [] c)
        (fun _ => .ok ()) (fun _ => .ok ⟨∅, none⟩) (fun _ => .ok ∅) (fun _ => .ok ⟨∅, none⟩)
        (fun _ => []) gateStart (unsignedMessage, gateOutcomes)).1 = gateStart ∧
    (SubAgent.handleRemoteConfig
        (fun c => gateParser.parse (fun validator name c => validator.validate rejectAll name c)
          (fun _ => .ok ⟨∅⟩) [] c)
        (fun _ => .ok ()) gateSubAgentOutcomes unsignedMessage gateSubAgent).1 = gateSubAgent) := by
  have hc : ¬ EntriesVerified rejectAll () unsignedMessage := by
    intro h
    obtain ⟨s, hs, -⟩ := h ("agentConfig".toList, "x".toList) (by decide)
    cases hs
  exact ⟨rfl, hc, List.mem_singleton_self _,
    unverified_message_changes_nothing rejectAll rfl hc [] _ _ _ _ _ gateOutcomes gateStart
      (List.mem_singleton_self _) [] _ _ gateSubAgentOutcomes gateSubAgent⟩

/-- A message with an empty configuration map passes a validator whose key store verifies
nothing, and both consumers reset to local: Agent Control deletes its stored remote
configuration, and a sub-agent without a local configuration deletes its own and stops its
supervisor. -/
theorem empty_message_resets_to_local :
    emptyMessage.configMap.entries = [] ∧
    gateStart.store.remote.isSome ∧
    (processRemoteConfig
        (fun c => (SupportedRemoteConfigValidator.signature enabledValidator).validate rejectAll
          [] c)
        (fun _ => .ok ()) (fun _ => .ok ⟨∅, none⟩) (fun _ => .ok ∅) (fun _ => .ok ⟨∅, none⟩)
        (fun _ => []) gateStart (emptyMessage, gateOutcomes)).1.store.remote.isNone ∧
    gateSubAgent.remote.isSome ∧ gateSubAgent.supervisor.isSome ∧
    (SubAgent.handleRemoteConfig
        (fun c => gateParser.parse (fun validator name c => validator.validate rejectAll name c)
          (fun _ => .ok ⟨∅⟩) [] c)
        (fun _ => .ok ()) gateSubAgentOutcomes emptyMessage gateSubAgent).1.remote.isNone ∧
    (SubAgent.handleRemoteConfig
        (fun c => gateParser.parse (fun validator name c => validator.validate rejectAll name c)
          (fun _ => .ok ⟨∅⟩) [] c)
        (fun _ => .ok ()) gateSubAgentOutcomes emptyMessage gateSubAgent).1.supervisor.isNone := by
  decide

end AgentControl
