import AgentControl.Control.Reconcile
import AgentControl.SubAgent.RemoteConfigParser

/-!
# Agent Control's reading of a remote configuration

`TryFrom<&OpampRemoteConfig> for AgentControlDynamicConfig` (`agent_control/config.rs`) is how
Agent Control reads a message: every `agentConfig*` entry is parsed as a YAML mapping, the
sub-agents under its `agents` key are merged (an id in two entries is an error), the rest is
appended to the default configuration, and the merged sub-agents replace those of the result.

Before reading the message at all, Agent Control asks whether it is empty
(`is_agent_configs_empty`), and then falls back to its local configuration. A sub-agent asks
the same question of the values it extracted (`extract_remote_config_values`). The two tests
differ: Agent Control tests the texts of the entries, the sub-agent the mapping they parse to.
An entry `{}`, or one of whitespace or comments, is a text that is not empty and a mapping that
is (`empty_mapping_entry_read_two_ways`): the sub-agent goes back to its local configuration,
while Agent Control keeps its stored one and reads the message as a configuration without any
sub-agent, which stops every running one.
-/

namespace AgentControl

/-- `AGENTS_KEY`. -/
def agentsKey : List Char := "agents".toList

/-- What reading a dynamic configuration takes from `serde`: the sub-agents of an `agents`
value (`serde_json::from_value` into a `SubAgentsMap`), the default configuration as a mapping
(`YAMLConfig::try_from(&AgentControlDynamicConfig::default())`), and the `Display` of an
agent id. Messages are those of the errors. -/
structure DynamicConfigCodec (ι τ ν : Type) where
  subAgentsMap : ν → Except (List Char) (AList fun _ : ι => SubAgentConfig τ)
  defaultYaml : Except (List Char) (YAMLConfig ν)
  agentIdText : ι → List Char

section Read

variable {ι τ ϑ ν : Type} [DecidableEq ι]
  (parseYaml : List Char → Except (List Char) (YAMLConfig ν))
  (decodeYaml : YAMLConfig ν → Except (List Char) (AgentControlDynamicConfig ι τ ϑ))
  (codec : DynamicConfigCodec ι τ ν)

/-- Models `try_append_agents`: the sub-agents of the value are added, and an id that is
already there is an error. -/
def tryAppendAgents (mergedAgents : AList fun _ : ι => SubAgentConfig τ) (agentsValue : ν) :
    Except (List Char) (AList fun _ : ι => SubAgentConfig τ) := do
  let subAgentsMap ← (codec.subAgentsMap agentsValue).mapError ("invalid agents: ".toList ++ ·)
  subAgentsMap.entries.foldlM (fun merged kv =>
    if kv.1 ∈ merged then .error ("duplicated agent: ".toList ++ codec.agentIdText kv.1)
    else .ok (merged.insert kv.1 kv.2)) mergedAgents

/-- One turn of the loop of `TryFrom<&OpampRemoteConfig>` over the `agentConfig*` entries: the
sub-agents merged so far, and the rest of the configuration appended so far. -/
def appendDynamicConfig (acc : (AList fun _ : ι => SubAgentConfig τ) × YAMLConfig ν)
    (entry : List Char × List Char) :
    Except (List Char) ((AList fun _ : ι => SubAgentConfig τ) × YAMLConfig ν) := do
  let yamlConfiguration ← (YAMLConfig.tryFrom parseYaml entry.2).mapError fun err =>
    "invalid config \x27".toList ++ entry.1 ++ "\x27: ".toList ++ err.message
  let (agentsValue, yamlConfiguration) := yamlConfiguration.removeKey agentsKey
  let mergedAgents ← match agentsValue with
    | some v => (tryAppendAgents codec acc.1 v).mapError fun err =>
      "appending agents from config \x27".toList ++ entry.1 ++ "\x27: ".toList ++ err
    | none => pure acc.1
  let remainingConfig ← (YAMLConfig.tryAppend acc.2 yamlConfiguration).mapError fun err =>
    "appending config: ".toList ++ err.message
  pure (mergedAgents, remainingConfig)

/-- Models `TryFrom<&OpampRemoteConfig> for AgentControlDynamicConfig`. -/
def tryFromRemote (c : OpampRemoteConfig) :
    Except (List Char) (AgentControlDynamicConfig ι τ ϑ) := do
  let remainingConfig ← codec.defaultYaml.mapError ("initializing default config: ".toList ++ ·)
  let merged ←
    c.agentConfigsIter.foldlM (appendDynamicConfig parseYaml codec) (∅, remainingConfig)
  let remainingConfigAppended ← (decodeYaml merged.2).mapError ("encoding config: ".toList ++ ·)
  pure { remainingConfigAppended with agents := merged.1 }

variable {parseYaml}

/-- An entry that parses to the empty mapping adds nothing. -/
theorem appendDynamicConfig_of_empty {entry : List Char × List Char}
    (h : parseYaml entry.2 = .ok ∅)
    (acc : (AList fun _ : ι => SubAgentConfig τ) × YAMLConfig ν) :
    appendDynamicConfig parseYaml codec acc entry = .ok acc := by
  simp [appendDynamicConfig, YAMLConfig.tryFrom, h, YAMLConfig.removeKey_empty,
    YAMLConfig.tryAppend_empty]

/-- A message whose `agentConfig*` entries all parse to the empty mapping reads as a
configuration without any sub-agent, if it reads at all. -/
theorem tryFromRemote_agents_of_empty {c : OpampRemoteConfig}
    (hparse : ∀ e ∈ c.agentConfigsIter, parseYaml e.2 = .ok ∅)
    {new : AgentControlDynamicConfig ι τ ϑ}
    (h : tryFromRemote parseYaml decodeYaml codec c = .ok new) : new.agents = ∅ := by
  unfold tryFromRemote at h
  obtain ⟨remaining, -, h⟩ := Except.bind_eq_ok.mp h
  -- the loop over the entries returns the accumulator it started from
  rw [Except.foldlM_eq_ok_of_forall
    (fun e he acc => appendDynamicConfig_of_empty codec (hparse e he) acc), Except.ok_bind] at h
  obtain ⟨appended, -, h⟩ := Except.bind_eq_ok.mp h
  cases h
  rfl

end Read

section Agree

variable {ν : Type} {parseYaml : List Char → Except (List Char) (YAMLConfig ν)}

/-- An entry that parses to the empty mapping adds nothing to what a sub-agent extracts. -/
theorem appendAgentConfig_of_empty {entry : List Char × List Char}
    (h : parseYaml entry.2 = .ok ∅) (acc : YAMLConfig ν) :
    appendAgentConfig parseYaml acc entry = .ok acc := by
  simp [appendAgentConfig, YAMLConfig.tryFrom, h, YAMLConfig.tryAppend_empty]

/-- A message whose `agentConfig*` entries all parse to the empty mapping, and that has no
override entry, extracts to no configuration. -/
theorem extractRemoteConfigValues_of_empty {c : OpampRemoteConfig}
    (hparse : ∀ e ∈ c.agentConfigsIter, parseYaml e.2 = .ok ∅)
    (hoverride : c.overrideConfigs = []) : extractRemoteConfigValues parseYaml c = .ok none := by
  have hmerged : mergeAgentConfigs parseYaml c = .ok ∅ :=
    Except.foldlM_eq_ok_of_forall (fun e he acc => appendAgentConfig_of_empty (hparse e he) acc) ∅
  have hnone : applyOverride parseYaml c ∅ = .ok ∅ := by
    simp [applyOverride, OpampRemoteConfig.agentConfigOverride, hoverride]
  exact extractRemoteConfigValues_eq_ok.mpr
    ⟨∅, ∅, hmerged, hnone, by simp [YAMLConfig.isEmpty_empty]⟩

variable {ι τ ϑ : Type} [DecidableEq ι] [DecidableEq τ]
  (decodeYaml : YAMLConfig ν → Except (List Char) (AgentControlDynamicConfig ι τ ϑ))
  (codec : DynamicConfigCodec ι τ ν)

/-- An `agentConfig*` entry whose text is not empty but whose mapping is, with every other such
entry parsing to the empty mapping too, is read two ways. The sub-agent extracts no
configuration and goes back to its local one. Agent Control finds the message not empty: it
keeps its stored configuration instead of loading the local one, and reads the message as a
configuration without any sub-agent, whose application stops every running sub-agent. -/
theorem empty_mapping_entry_read_two_ways {c : OpampRemoteConfig}
    (hparse : ∀ e ∈ c.agentConfigsIter, parseYaml e.2 = .ok ∅)
    (hoverride : c.overrideConfigs = []) (htext : ∃ e ∈ c.agentConfigsIter, e.2 ≠ [])
    (o : Outcomes ι τ) (st : DynamicConfigStore ι τ ϑ ν) :
    extractRemoteConfigValues parseYaml c = .ok none ∧
      c.isAgentConfigsEmpty = false ∧
      (newDynamicConfig (tryFromRemote parseYaml decodeYaml codec) decodeYaml o c st).1 = st ∧
      ∀ new, (newDynamicConfig (tryFromRemote parseYaml decodeYaml codec) decodeYaml o c st).2 =
          .ok new →
        new.agents = ∅ ∧ ∀ current running, Consistent running current.agents →
          ∀ id, (applyRemoteConfigAgents o current new running).1.agents.lookup id = none := by
  have hempty : c.isAgentConfigsEmpty = false := by
    obtain ⟨e, he, hne⟩ := htext
    exact Bool.eq_false_iff.mpr fun h => hne (OpampRemoteConfig.isAgentConfigsEmpty_iff.mp h e he)
  -- Agent Control reads the message, since its test found a text
  have hread : newDynamicConfig (tryFromRemote parseYaml decodeYaml codec) decodeYaml o c st =
      (st, (tryFromRemote parseYaml decodeYaml codec c).mapError .dynamicConfig) := by
    simp [newDynamicConfig, hempty]
  refine ⟨extractRemoteConfigValues_of_empty hparse hoverride, hempty, by rw [hread], ?_⟩
  intro new hnew
  rw [hread] at hnew
  have hagents := tryFromRemote_agents_of_empty decodeYaml codec hparse
    (Except.mapError_eq_ok.mp hnew)
  refine ⟨hagents, fun current running hc id => ?_⟩
  exact applyRemoteConfigAgents_stops_dropped o hc (by simp [hagents])

end Agree

/-! ### A message of one entry `{}` -/

/-- A YAML parser that knows the empty mappings only: the empty text and `{}`. -/
def emptyMappingsYaml (text : List Char) : Except (List Char) (YAMLConfig Unit) :=
  if text = [] ∨ text = "{}".toList then .ok ∅ else .error "not an empty mapping".toList

/-- Agent types and versions are never read back here. -/
def unitDynamicConfigCodec : DynamicConfigCodec Nat Nat Unit :=
  ⟨fun _ => .ok ∅, .ok ∅, fun _ => []⟩

/-- Every mapping reads as the configuration without sub-agents. -/
def unitDecodeYaml (_ : YAMLConfig Unit) :
    Except (List Char) (AgentControlDynamicConfig Nat Nat Unit) :=
  .ok ⟨∅, none⟩

/-- A message whose only entry is the empty flow mapping `{}`. -/
def bracesMessage : OpampRemoteConfig where
  hash := "b".toList
  state := .applying
  signatures := none
  configMap := AList.singleton "agentConfig".toList "{}".toList

/-- A repository with a stored remote configuration and a local one. -/
def storedRemote : DynamicConfigStore Nat Nat Unit Unit :=
  ⟨some ⟨⟨∅⟩, "r".toList, .applied⟩, ⟨∅, none⟩⟩

/-- Every collaborator of Agent Control succeeds. -/
def everyCallSucceeds : Outcomes Nat Nat :=
  ⟨true, true, true, true, true, fun _ => true, fun _ => true, true, true, true⟩

theorem empty_mapping_entry_read_two_ways_at_braces :
    extractRemoteConfigValues emptyMappingsYaml bracesMessage = .ok none ∧
      bracesMessage.isAgentConfigsEmpty = false ∧
      (newDynamicConfig (tryFromRemote emptyMappingsYaml unitDecodeYaml unitDynamicConfigCodec)
        unitDecodeYaml everyCallSucceeds bracesMessage storedRemote).1 = storedRemote ∧
      ∀ new, (newDynamicConfig
          (tryFromRemote emptyMappingsYaml unitDecodeYaml unitDynamicConfigCodec)
          unitDecodeYaml everyCallSucceeds bracesMessage storedRemote).2 = .ok new →
        new.agents = ∅ ∧ ∀ current running, Consistent running current.agents →
          ∀ id, (applyRemoteConfigAgents everyCallSucceeds current new running).1.agents.lookup id =
            none :=
  empty_mapping_entry_read_two_ways unitDecodeYaml unitDynamicConfigCodec
    (fun e he => by
      have hiter :
          bracesMessage.agentConfigsIter = [("agentConfig".toList, "\x7b\x7d".toList)] := by
        decide
      rw [hiter, List.mem_singleton] at he
      subst he
      simp [emptyMappingsYaml])
    (by decide) ⟨("agentConfig".toList, "\x7b\x7d".toList), by decide, by decide⟩ everyCallSucceeds
    storedRemote

end AgentControl
