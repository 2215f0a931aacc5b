import AgentControl.Opamp.Validators
import AgentControl.Values.Config

/-!
# From an OpAMP message to the values a sub-agent runs with

`AgentRemoteConfigParser::parse` refuses a message that arrived failed, runs its
validators in order and stops at the first that rejects, and only then extracts
the values. `extract_remote_config_values` merges the `agentConfig*` entries (a
key in two of them is an error), then lets the single `override.agentConfig*`
entry, if any, override the result. An empty result means "no remote
configuration": the sub-agent resets to its local one.

The extraction reads two families of entries, while the regex validator reads one
(see `AgentControl.Opamp.Validators`): `extractRemoteConfigValues_eq_ok` makes the
second family explicit, the override text is parsed and merged without any
validator having looked at it.
-/

namespace AgentControl

/-- Models `RemoteConfigParserError`. -/
inductive RemoteConfigParserError where
  | validation (message : List Char)
  | remoteConfigLoad (message : List Char)
  | invalidValues (message : List Char)
  deriving DecidableEq, Repr

/-- The `Display` text of a `RemoteConfigParserError`. -/
def RemoteConfigParserError.toText : RemoteConfigParserError → List Char
  | validation m => "remote configuration with validation errors: ".toList ++ m
  | remoteConfigLoad m => "remote configuration cannot be loaded: ".toList ++ m
  | invalidValues m => "remote configuration with invalid values: ".toList ++ m

section Extract

variable {ν : Type} (parseYaml : List Char → Except (List Char) (YAMLConfig ν))

/-- One step of the fold over the `agentConfig*` entries: parse the text and append it. -/
def appendAgentConfig (acc : YAMLConfig ν) (entry : List Char × List Char) :
    Except RemoteConfigParserError (YAMLConfig ν) := do
  let cfg ← (YAMLConfig.tryFrom parseYaml entry.2).mapError fun err =>
    .invalidValues ("decoding config: ".toList ++ err.message)
  (YAMLConfig.tryAppend acc cfg).mapError fun err =>
    .invalidValues ("appending config: ".toList ++ err.message)

/-- The merge of every `agentConfig*` entry, the first part of `extract_remote_config_values`. -/
def mergeAgentConfigs (c : OpampRemoteConfig) : Except RemoteConfigParserError (YAMLConfig ν) :=
  c.agentConfigsIter.foldlM (appendAgentConfig parseYaml) ∅

/-- The override step of `extract_remote_config_values`. -/
def applyOverride (c : OpampRemoteConfig) (config : YAMLConfig ν) :
    Except RemoteConfigParserError (YAMLConfig ν) := do
  let maybeOverrideConfig ← c.agentConfigOverride.mapError fun err =>
    .invalidValues ("getting override values: ".toList ++ err.toText)
  match maybeOverrideConfig with
  | none => pure config
  | some overrideContent =>
    let overrideConfig ← (YAMLConfig.tryFrom parseYaml overrideContent).mapError fun err =>
      .invalidValues ("decoding override values: ".toList ++ err.message)
    pure (YAMLConfig.mergeOverride config overrideConfig)

/-- Models `extract_remote_config_values`. -/
def extractRemoteConfigValues (c : OpampRemoteConfig) :
    Except RemoteConfigParserError (Option (RemoteConfig ν)) := do
  let merged ← mergeAgentConfigs parseYaml c
  let config ← applyOverride parseYaml c merged
  if config.isEmpty then pure none
  else pure (some { config, hash := c.hash, state := c.state })

variable {parseYaml}

/-- What a successful extraction consists of. -/
theorem extractRemoteConfigValues_eq_ok {c : OpampRemoteConfig} {r : Option (RemoteConfig ν)} :
    extractRemoteConfigValues parseYaml c = .ok r ↔
      ∃ merged config, mergeAgentConfigs parseYaml c = .ok merged ∧
        applyOverride parseYaml c merged = .ok config ∧
        r = if config.isEmpty then none else some { config, hash := c.hash, state := c.state } := by
  unfold extractRemoteConfigValues
  simp only [Except.bind_eq_ok]
  constructor
  · rintro ⟨merged, hm, config, hc, hr⟩
    refine ⟨merged, config, hm, hc, ?_⟩
    by_cases he : config.isEmpty = true
    · simp only [he, if_true] at hr ⊢
      exact (Except.ok.inj hr).symm
    · simp only [he, if_false, Bool.false_eq_true] at hr ⊢
      exact (Except.ok.inj hr).symm
  · rintro ⟨merged, config, hm, hc, rfl⟩
    refine ⟨merged, hm, config, hc, ?_⟩
    by_cases he : config.isEmpty = true
    · simp [he, pure, Except.pure]
    · simp [he, pure, Except.pure]

end Extract

/-- Models `AgentRemoteConfigParser`, generic in its validator type. -/
structure AgentRemoteConfigParser (V : Type) where
  remoteConfigValidators : List V

namespace AgentRemoteConfigParser

variable {V ι ν : Type} (validate : V → ι → OpampRemoteConfig → Except (List Char) Unit)
  (parseYaml : List Char → Except (List Char) (YAMLConfig ν))

/-- Models `AgentRemoteConfigParser::parse`: a failed message is refused, then every validator
runs in order (the first rejection is the result), then the values are extracted. -/
def parse (p : AgentRemoteConfigParser V) (agentIdentity : ι) (config : OpampRemoteConfig) :
    Except RemoteConfigParserError (Option (RemoteConfig ν)) :=
  match config.state.errorMessage with
  | some errMsg => .error (.remoteConfigLoad errMsg)
  | none => do
    p.remoteConfigValidators.forM fun validator =>
      (validate validator agentIdentity config).mapError .validation
    extractRemoteConfigValues parseYaml config

variable {validate parseYaml}

/-- Inversion of a successful parse: the message was not failed, every validator accepted
it, and the values are the extraction's. -/
theorem parse_eq_ok {p : AgentRemoteConfigParser V} {agentIdentity : ι}
    {config : OpampRemoteConfig} {r : Option (RemoteConfig ν)} :
    p.parse validate parseYaml agentIdentity config = .ok r ↔
      config.state.errorMessage = none ∧
      (∀ v ∈ p.remoteConfigValidators, validate v agentIdentity config = .ok ()) ∧
      extractRemoteConfigValues parseYaml config = .ok r := by
  unfold parse
  split
  · rename_i msg hmsg
    simp [hmsg]
  · rename_i hmsg
    rw [Except.bind_eq_ok]
    simp only [hmsg, true_and]
    constructor
    · rintro ⟨⟨⟩, hv, he⟩
      refine ⟨fun v hv' => ?_, he⟩
      exact Except.mapError_eq_ok.mp (Except.forM_eq_ok.mp hv v hv')
    · rintro ⟨hv, he⟩
      exact ⟨(), Except.forM_eq_ok.mpr fun v hv' => Except.mapError_eq_ok.mpr (hv v hv'), he⟩

end AgentRemoteConfigParser

end AgentControl
