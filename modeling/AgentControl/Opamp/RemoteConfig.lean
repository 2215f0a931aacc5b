import Mathlib.Data.List.AList

/-!
# Remote configurations received over OpAMP

`OpampRemoteConfig` is what Fleet Control sends: a hash naming the version, the
state the OpAMP callbacks already assigned to it (a message that failed their
pre-processing arrives `Failed`), optional signatures, and the configuration map
from entry names to their text.

Two families of entries matter to the consumers. Entries whose name starts with
`agentConfig` *are* the agent configuration; at most one entry whose name starts
with `override.agentConfig` overrides values of it. The two prefixes select
disjoint sets of names, and the validators and the value extractor must agree on
which of them they read.

Rust strings are modelled as their lists of `char`s: every operation the code uses
on them (`starts_with`, `is_empty`, concatenation) reads characters only. A
`HashMap` is modelled by Mathlib's `AList`, whose keys are distinct; its iteration
order is unspecified, so no statement below depends on the order of `entries`.
-/

namespace AgentControl

/-- Models `AGENT_CONFIG_PREFIX` -/
def agentConfigPrefix : List Char := "agentConfig".toList

/-- Models `AGENT_CONFIG_OVERRIDE_PREFIX` -/
def agentConfigOverridePrefix : List Char := "override.agentConfig".toList

/-- Models `ConfigState`: the application state of a remote configuration. -/
inductive ConfigState where
  | applying
  | applied
  | failed (errorMessage : List Char)
  deriving DecidableEq, Repr

namespace ConfigState

/-- Models `ConfigState::is_applying` -/
def isApplying : ConfigState → Bool
  | applying => true
  | _ => false

/-- Models `ConfigState::error_message` -/
def errorMessage : ConfigState → Option (List Char)
  | failed msg => some msg
  | _ => none

end ConfigState

/-- The part of a config signature that verification reads: the key id and the
(base64) signature text. The signing algorithm is fixed by the verifier's key. -/
structure SignatureData where
  keyId : List Char
  signature : List Char
  deriving DecidableEq, Repr

/-- Models `OpampRemoteConfigError::InvalidConfig(hash, message)` -/
inductive OpampRemoteConfigError where
  | invalidConfig (hash message : List Char)
  deriving DecidableEq, Repr

/-- The `Display` text of an `OpampRemoteConfigError`. -/
def OpampRemoteConfigError.toText : OpampRemoteConfigError → List Char
  | invalidConfig hash message =>
    "invalid config for hash '".toList ++ hash ++ "': ".toList ++ message

/-- Models `OpampRemoteConfig` -/
structure OpampRemoteConfig where
  hash : List Char
  state : ConfigState
  signatures : Option (AList (fun _ : List Char => SignatureData))
  configMap : AList (fun _ : List Char => List Char)

namespace OpampRemoteConfig

variable (c : OpampRemoteConfig)

/-- Models `configs_iter`: every entry of the configuration map. -/
def configsIter : List (List Char × List Char) :=
  c.configMap.entries.map fun e => (e.1, e.2)

/-- Models `agent_configs_iter`: the entries whose name starts with `agentConfig`. -/
def agentConfigsIter : List (List Char × List Char) :=
  c.configsIter.filter fun kv => agentConfigPrefix.isPrefixOf kv.1

/-- Models `is_agent_configs_empty`: no `agentConfig*` entry has a non-empty text. -/
def isAgentConfigsEmpty : Bool :=
  !c.configsIter.any fun kv => agentConfigPrefix.isPrefixOf kv.1 && !kv.2.isEmpty

/-- The texts of the `override.agentConfig*` entries, in iteration order. -/
def overrideConfigs : List (List Char) :=
  c.configsIter.filterMap fun kv =>
    if agentConfigOverridePrefix.isPrefixOf kv.1 then some kv.2 else none

/-- Models `agent_config_override`: the override text if there is one; a second one is an error. -/
def agentConfigOverride : Except OpampRemoteConfigError (Option (List Char)) :=
  match c.overrideConfigs with
  | [] => .ok none
  | [v] => .ok (some v)
  | _ :: _ :: _ =>
    .error (.invalidConfig c.hash
      ("multiple configurations with '".toList ++ agentConfigOverridePrefix ++ "' prefix".toList))

/-- Models `signature`: the signature recorded for the entry `name`. -/
def signature (name : List Char) : Except OpampRemoteConfigError SignatureData :=
  match c.signatures with
  | none => .error (.invalidConfig c.hash "missing signatures".toList)
  | some sigs =>
    match sigs.lookup name with
    | some s => .ok s
    | none => .error (.invalidConfig c.hash ("missing signature for config: ".toList ++ name))

/-! ## Spec lemmas -/

variable {c}

theorem mem_agentConfigsIter {kv : List Char × List Char} :
    kv ∈ c.agentConfigsIter ↔ kv ∈ c.configsIter ∧ agentConfigPrefix.isPrefixOf kv.1 = true := by
  simp [agentConfigsIter]

theorem isAgentConfigsEmpty_iff :
    c.isAgentConfigsEmpty = true ↔ ∀ kv ∈ c.agentConfigsIter, kv.2 = [] := by
  simp only [isAgentConfigsEmpty, Bool.not_eq_true', List.any_eq_false, Bool.and_eq_true,
    Bool.not_eq_true', List.isEmpty_eq_false_iff, not_and, mem_agentConfigsIter]
  constructor
  · intro h kv ⟨hkv, hp⟩
    by_contra hne
    exact h kv hkv hp hne
  · intro h kv hkv hp hne
    exact hne (h kv ⟨hkv, hp⟩)

end OpampRemoteConfig

end AgentControl
