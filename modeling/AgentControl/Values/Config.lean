import Mathlib.Data.List.AList
import AgentControl.Lib.Except
import AgentControl.Opamp.RemoteConfig

/-!
# Configuration values

`YAMLConfig` is a YAML mapping at the root: a map from top-level keys to YAML
values. The values themselves are never inspected by the code modelled here, so
they are an arbitrary type `ν`; parsing text into a `YAMLConfig` is `serde_saphyr`
and enters as a parameter `parseYaml` wherever it is needed.

A `RemoteConfig` is what the repositories persist: the values, the hash of the
OpAMP message they came from, and its `ConfigState`.

Merging comes in two flavours, and the difference matters to who wins a key:
`tryAppend` refuses any key the accumulator already has, `mergeOverride` lets the
second mapping win.
-/

namespace AgentControl

/-- Models `YAMLConfig`: a YAML mapping from top-level keys to values. -/
structure YAMLConfig (ν : Type) where
  map : AList (fun _ : List Char => ν)

/-- Models `YAMLConfigError`, by its message. -/
structure YAMLConfigError where
  message : List Char
  deriving DecidableEq, Repr

/-- Models `RemoteConfig`: persisted values with the hash and state of their message. -/
structure RemoteConfig (ν : Type) where
  config : YAMLConfig ν
  hash : List Char
  state : ConfigState

namespace YAMLConfig

variable {ν : Type}

instance : EmptyCollection (YAMLConfig ν) := ⟨⟨∅⟩⟩

/-- Models `YAMLConfig::is_empty`. -/
def isEmpty (y : YAMLConfig ν) : Bool := y.map.entries.isEmpty

/-- Models `YAMLConfig::try_from(&str)`: the parser's error gets the `decoding config` prefix. -/
def tryFrom (parseYaml : List Char → Except (List Char) (YAMLConfig ν)) (text : List Char) :
    Except YAMLConfigError (YAMLConfig ν) :=
  (parseYaml text).mapError fun e => ⟨"decoding config: ".toList ++ e⟩

/-- One step of `try_append`: refuse a key the result already has. -/
def appendEntry (result : YAMLConfig ν) (kv : Sigma fun _ : List Char => ν) :
    Except YAMLConfigError (YAMLConfig ν) :=
  if kv.1 ∈ result.map then .error ⟨"cannot append duplicated key: ".toList ++ kv.1⟩
  else .ok ⟨result.map.insert kv.1 kv.2⟩

/-- Models `YAMLConfig::try_append`: the keys of `b` are added to `a`, and a duplicate fails. -/
def tryAppend (a b : YAMLConfig ν) : Except YAMLConfigError (YAMLConfig ν) :=
  b.map.entries.foldlM appendEntry a

/-- Models `YAMLConfig::merge_override`: the entries of `b` replace those of `a`. -/
def mergeOverride (a b : YAMLConfig ν) : YAMLConfig ν :=
  b.map.entries.foldl (fun result kv => ⟨result.map.insert kv.1 kv.2⟩) a

/-- Models `YAMLConfig::remove_key`: the key's value, and the mapping without the key. -/
def removeKey (y : YAMLConfig ν) (key : List Char) : Option ν × YAMLConfig ν :=
  (y.map.lookup key, ⟨y.map.erase key⟩)

/-- Appending the empty mapping changes nothing. -/
theorem tryAppend_empty (a : YAMLConfig ν) : tryAppend a ∅ = .ok a := rfl

theorem removeKey_empty (key : List Char) : (∅ : YAMLConfig ν).removeKey key = (none, ∅) := rfl

theorem isEmpty_empty : (∅ : YAMLConfig ν).isEmpty = true := rfl

end YAMLConfig

end AgentControl
