import Mathlib.Data.List.AList
import AgentControl.Lib.Except

/-!
# Agent type variables

The variables a template is rendered against: `Variables` maps namespaced names
(`nr-var:…`, `nr-sub:…`) to a `Variable`, whose value is the one set by the
configuration or its default (`get_final_value`). A value is printed for a
template by `Display for TrivialValue`.

YAML values are a type parameter `ν`, and printing them (`serde_saphyr::to_string`)
is a parameter `YamlPrinter`: the templates only ever insert their text.
-/

namespace AgentControl

/-- Models the `AgentTypeError` variants the modelled functions raise. -/
inductive AgentTypeError where
  | serialization (message : List Char)
  | missingValue (key : List Char)
  | missingTemplateKey (key : List Char)
  | valueNotParseableFromString (value : List Char)
  | renderingTemplate (message : List Char)
  | unexpectedValueForKey (key value : List Char)
  | valueConversion (message : List Char)
  | valuesNotPopulated (keys : List (List Char))
  | invalidVariant (variants : List Char)
  deriving DecidableEq, Repr

/-- Models `TrivialValue`; a `serde_json::Number` is kept as its text. -/
inductive TrivialValue (ν : Type) where
  | string (s : List Char)
  | bool (b : Bool)
  | number (text : List Char)
  | yaml (v : ν)
  | mapStringString (m : List (List Char × List Char))
  | mapStringYaml (m : List (List Char × ν))
  deriving DecidableEq

/-- How `serde_saphyr::to_string` prints a YAML value and a `map[string]yaml`. -/
structure YamlPrinter (ν : Type) where
  value : ν → List Char
  map : List (List Char × ν) → List Char

/-- Models `Display for TrivialValue`. -/
def TrivialValue.toString {ν : Type} (printer : YamlPrinter ν) : TrivialValue ν → List Char
  | .string s => s
  | .yaml v => printer.value v
  | .bool b => if b then "true".toList else "false".toList
  | .number text => text
  | .mapStringString m => List.intercalate [' '] (m.map fun kv => kv.1 ++ '=' :: kv.2)
  | .mapStringYaml m => printer.map m

/-- Models `TrivialValue::to_yaml_value`. -/
def TrivialValue.toYamlValue {ν : Type} : TrivialValue ν → Option ν
  | .yaml v => some v
  | _ => none

/-- Models `Fields<T>`: whether a value must be given, its default and the value given. -/
structure Fields (τ : Type) where
  required : Bool
  default : Option τ
  finalValue : Option τ
  deriving DecidableEq

/-- Models `Variants<String>`: the values a string variable may take, any when there are none. -/
structure Variants where
  values : List (List Char)
  deriving DecidableEq

/-- Models `Variants::is_valid`. -/
def Variants.isValid (v : Variants) (value : List Char) : Bool :=
  v.values.isEmpty || v.values.contains value

/-- Models `Display for Variants<String>`. -/
def Variants.toText (v : Variants) : List Char :=
  '[' :: List.intercalate ", ".toList v.values ++ [']']

/-- Models `StringFields`: the fields of a string variable and its variants. -/
structure StringFields where
  inner : Fields (List Char)
  variants : Variants
  deriving DecidableEq

/-- Models `VariableType`. -/
inductive VariableType (ν : Type) where
  | string (f : StringFields)
  | bool (f : Fields Bool)
  | number (f : Fields (List Char))
  | mapStringYaml (f : Fields (List (List Char × ν)))
  | yaml (f : Fields ν)
  deriving DecidableEq

/-- Models `VariableType::get_final_value`: the value given, or else the default. -/
def VariableType.getFinalValue {ν : Type} : VariableType ν → Option (TrivialValue ν)
  | .string f => (f.inner.finalValue.or f.inner.default).map .string
  | .bool f => (f.finalValue.or f.default).map .bool
  | .number f => (f.finalValue.or f.default).map .number
  | .mapStringYaml f => (f.finalValue.or f.default).map .mapStringYaml
  | .yaml f => (f.finalValue.or f.default).map .yaml

/-- Models `Variable`, by its type and values. -/
structure Variable (ν : Type) where
  variableType : VariableType ν
  deriving DecidableEq

/-- Models `Variable::get_final_value`. -/
def Variable.getFinalValue {ν : Type} (v : Variable ν) : Option (TrivialValue ν) :=
  v.variableType.getFinalValue

/-- Models `Variable::new_final_string_variable`. -/
def Variable.newFinalStringVariable {ν : Type} (finalValue : List Char) : Variable ν :=
  ⟨.string ⟨⟨false, none, some finalValue⟩, ⟨[]⟩⟩⟩

@[simp] theorem Variable.getFinalValue_newFinalStringVariable {ν : Type} (s : List Char) :
    (Variable.newFinalStringVariable s : Variable ν).getFinalValue = some (.string s) := rfl

/-- Models `VariableType::is_required`. -/
def VariableType.isRequired {ν : Type} : VariableType ν → Bool
  | .string f => f.inner.required
  | .bool f => f.required
  | .number f => f.required
  | .mapStringYaml f => f.required
  | .yaml f => f.required

/-- Models `Variable::is_required`. -/
def Variable.isRequired {ν : Type} (v : Variable ν) : Bool := v.variableType.isRequired

/-- Fields as `with_config` builds them from a definition the deserializer accepted: no final
value yet, and a default exactly when the value is not required. -/
def Fields.FromDefinition {τ : Type} (f : Fields τ) : Prop :=
  f.finalValue = none ∧ (f.required = true ↔ f.default = none)

/-- A variable as `with_config` builds it from a definition the deserializer accepted. -/
def VariableType.FromDefinition {ν : Type} : VariableType ν → Prop
  | .string f => f.inner.FromDefinition
  | .bool f => f.FromDefinition
  | .number f => f.FromDefinition
  | .mapStringYaml f => f.FromDefinition
  | .yaml f => f.FromDefinition

/-- A variable no value was given to has a final value exactly when it is not required. -/
theorem VariableType.getFinalValue_eq_none_iff {ν : Type} {t : VariableType ν}
    (h : t.FromDefinition) : t.getFinalValue = none ↔ t.isRequired = true := by
  cases t with
  | string f => simp [getFinalValue, isRequired, h.1, h.2]
  | bool f => simp [getFinalValue, isRequired, h.1, h.2]
  | number f => simp [getFinalValue, isRequired, h.1, h.2]
  | mapStringYaml f => simp [getFinalValue, isRequired, h.1, h.2]
  | yaml f => simp [getFinalValue, isRequired, h.1, h.2]

/-- What `serde_json::from_value` reads of a YAML value for each type of variable: a string, a
boolean, a number (by its text) and a map. Messages are those of the errors. -/
structure ValueReader (ν : Type) where
  asString : ν → Except (List Char) (List Char)
  asBool : ν → Except (List Char) Bool
  asNumber : ν → Except (List Char) (List Char)
  asMap : ν → Except (List Char) (AList fun _ : List Char => ν)

/-- Models `Fields::set_final_value`, which never fails. -/
def Fields.setFinalValue {τ : Type} (f : Fields τ) (value : τ) : Fields τ :=
  { f with finalValue := some value }

/-- Models `StringFields::set_final_value`: a value outside the variants is refused. -/
def StringFields.setFinalValue (f : StringFields) (value : List Char) :
    Except AgentTypeError StringFields :=
  if !f.variants.isValid value then .error (.invalidVariant f.variants.toText)
  else .ok { f with inner := f.inner.setFinalValue value }

section Merge

variable {ν : Type} (reader : ValueReader ν)

/-- Models `VariableType::merge_with_yaml_value`: the value, read as the variable's type, is its
final value. -/
def VariableType.mergeWithYamlValue : VariableType ν → ν → Except AgentTypeError (VariableType ν)
  | .string f, value => do
    let s ← (reader.asString value).mapError .valueConversion
    .string <$> f.setFinalValue s
  | .bool f, value => do
    let b ← (reader.asBool value).mapError .valueConversion
    pure (.bool (f.setFinalValue b))
  | .number f, value => do
    let n ← (reader.asNumber value).mapError .valueConversion
    pure (.number (f.setFinalValue n))
  | .mapStringYaml f, value => do
    let m ← (reader.asMap value).mapError .valueConversion
    pure (.mapStringYaml (f.setFinalValue (m.entries.map fun e => (e.1, e.2))))
  | .yaml f, value => pure (.yaml (f.setFinalValue value))

/-- Models `Variable::merge_with_yaml_value`. -/
def Variable.mergeWithYamlValue (v : Variable ν) (value : ν) : Except AgentTypeError (Variable ν) :=
  Variable.mk <$> v.variableType.mergeWithYamlValue reader value

/-- A variable a value was merged into has a final value. -/
theorem Variable.getFinalValue_of_merge {v v' : Variable ν} {value : ν}
    (h : v.mergeWithYamlValue reader value = .ok v') : v'.getFinalValue.isSome := by
  obtain ⟨t, ht, rfl⟩ : ∃ t, v.variableType.mergeWithYamlValue reader value = .ok t ∧
      v' = ⟨t⟩ := by
    cases hm : v.variableType.mergeWithYamlValue reader value with
    | error e => simp [mergeWithYamlValue, hm] at h
    | ok t => exact ⟨t, rfl, by simpa [mergeWithYamlValue, hm] using h.symm⟩
  -- every type sets the final value, a string only when its variants allow it
  cases hv : v.variableType with
  | string f =>
    rw [hv] at ht
    obtain ⟨s, -, hs⟩ := Except.bind_eq_ok.mp ht
    unfold StringFields.setFinalValue at hs
    split at hs
    · cases hs
    · cases hs
      rfl
  | bool f =>
    rw [hv] at ht
    obtain ⟨b, -, hb⟩ := Except.bind_eq_ok.mp ht
    cases hb
    rfl
  | number f =>
    rw [hv] at ht
    obtain ⟨n, -, hn⟩ := Except.bind_eq_ok.mp ht
    cases hn
    rfl
  | mapStringYaml f =>
    rw [hv] at ht
    obtain ⟨m, -, hm⟩ := Except.bind_eq_ok.mp ht
    cases hm
    rfl
  | yaml f =>
    rw [hv] at ht
    cases ht
    rfl

end Merge

/-- Models `Variables`, by namespaced name. -/
abbrev Variables (ν : Type) := AList fun _ : List Char => Variable ν

/-- Models `Namespace`. -/
inductive Namespace where
  | variable
  | subAgent
  | agentControl
  | environmentVariable
  | vault
  | file
  | k8sSecret
  deriving DecidableEq, Repr

/-- Models `Display for Namespace`: the prefix `nr-` and the namespace's name. -/
def Namespace.text : Namespace → List Char
  | .variable => "nr-var".toList
  | .subAgent => "nr-sub".toList
  | .agentControl => "nr-ac".toList
  | .environmentVariable => "nr-env".toList
  | .vault => "nr-vault".toList
  | .file => "nr-file".toList
  | .k8sSecret => "nr-kubesec".toList

/-- Models `Namespace::namespaced_name`. -/
def Namespace.namespacedName (ns : Namespace) (name : List Char) : List Char :=
  ns.text ++ ':' :: name

example : Namespace.subAgent.namespacedName "filesystem_agent_dir".toList =
    "nr-sub:filesystem_agent_dir".toList := by decide

end AgentControl
