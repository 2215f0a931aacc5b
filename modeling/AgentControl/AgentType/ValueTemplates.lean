import AgentControl.AgentType.Templates
import AgentControl.Checkers.K8sHealth
import AgentControl.Lib.Json
import AgentControl.Lib.Map
import AgentControl.Values.Config

/-!
# Templating of values and of Kubernetes objects

An agent type's values are YAML read as `serde_json::Value`: a configuration (`YAMLConfig`) maps
keys to values, and a value is a tree of objects, arrays and scalars. `template_with` renders
such a tree against the variables. It rebuilds the tree, templating each string with
`template_yaml_value_string` (so that a string that is one placeholder takes the variable's
type), leaves every other scalar and every key as it was, and stops at the first string that
fails. This is the traversal of the string leaves of `Lib.Json` (`templateWith_eq_traverseStrings`),
from which it follows that:

* templating fails with the error of the first string, in order, that fails
  (`error?_templateWith`);
* it succeeds exactly when every string templates, with the value whose strings are replaced by
  their templates (`templateWith_eq_ok_iff`);
* a value none of whose strings holds a placeholder comes back as it was, whatever the
  variables (`templateWith_of_templateCaptures_eq_nil`).

The objects of a Kubernetes agent type are templated field by field: name, namespace and each
label's key and value as text, the other top-level fields as values. The labels are collected
into a new map, so two labels whose keys template to the same text become one.
-/

namespace AgentControl

/-- A string without placeholders is itself, of any type of values and whatever the variables. -/
theorem templateYamlValueString_of_templateCaptures_eq_nil {ν : Type} (printer : YamlPrinter ν)
    (yaml : YamlValues ν) (vars : Variables ν) {s : List Char} (h : templateCaptures s = []) :
    templateYamlValueString printer yaml vars s = .ok (yaml.string s) := by
  -- a string that is one placeholder is its own capture, so `s` is not one
  have honly : onlyTemplateVar s = false := by
    cases hs : onlyTemplateVar s with
    | false => rfl
    | true =>
      have hne : s ≠ [] := by
        rintro rfl
        exact absurd hs (by decide)
      rw [templateCaptures, Regex.Re.findIter_of_fullMatch hs hne] at h
      exact absurd h (List.cons_ne_nil _ _)
  rw [templateYamlValueString, honly]
  simp [templateString, h]

/-! ### Values -/

section Json

variable (printer : YamlPrinter JsonValue) (fromStr : List Char → Except (List Char) JsonValue)
  (vars : Variables JsonValue)

/-- What `template_yaml_value_string` builds a `serde_json::Value` with: `Value::String`, and
`serde_saphyr::from_str` for the text of a boolean or a number. -/
def jsonValues : YamlValues JsonValue := ⟨.string, fromStr⟩

mutual

/-- Models `Templateable for serde_json::Value`. -/
def JsonValue.templateWith : JsonValue → Except AgentTypeError JsonValue
  | .object m => .object <$> JsonValue.templateWithMembers m
  | .array seq => .array <$> JsonValue.templateWithList seq
  | .string st => templateYamlValueString printer (jsonValues fromStr) vars st
  | v => pure v

/-- Models `Templateable for Vec<serde_json::Value>`: `collect` stops at the first error. -/
def JsonValue.templateWithList : List JsonValue → Except AgentTypeError (List JsonValue)
  | [] => pure []
  | v :: vs => do
    let w ← JsonValue.templateWith v
    let ws ← JsonValue.templateWithList vs
    pure (w :: ws)

/-- Models `Templateable for serde_json::Map<String, serde_json::Value>`: each member keeps its
key. -/
def JsonValue.templateWithMembers :
    List (List Char × JsonValue) → Except AgentTypeError (List (List Char × JsonValue))
  | [] => pure []
  | (k, v) :: members => do
    let w ← JsonValue.templateWith v
    let ws ← JsonValue.templateWithMembers members
    pure ((k, w) :: ws)

end

/-- Models `Templateable for HashMap<String, serde_json::Value>`: each value is templated under
its key, and the pairs are collected into a new map. -/
def templateWithHashMap (m : AList fun _ : List Char => JsonValue) :
    Except AgentTypeError (AList fun _ : List Char => JsonValue) := do
  let entries ← m.entries.mapM fun kv => do
    let v ← JsonValue.templateWith printer fromStr vars kv.2
    pure (⟨kv.1, v⟩ : Σ _ : List Char, JsonValue)
  pure ((∅ : AList fun _ : List Char => JsonValue).extend entries)

/-- Models `Templateable for YAMLConfig`. -/
def YAMLConfig.templateWith (y : YAMLConfig JsonValue) : Except AgentTypeError (YAMLConfig JsonValue) := do
  let map ← templateWithHashMap printer fromStr vars y.map
  pure ⟨map⟩

mutual

/-- Templating a value is the traversal of its string leaves by `template_yaml_value_string`. -/
theorem templateWith_eq_traverseStrings : ∀ v : JsonValue,
    JsonValue.templateWith printer fromStr vars v =
      JsonValue.traverseStrings (templateYamlValueString printer (jsonValues fromStr) vars) v
  | .null | .bool _ | .number _ | .string _ => rfl
  | .array vs => by
    rw [JsonValue.templateWith, JsonValue.traverseStrings,
      templateWithList_eq_traverseStringsList vs]
  | .object members => by
    rw [JsonValue.templateWith, JsonValue.traverseStrings,
      templateWithMembers_eq_traverseStringsMembers members]

theorem templateWithList_eq_traverseStringsList : ∀ vs : List JsonValue,
    JsonValue.templateWithList printer fromStr vars vs =
      JsonValue.traverseStringsList (templateYamlValueString printer (jsonValues fromStr) vars) vs
  | [] => rfl
  | v :: vs => by
    rw [JsonValue.templateWithList, JsonValue.traverseStringsList,
      templateWith_eq_traverseStrings v, templateWithList_eq_traverseStringsList vs]

theorem templateWithMembers_eq_traverseStringsMembers : ∀ members : List (List Char × JsonValue),
    JsonValue.templateWithMembers printer fromStr vars members =
      JsonValue.traverseStringsMembers (templateYamlValueString printer (jsonValues fromStr) vars)
        members
  | [] => rfl
  | (k, v) :: members => by
    rw [JsonValue.templateWithMembers, JsonValue.traverseStringsMembers,
      templateWith_eq_traverseStrings v, templateWithMembers_eq_traverseStringsMembers members]

end

/-- Templating a value fails with the error of the first of its strings, in order, that fails. -/
theorem error?_templateWith (v : JsonValue) :
    (JsonValue.templateWith printer fromStr vars v).error? =
      v.strings.findSome? fun s =>
        (templateYamlValueString printer (jsonValues fromStr) vars s).error? := by
  rw [templateWith_eq_traverseStrings]
  exact JsonValue.error?_traverseStrings _ v

/-- Templating a value succeeds exactly when each of its strings templates, and gives the value
with each string replaced by its template: keys, arrays and the other scalars are kept. -/
theorem templateWith_eq_ok_iff {v w : JsonValue} :
    JsonValue.templateWith printer fromStr vars v = .ok w ↔
      ∃ f : List Char → JsonValue,
        (∀ s ∈ v.strings, templateYamlValueString printer (jsonValues fromStr) vars s = .ok (f s)) ∧
          w = v.replaceStrings f := by
  rw [templateWith_eq_traverseStrings]
  exact JsonValue.traverseStrings_eq_ok_iff

/-- A value none of whose strings holds a placeholder is its own template, whatever the
variables. -/
theorem templateWith_of_templateCaptures_eq_nil {v : JsonValue}
    (h : ∀ s ∈ v.strings, templateCaptures s = []) :
    JsonValue.templateWith printer fromStr vars v = .ok v := by
  have hleaves : ∀ s ∈ v.strings,
      templateYamlValueString printer (jsonValues fromStr) vars s = .ok (JsonValue.string s) :=
    fun s hs => templateYamlValueString_of_templateCaptures_eq_nil printer _ vars (h s hs)
  rw [templateWith_eq_traverseStrings, JsonValue.traverseStrings_of_forall v hleaves,
    JsonValue.replaceStrings_string]

end Json

/-- Printing of values where no variable holds one. -/
def noJsonPrinter : YamlPrinter JsonValue := ⟨fun _ => [], fun _ => []⟩

/-- Parsing of a boolean or a number where no variable holds one. -/
def nullFromStr (_ : List Char) : Except (List Char) JsonValue := .ok .null

/-- Values with a name, a port and tags, one of which has a dollar sign but no placeholder. -/
def plainValues : JsonValue :=
  .object [("name".toList, .string "agent".toList), ("port".toList, .number "8080".toList),
    ("tags".toList, .array [.string "a$b".toList, .bool true, .null])]

theorem templateWith_of_templateCaptures_eq_nil_at_plainValues :
    (∀ s ∈ plainValues.strings, templateCaptures s = []) ∧
      JsonValue.templateWith noJsonPrinter nullFromStr ∅ plainValues = .ok plainValues :=
  ⟨by decide, templateWith_of_templateCaptures_eq_nil _ _ _ (by decide)⟩

/-- A configuration that holds the plain values under `agent`. -/
def plainConfig : YAMLConfig JsonValue := ⟨(∅ : AList _).insert "agent".toList plainValues⟩

/-! ### Kubernetes objects -/

/-- Models `K8sObjectMeta`. -/
structure K8sObjectMeta where
  labels : AList fun _ : List Char => List Char
  name : List Char
  «namespace» : List Char

/-- Models `K8sObject`: `fields` are the other top-level members, such as `spec`. -/
structure K8sObject where
  apiVersion : List Char
  kind : List Char
  metadata : K8sObjectMeta
  fields : List (List Char × JsonValue)

/-- Models `K8sHealthConfig`, its durations in nanoseconds. -/
structure K8sHealthConfig where
  interval : Nat
  initialDelay : Nat
  checks : List K8sHealthCheckDefinition

/-- Models `K8s`, by the objects it manages and its health checks. -/
structure K8s where
  objects : AList fun _ : List Char => K8sObject
  health : Option K8sHealthConfig

section K8sTemplate

variable (printer : YamlPrinter JsonValue) (fromStr : List Char → Except (List Char) JsonValue)
  (vars : Variables JsonValue)

/-- The closure of `K8sObjectMeta::template_with` on one label: its key, then its value. -/
def templateLabel (kv : Σ _ : List Char, List Char) :
    Except AgentTypeError (Σ _ : List Char, List Char) := do
  let k ← templateString printer vars kv.1
  let v ← templateString printer vars kv.2
  pure ⟨k, v⟩

/-- Models `Templateable for K8sObjectMeta`: the labels are collected into a new map. -/
def K8sObjectMeta.templateWith (m : K8sObjectMeta) : Except AgentTypeError K8sObjectMeta := do
  let labels ← m.labels.entries.mapM (templateLabel printer vars)
  let name ← templateString printer vars m.name
  let «namespace» ← templateString printer vars m.«namespace»
  pure ⟨(∅ : AList fun _ : List Char => List Char).extend labels, name, «namespace»⟩

/-- Models `Templateable for K8sObject`. -/
def K8sObject.templateWith (o : K8sObject) : Except AgentTypeError K8sObject := do
  let metadata ← o.metadata.templateWith printer vars
  let fields ← JsonValue.templateWithMembers printer fromStr vars o.fields
  pure ⟨o.apiVersion, o.kind, metadata, fields⟩

/-- Models `Templateable for K8sHealthCheckDefinition`: the kind is kept. -/
def K8sHealthCheckDefinition.templateWith (check : K8sHealthCheckDefinition) :
    Except AgentTypeError K8sHealthCheckDefinition := do
  let name ← templateString printer vars check.name
  let «namespace» ← templateString printer vars check.«namespace»
  let targetNamespace ← check.targetNamespace.mapM (templateString printer vars)
  pure ⟨name, «namespace», check.kind, targetNamespace⟩

/-- Models `Templateable for K8sHealthConfig`: the durations are kept. -/
def K8sHealthConfig.templateWith (health : K8sHealthConfig) : Except AgentTypeError K8sHealthConfig := do
  let checks ← health.checks.mapM (K8sHealthCheckDefinition.templateWith printer vars)
  pure ⟨health.interval, health.initialDelay, checks⟩

/-- Models `Templateable for K8s`: each object is templated under its name. -/
def K8s.templateWith (k8s : K8s) : Except AgentTypeError K8s := do
  let objects ← k8s.objects.entries.mapM fun kv => do
    let o ← kv.2.templateWith printer fromStr vars
    pure (⟨kv.1, o⟩ : Σ _ : List Char, K8sObject)
  let health ← k8s.health.mapM (K8sHealthConfig.templateWith printer vars)
  pure ⟨(∅ : AList fun _ : List Char => K8sObject).extend objects, health⟩

/-- Metadata with the one label `app: agent`. -/
def appMeta : K8sObjectMeta :=
  ⟨(∅ : AList fun _ : List Char => List Char).insert "app".toList "agent".toList, "agent".toList,
    "default".toList⟩

/-- Labels `a-${nr-var:x}` and `a-y`, with `x` set to `y`. -/
def collidingMeta : K8sObjectMeta :=
  ⟨((∅ : AList fun _ : List Char => List Char).insert "a-${nr-var:x}".toList "1".toList).insert
    "a-y".toList "2".toList, "agent".toList, "default".toList⟩

/-- The variable `x` set to `y`. -/
def collidingVars : Variables JsonValue :=
  AList.singleton "nr-var:x".toList (Variable.newFinalStringVariable "y".toList)

/-- The two labels become one. -/
example : (collidingMeta.templateWith noJsonPrinter collidingVars).map
    (fun m => m.labels.entries.length) = .ok 1 := by
  rfl

/-- An agent type that manages one object, `agent`, with the metadata above and no health
checks. -/
def agentK8s : K8s :=
  ⟨(∅ : AList fun _ : List Char => K8sObject).insert "agent".toList
    ⟨"v1".toList, "ConfigMap".toList, appMeta, [("data".toList, plainValues)]⟩, none⟩

end K8sTemplate

end AgentControl
