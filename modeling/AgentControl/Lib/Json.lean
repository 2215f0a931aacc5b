import Mathlib.Data.List.Basic
import AgentControl.Lib.Except

/-!
# JSON values

`serde_json::Value`, with an object as the list of its members in the order the map yields them
(by key, for the `BTreeMap` that backs `serde_json::Map`), and a number as the text it is written
as: nothing here computes with numbers. `Value::get` with a key reads a member of an object and
nothing of any other value; `as_str`, `as_object` and `as_array` read one kind of value.

The string leaves of a value, in the order a traversal meets them (`strings`), are what the
templating of values works on. `traverseStrings g` rebuilds a value with each string leaf
replaced by what the fallible `g` makes of it, and the map `replaceStrings f` is what it computes:

* it fails with the error of the first leaf that `g` fails on (`error?_traverseStrings`);
* it succeeds exactly when `g` succeeds on every leaf, with the value whose leaves are replaced by
  `g`'s results, and nothing else of the value changed (`traverseStrings_eq_ok_iff`).

Nothing here names the program being verified.
-/

/-- Models `serde_json::Value`. -/
inductive JsonValue where
  | null
  | bool (b : Bool)
  | number (text : List Char)
  | string (s : List Char)
  | array (vs : List JsonValue)
  | object (members : List (List Char × JsonValue))

namespace JsonValue

/-- `Map::get`: the value of a member of an object. -/
def getMember (members : List (List Char × JsonValue)) (key : List Char) : Option JsonValue :=
  (members.find? (·.1 == key)).map (·.2)

/-- `Value::get` with a key: the member of an object, and nothing for any other value. -/
def get (key : List Char) : JsonValue → Option JsonValue
  | .object members => getMember members key
  | _ => none

/-- `Value::as_str`. -/
def asStr : JsonValue → Option (List Char)
  | .string s => some s
  | _ => none

/-- `Value::as_object`. -/
def asObject : JsonValue → Option (List (List Char × JsonValue))
  | .object members => some members
  | _ => none

/-- `Value::as_array`. -/
def asArray : JsonValue → Option (List JsonValue)
  | .array vs => some vs
  | _ => none

@[simp] theorem asStr_eq_some {v : JsonValue} {s : List Char} : v.asStr = some s ↔ v = .string s := by
  cases v <;> simp [asStr]

@[simp] theorem asObject_eq_some {v : JsonValue} {m : List (List Char × JsonValue)} :
    v.asObject = some m ↔ v = .object m := by
  cases v <;> simp [asObject]

@[simp] theorem asArray_eq_some {v : JsonValue} {vs : List JsonValue} :
    v.asArray = some vs ↔ v = .array vs := by
  cases v <;> simp [asArray]

mutual

/-- The string leaves of a value, in order. -/
def strings : JsonValue → List (List Char)
  | .string s => [s]
  | .array vs => stringsList vs
  | .object members => stringsMembers members
  | _ => []

/-- The string leaves of the values of an array, in order. -/
def stringsList : List JsonValue → List (List Char)
  | [] => []
  | v :: vs => strings v ++ stringsList vs

/-- The string leaves of the members of an object, in order. -/
def stringsMembers : List (List Char × JsonValue) → List (List Char)
  | [] => []
  | (_, v) :: members => strings v ++ stringsMembers members

end

mutual

/-- The value with each string leaf replaced by its image under `f`. -/
def replaceStrings (f : List Char → JsonValue) : JsonValue → JsonValue
  | .string s => f s
  | .array vs => .array (replaceStringsList f vs)
  | .object members => .object (replaceStringsMembers f members)
  | v => v

/-- `replaceStrings` on each value of an array. -/
def replaceStringsList (f : List Char → JsonValue) : List JsonValue → List JsonValue
  | [] => []
  | v :: vs => replaceStrings f v :: replaceStringsList f vs

/-- `replaceStrings` on the value of each member of an object. -/
def replaceStringsMembers (f : List Char → JsonValue) :
    List (List Char × JsonValue) → List (List Char × JsonValue)
  | [] => []
  | (key, v) :: members => (key, replaceStrings f v) :: replaceStringsMembers f members

end

mutual

/-- Replacing each string by itself changes nothing. -/
theorem replaceStrings_string : ∀ v : JsonValue, v.replaceStrings .string = v
  | .null | .bool _ | .number _ | .string _ => rfl
  | .array vs => by rw [replaceStrings, replaceStringsList_string vs]
  | .object members => by rw [replaceStrings, replaceStringsMembers_string members]

theorem replaceStringsList_string : ∀ vs : List JsonValue, replaceStringsList .string vs = vs
  | [] => rfl
  | v :: vs => by rw [replaceStringsList, replaceStrings_string v, replaceStringsList_string vs]

theorem replaceStringsMembers_string :
    ∀ members : List (List Char × JsonValue), replaceStringsMembers .string members = members
  | [] => rfl
  | (key, v) :: members => by
    rw [replaceStringsMembers, replaceStrings_string v, replaceStringsMembers_string members]

end

section Traverse

variable {ε : Type} (g : List Char → Except ε JsonValue)

mutual

/-- The value with each string leaf replaced by what `g` makes of it, the leaves taken in order
and the first failure returned. -/
def traverseStrings : JsonValue → Except ε JsonValue
  | .string s => g s
  | .array vs => .array <$> traverseStringsList vs
  | .object members => .object <$> traverseStringsMembers members
  | v => pure v

/-- `traverseStrings` on each value of an array in turn. -/
def traverseStringsList : List JsonValue → Except ε (List JsonValue)
  | [] => pure []
  | v :: vs => do
    let w ← traverseStrings v
    let ws ← traverseStringsList vs
    pure (w :: ws)

/-- `traverseStrings` on the value of each member of an object in turn. -/
def traverseStringsMembers : List (List Char × JsonValue) → Except ε (List (List Char × JsonValue))
  | [] => pure []
  | (key, v) :: members => do
    let w ← traverseStrings v
    let ws ← traverseStringsMembers members
    pure ((key, w) :: ws)

end

mutual

/-- A traversal fails with the error of the first string leaf `g` fails on. -/
theorem error?_traverseStrings : ∀ v : JsonValue,
    (traverseStrings g v).error? = v.strings.findSome? fun s => (g s).error?
  | .null | .bool _ | .number _ => rfl
  | .string s => by rw [traverseStrings, strings, List.findSome?_singleton]
  | .array vs => by rw [traverseStrings, Except.error?_map, error?_traverseStringsList vs, strings]
  | .object members => by
    rw [traverseStrings, Except.error?_map, error?_traverseStringsMembers members, strings]

theorem error?_traverseStringsList : ∀ vs : List JsonValue,
    (traverseStringsList g vs).error? = (stringsList vs).findSome? fun s => (g s).error?
  | [] => rfl
  | v :: vs => by
    rw [traverseStringsList, Except.error?_seq, error?_traverseStrings v,
      error?_traverseStringsList vs, stringsList, List.findSome?_append]

theorem error?_traverseStringsMembers : ∀ members : List (List Char × JsonValue),
    (traverseStringsMembers g members).error? =
      (stringsMembers members).findSome? fun s => (g s).error?
  | [] => rfl
  | (key, v) :: members => by
    rw [traverseStringsMembers, Except.error?_seq, error?_traverseStrings v,
      error?_traverseStringsMembers members, stringsMembers, List.findSome?_append]

end

variable {g}

mutual

/-- Where `g` succeeds on every string leaf, a traversal replaces each leaf by `g`'s result. -/
theorem traverseStrings_of_forall {f : List Char → JsonValue} : ∀ v : JsonValue,
    (∀ s ∈ v.strings, g s = .ok (f s)) → traverseStrings g v = .ok (v.replaceStrings f)
  | .null, _ | .bool _, _ | .number _, _ => rfl
  | .string s, h => by
    rw [traverseStrings, replaceStrings]
    exact h s (by simp [strings])
  | .array vs, h => by
    rw [strings] at h
    rw [traverseStrings, traverseStringsList_of_forall vs h, replaceStrings]
    rfl
  | .object members, h => by
    rw [strings] at h
    rw [traverseStrings, traverseStringsMembers_of_forall members h, replaceStrings]
    rfl

theorem traverseStringsList_of_forall {f : List Char → JsonValue} : ∀ vs : List JsonValue,
    (∀ s ∈ stringsList vs, g s = .ok (f s)) →
      traverseStringsList g vs = .ok (replaceStringsList f vs)
  | [], _ => rfl
  | v :: vs, h => by
    rw [stringsList] at h
    rw [traverseStringsList,
      traverseStrings_of_forall v fun s hs => h s (List.mem_append_left _ hs),
      traverseStringsList_of_forall vs fun s hs => h s (List.mem_append_right _ hs)]
    rfl

theorem traverseStringsMembers_of_forall {f : List Char → JsonValue} :
    ∀ members : List (List Char × JsonValue),
      (∀ s ∈ stringsMembers members, g s = .ok (f s)) →
        traverseStringsMembers g members = .ok (replaceStringsMembers f members)
  | [], _ => rfl
  | (key, v) :: members, h => by
    rw [stringsMembers] at h
    rw [traverseStringsMembers,
      traverseStrings_of_forall v fun s hs => h s (List.mem_append_left _ hs),
      traverseStringsMembers_of_forall members fun s hs => h s (List.mem_append_right _ hs)]
    rfl

end

/-- A traversal succeeds exactly when `g` succeeds on every string leaf, and then its value is
the value with each leaf replaced by `g`'s result. -/
theorem traverseStrings_eq_ok_iff {v w : JsonValue} :
    traverseStrings g v = .ok w ↔
      ∃ f : List Char → JsonValue, (∀ s ∈ v.strings, g s = .ok (f s)) ∧ w = v.replaceStrings f := by
  constructor
  · intro h
    -- no leaf failed, so each has a result to replace it with
    have hnone : (v.strings.findSome? fun s => (g s).error?) = none := by
      rw [← error?_traverseStrings, h, Except.error?_ok]
    have hleaves : ∀ s ∈ v.strings, g s = .ok (((g s).toOption).getD .null) := by
      intro s hs
      obtain ⟨t, ht⟩ := Except.error?_eq_none.mp (List.findSome?_eq_none_iff.mp hnone s hs)
      rw [ht]
      rfl
    refine ⟨fun s => ((g s).toOption).getD .null, hleaves, ?_⟩
    rw [traverseStrings_of_forall v hleaves] at h
    exact (Except.ok.inj h).symm
  · rintro ⟨f, hf, rfl⟩
    exact traverseStrings_of_forall v hf

end Traverse

end JsonValue
