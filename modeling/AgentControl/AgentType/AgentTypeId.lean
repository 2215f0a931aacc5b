import AgentControl.Lib.Except
import AgentControl.Lib.Text

/-!
# Agent type identities

An agent type is identified by its namespace, its name and its version
(`agent_type/agent_type_id.rs`), written as the fully qualified name
`<namespace>/<name>:<version>`. `from_parts` validates the three parts: namespace and name are
short, start with a letter, end with a letter or a digit and hold only lowercase letters,
digits, `.` and `_`; the version is a plain semantic version of digits and dots.

The `semver` crate is a parameter: its parser and its `Display`. The one thing the round trip
needs of it is that `Display` gives back the text a plain version was parsed from
(`Semver.DisplaysParsed`).

The encoding round-trips (`agentTypeID_roundtrip`): an identity that `from_parts` builds is
read back from its fully qualified name, and a name that `try_from` reads is the fully
qualified name of what it read. It rests on the validated parts holding neither `/` nor `:`
(`not_mem_of_validateFormat`), so that the first `/` and the first `:` of a fully qualified
name are the separators.
-/

namespace AgentControl

/-- `NAME_NAMESPACE_MAX_LENGTH`. -/
def nameNamespaceMaxLength : Nat := 64

/-- `VERSION_MAX_LENGTH`. -/
def versionMaxLength : Nat := 14

/-- Models `NameFormatError`. -/
inductive NameFormatError where
  | empty
  | tooLong (length max : Nat)
  | invalidStart
  | invalidEnd
  | invalidCharacter (c : Char)
  deriving DecidableEq, Repr

/-- Models `AgentTypeIDError`; a `semver` error by its message. -/
inductive AgentTypeIDError where
  | invalidNamespace (e : NameFormatError)
  | invalidName (e : NameFormatError)
  | invalidVersion (message : List Char)
  | forbiddenSemVer
  | versionTooLong (length max : Nat)
  deriving DecidableEq, Repr

/-- The `semver` crate as agent type identities use it: `Version::parse` and `Display`. -/
structure Semver (V : Type) where
  parse : List Char → Except (List Char) V
  display : V → List Char

/-- What the round trip assumes of `semver`: `Display` gives back the text of digits and dots
that a version was parsed from. -/
def Semver.DisplaysParsed {V : Type} (semver : Semver V) : Prop :=
  ∀ s v, (∀ c ∈ s, c.isDigit ∨ c = '.') → semver.parse s = .ok v → semver.display v = s

/-- Models `AgentTypeID`; `nameSpace` is its field `namespace`. -/
structure AgentTypeID (V : Type) where
  name : List Char
  nameSpace : List Char
  version : V
  deriving DecidableEq, Repr

namespace AgentTypeID

variable {V : Type} (semver : Semver V)

/-- Models `parse_version`. -/
def parseVersion (s : List Char) : Except AgentTypeIDError V :=
  if !s.all fun c => c.isDigit || c == '.' then .error .forbiddenSemVer
  else if Text.utf8Len s > versionMaxLength then
    .error (.versionTooLong (Text.utf8Len s) versionMaxLength)
  else (semver.parse s).mapError .invalidVersion

/-- Models `validate_format`. -/
def validateFormat (s : List Char) : Except NameFormatError Unit :=
  if s.isEmpty then .error .empty
  else if Text.utf8Len s > nameNamespaceMaxLength then
    .error (.tooLong (Text.utf8Len s) nameNamespaceMaxLength)
  else if !(s.head?.any Char.isAlpha) then .error .invalidStart
  else if !(s.getLast?.any Char.isAlphanum) then .error .invalidEnd
  else
    match s.find? fun c => !(c == '_' || c == '.' || c.isDigit || c.isLower) with
    | some invalid => .error (.invalidCharacter invalid)
    | none => .ok ()

/-- Models `from_parts`. -/
def fromParts (name nameSpace version : List Char) : Except AgentTypeIDError (AgentTypeID V) := do
  (validateFormat nameSpace).mapError .invalidNamespace
  (validateFormat name).mapError .invalidName
  let version ← parseVersion semver version
  return ⟨name, nameSpace, version⟩

/-- Models `Display`: the fully qualified name. -/
def toString (id : AgentTypeID V) : List Char :=
  id.nameSpace ++ '/' :: (id.name ++ ':' :: semver.display id.version)

/-- Models `TryFrom<&str>`: split at the first `/`, then at the first `:`; a missing separator
gives empty parts (`unwrap_or_default`). -/
def tryFrom (value : List Char) : Except AgentTypeIDError (AgentTypeID V) :=
  let parts := (Text.splitOnce '/' value).getD ([], [])
  let rest := (Text.splitOnce ':' parts.2).getD ([], [])
  fromParts semver rest.1 parts.1 rest.2

/-- A valid namespace or name: not empty, and of the allowed characters only. -/
theorem validateFormat_eq_ok {s : List Char} (h : validateFormat s = .ok ()) :
    s ≠ [] ∧ ∀ c ∈ s, c = '_' ∨ c = '.' ∨ c.isDigit ∨ c.isLower := by
  unfold validateFormat at h
  split_ifs at h with hempty
  split at h
  · cases h
  · rename_i hfind
    refine ⟨fun hs => hempty (hs ▸ rfl), fun c hc => ?_⟩
    have hallowed := List.find?_eq_none.mp hfind c hc
    simpa [or_iff_not_imp_left] using hallowed

/-- The separators of a fully qualified name are not in a valid namespace or name. -/
theorem not_mem_of_validateFormat {s : List Char} (h : validateFormat s = .ok ()) :
    '/' ∉ s ∧ ':' ∉ s := by
  have hchars := (validateFormat_eq_ok h).2
  refine ⟨fun hc => ?_, fun hc => ?_⟩
  · rcases hchars '/' hc with h | h | h | h <;> revert h <;> decide
  · rcases hchars ':' hc with h | h | h | h <;> revert h <;> decide

/-- A version text that parses is of digits and dots, and `semver` parses it. -/
theorem parseVersion_eq_ok {s : List Char} {v : V} (h : parseVersion semver s = .ok v) :
    (∀ c ∈ s, c.isDigit ∨ c = '.') ∧ semver.parse s = .ok v := by
  unfold parseVersion at h
  split_ifs at h with hchars hlength
  rw [Bool.not_eq_true', Bool.not_eq_false] at hchars
  refine ⟨fun c hc => ?_, Except.mapError_eq_ok.mp h⟩
  have hc' := List.all_eq_true.mp hchars c hc
  simpa using hc'

/-- What `from_parts` accepts: a valid namespace and name, and a version that parses. -/
theorem fromParts_eq_ok {name nameSpace version : List Char} {id : AgentTypeID V}
    (h : fromParts semver name nameSpace version = .ok id) :
    validateFormat nameSpace = .ok () ∧ validateFormat name = .ok () ∧
      ∃ v, parseVersion semver version = .ok v ∧ id = ⟨name, nameSpace, v⟩ := by
  unfold fromParts at h
  obtain ⟨⟨⟩, hns, h⟩ := Except.bind_eq_ok.mp h
  obtain ⟨⟨⟩, hname, h⟩ := Except.bind_eq_ok.mp h
  obtain ⟨v, hv, h⟩ := Except.bind_eq_ok.mp h
  cases h
  exact ⟨Except.mapError_eq_ok.mp hns, Except.mapError_eq_ok.mp hname, v, hv, rfl⟩

/-- An identity built by `from_parts` prints its version as the text it was parsed from. -/
theorem toString_of_fromParts {name nameSpace version : List Char} {id : AgentTypeID V}
    (hlaw : semver.DisplaysParsed) (h : fromParts semver name nameSpace version = .ok id) :
    toString semver id = nameSpace ++ '/' :: (name ++ ':' :: version) := by
  obtain ⟨-, -, v, hv, rfl⟩ := fromParts_eq_ok semver h
  obtain ⟨hchars, hparse⟩ := parseVersion_eq_ok semver hv
  unfold toString
  rw [hlaw version v hchars hparse]

/-- The fully qualified name round-trips, both ways: `try_from` reads back every identity that
`from_parts` builds from its `Display`, and every name `try_from` reads is the `Display` of what
it read. -/
theorem agentTypeID_roundtrip (hlaw : semver.DisplaysParsed) :
    (∀ name nameSpace version (id : AgentTypeID V),
        fromParts semver name nameSpace version = .ok id → tryFrom semver (toString semver id) = .ok id) ∧
      ∀ (s : List Char) (id : AgentTypeID V), tryFrom semver s = .ok id → toString semver id = s := by
  refine ⟨fun name nameSpace version id h => ?_, fun s id h => ?_⟩
  · -- neither the namespace nor the name holds a separator
    obtain ⟨hns, hname, -⟩ := fromParts_eq_ok semver h
    have hslash := (not_mem_of_validateFormat hns).1
    have hcolon := (not_mem_of_validateFormat hname).2
    unfold tryFrom
    rw [toString_of_fromParts semver hlaw h]
    simp only [Text.splitOnce_append hslash, Text.splitOnce_append hcolon, Option.getD_some]
    exact h
  · unfold tryFrom at h
    -- a missing separator leaves an empty namespace or name, which `validate_format` refuses
    cases hsplit : Text.splitOnce '/' s with
    | none =>
      simp only [hsplit, Option.getD_none] at h
      have hns := (fromParts_eq_ok semver h).1
      exact absurd rfl (validateFormat_eq_ok hns).1
    | some parts =>
      cases hrest : Text.splitOnce ':' parts.2 with
      | none =>
        simp only [hsplit, hrest, Option.getD_some, Option.getD_none] at h
        have hname := (fromParts_eq_ok semver h).2.1
        exact absurd rfl (validateFormat_eq_ok hname).1
      | some rest =>
        simp only [hsplit, hrest, Option.getD_some] at h
        have hs := (Text.splitOnce_eq_some hsplit).1
        have hparts := (Text.splitOnce_eq_some hrest).1
        rw [toString_of_fromParts semver hlaw h, hs, hparts]

end AgentTypeID

/-- A `semver` that keeps the text it parses. -/
def textSemver : Semver (List Char) := ⟨.ok, id⟩

theorem textSemver_displaysParsed : textSemver.DisplaysParsed := by
  intro s v _ h
  cases h
  rfl

example : AgentTypeID.tryFrom textSemver "newrelic/nrdot:0.1.0".toList =
    .ok ⟨"nrdot".toList, "newrelic".toList, "0.1.0".toList⟩ := by decide

theorem agentTypeID_roundtrip_text :
    textSemver.DisplaysParsed ∧
      ((∀ name nameSpace version (id : AgentTypeID (List Char)),
          AgentTypeID.fromParts textSemver name nameSpace version = .ok id →
            AgentTypeID.tryFrom textSemver (AgentTypeID.toString textSemver id) = .ok id) ∧
        ∀ (s : List Char) (id : AgentTypeID (List Char)),
          AgentTypeID.tryFrom textSemver s = .ok id → AgentTypeID.toString textSemver id = s) :=
  ⟨textSemver_displaysParsed, AgentTypeID.agentTypeID_roundtrip textSemver textSemver_displaysParsed⟩

end AgentControl
