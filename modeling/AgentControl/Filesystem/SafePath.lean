import AgentControl.Lib.Except
import AgentControl.Lib.Path

/-!
# Keys of a filesystem definition

Every key of an on-host `filesystem:` definition, at every level and also every
key of a map projected into a directory, deserializes through `SafePath`, which
runs `validate_file_entry_path`: the key must be relative, must not escape its
base, must be a single `Normal` segment and must not be the manifest's reserved
name. The checks run independently and their messages are joined.

`SafePath` carries the check's success, so a key that has not passed it cannot
be built; `SafePath.eq_normal` reads off what that means for its components.
-/

namespace AgentControl

open PathBuf PathBuf.Component

/-- Models `MANAGED_PATHS_MANIFEST_FILENAME`. -/
def managedPathsManifestFilename : List Char := ".ac-managed-paths.json".toList

theorem managedPathsManifestFilename_isName : IsName managedPathsManifestFilename := by decide

/-- The error of a check, if it failed. -/
def errorsOf : Except (List Char) Unit → List (List Char)
  | .error e => [e]
  | .ok () => []

/-- Models `check_basedir_escape_safety`: the first `..` or root is reported. -/
def checkBasedirEscapeSafety (path : PathBuf) : Except (List Char) Unit :=
  path.components.forM fun comp =>
    match comp with
    | normal _ | curDir => .ok ()
    | _ => .error ("path `".toList ++ path.display ++ "` has an invalid component: `".toList ++
        comp.text ++ "`".toList)

/-- Models `check_single_segment`. -/
def checkSingleSegment (path : PathBuf) : Except (List Char) Unit :=
  match path.components with
  | [normal _] => .ok ()
  | _ => .error ("path `".toList ++ path.display ++
      ("` must be a single path segment (a leaf); declare nested directories " ++
        "explicitly with `kind: dir` and `entries:`").toList)

/-- Models `check_not_reserved`. -/
def checkNotReserved (path : PathBuf) : Except (List Char) Unit :=
  if normal managedPathsManifestFilename ∈ path.components then
    .error ("path `".toList ++ path.display ++ "` uses the reserved filename `".toList ++
      managedPathsManifestFilename ++ "`".toList)
  else .ok ()

/-- Models `validate_file_entry_path`: every failed check is reported, joined by commas. -/
def validateFileEntryPath (path : PathBuf) : Except (List Char) Unit :=
  let errors := (if path.isAbsolute then ["path `".toList ++ path.display ++ "` is not relative".toList]
      else []) ++
    errorsOf (checkBasedirEscapeSafety path) ++ errorsOf (checkSingleSegment path) ++
    errorsOf (checkNotReserved path)
  if errors.isEmpty then .ok () else .error (List.intercalate ", ".toList errors)

/-- Models `SafePath`: a path that passed `validate_file_entry_path`. -/
structure SafePath where
  path : PathBuf
  valid : validateFileEntryPath path = .ok ()

/-- Models `SafePath::try_from(PathBuf)`. -/
def SafePath.tryFrom (path : PathBuf) : Except (List Char) SafePath :=
  match h : validateFileEntryPath path with
  | .ok () => .ok ⟨path, h⟩
  | .error e => .error e

theorem errorsOf_eq_nil {x : Except (List Char) Unit} : errorsOf x = [] ↔ x = .ok () := by
  cases x with
  | error e => simp [errorsOf]
  | ok u => simp [errorsOf]

/-- The checks are independent: the path is valid exactly when each passes. -/
theorem validateFileEntryPath_eq_ok_iff {path : PathBuf} :
    validateFileEntryPath path = .ok () ↔ path.isAbsolute = false ∧
      checkBasedirEscapeSafety path = .ok () ∧ checkSingleSegment path = .ok () ∧
      checkNotReserved path = .ok () := by
  unfold validateFileEntryPath
  cases ha : path.isAbsolute <;>
    simp [List.isEmpty_iff, errorsOf_eq_nil, apply_ite (· = Except.ok ())]

/-- A valid key is one name, and not the manifest's. -/
theorem validateFileEntryPath_eq_ok {path : PathBuf} (h : validateFileEntryPath path = .ok ()) :
    ∃ n, path.components = [normal n] ∧ n ≠ managedPathsManifestFilename := by
  obtain ⟨-, -, hsingle, hreserved⟩ := validateFileEntryPath_eq_ok_iff.mp h
  unfold checkSingleSegment at hsingle
  split at hsingle
  · rename_i n hn
    refine ⟨n, hn, fun hm => ?_⟩
    unfold checkNotReserved at hreserved
    rw [if_pos (by rw [hn, hm]; exact List.mem_singleton_self _)] at hreserved
    cases hreserved
  · cases hsingle

namespace SafePath

theorem eq_normal (s : SafePath) :
    ∃ n, s.path.components = [normal n] ∧ n ≠ managedPathsManifestFilename :=
  validateFileEntryPath_eq_ok s.valid

/-- The one name of a key is a `Normal` component's. -/
theorem isName (s : SafePath) : ∃ n, s.path.components = [normal n] ∧ IsName n := by
  obtain ⟨n, hn, -⟩ := s.eq_normal
  have hnorm := s.path.normalized
  rw [hn] at hnorm
  exact ⟨n, hn, hnorm (normal n) List.mem_cons_self⟩

/-- Joining a key appends its one name. -/
theorem join_components (p : PathBuf) (s : SafePath) :
    ∃ n, (p.join s.path).components = p.components ++ [normal n] ∧ IsName n ∧
      n ≠ managedPathsManifestFilename := by
  obtain ⟨n, hn, hname⟩ := s.isName
  obtain ⟨m, hm, hreserved⟩ := s.eq_normal
  rw [hn, List.cons.injEq, normal.injEq] at hm
  exact ⟨n, join_components_of_eq_normal hn, hname, hm.1 ▸ hreserved⟩

/-- A path joined with a key is the key's parent. -/
theorem parent_join (p : PathBuf) (s : SafePath) : (p.join s.path).parent = some p := by
  obtain ⟨n, hn, -⟩ := s.isName
  exact parent_join_of_eq_normal hn

end SafePath

example : (SafePath.tryFrom (parse "config.yaml".toList)).toBool = true := by decide

example : validateFileEntryPath (parse "../x".toList) =
    .error ("path `../x` has an invalid component: `..`, path `../x` must be a single path " ++
      "segment (a leaf); declare nested directories explicitly with `kind: dir` and `entries:`").toList := by
  decide +kernel

end AgentControl
