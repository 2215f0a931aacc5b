import AgentControl.Filesystem.SafePath
import AgentControl.Lib.EState
import Mathlib.Data.List.Sort

/-!
# Writing a rendered filesystem tree

`rendered::FileSystem` is a sub-agent's filesystem tree after templating: a base
directory and entries at absolute paths, whose children are keyed by the
`SafePath`s they were declared with. `FileSystem::write` reconciles the disk
against it in three phases:

1. it reads the manifest `<base_dir>/.ac-managed-paths.json` (which the agent can
   rewrite), keeps the entries `is_within_base` accepts and that are not the
   manifest itself, and deletes those no longer declared, deepest first, only
   warning when a deletion fails;
2. it writes the tree, stopping at the first failed directory or file write;
3. it saves the declared paths as the new manifest, only warning on failure.

`delete_ephemeral` removes the non-persistent entries when the sub-agent stops.

The disk is modelled by the paths that exist and the content the manifest loads
as; every operation is logged in `FsState.log`, in order, whether it succeeded or
not, and what the environment answers to each is an `FsOutcomes`. The run is an
`EStateM` computation, so a failed step keeps the state it reached, as the disk
does.
-/

namespace AgentControl.Rendered

open PathBuf PathBuf.Component EStateM

/-- Models `rendered::RenderedEntry`: the children of a directory are keyed by the `SafePath`s
`template_with` builds them from. -/
inductive RenderedEntry where
  | file (content : List Char) (persistent : Bool)
  | dir (children : List (SafePath × RenderedEntry)) (persistent : Bool)
  | dirContentFromMap (files : List (SafePath × List Char))

/-- Models `rendered::FileSystem`. -/
structure FileSystem where
  baseDir : PathBuf
  entries : List (PathBuf × RenderedEntry)

/-- Models `FileSystemEntriesError`, by its message. -/
structure FileSystemEntriesError where
  message : List Char
  deriving DecidableEq, Repr

namespace RenderedEntry

/-- Models `RenderedEntry::persistent`: a projected directory is always ephemeral. -/
def persistent : RenderedEntry → Bool
  | .file _ persistent => persistent
  | .dir _ persistent => persistent
  | .dirContentFromMap _ => false

mutual

/-- Models `RenderedEntry::collect_declared`: the entry's path and all its descendants'. -/
def collectDeclared : RenderedEntry → PathBuf → List PathBuf
  | .file .., path => [path]
  | .dir children _, path => path :: collectDeclaredChildren children path
  | .dirContentFromMap files, path => path :: files.map fun f => path.join f.1.path

/-- The loop of `collect_declared` over a directory's children. -/
def collectDeclaredChildren : List (SafePath × RenderedEntry) → PathBuf → List PathBuf
  | [], _ => []
  | (sub, child) :: rest, path =>
    child.collectDeclared (path.join sub.path) ++ collectDeclaredChildren rest path

end

end RenderedEntry

/-! ### The disk -/

/-- The disk as `write` sees it: the paths that exist, and what loading the manifest file
yields when it exists (a malformed one loads as empty). -/
structure Disk where
  present : List PathBuf
  manifest : List PathBuf

namespace Disk

/-- Makes `p` exist. -/
def create (d : Disk) (p : PathBuf) : Disk :=
  if p ∈ d.present then d else { d with present := d.present ++ [p] }

/-- `create_dir_all`: the directory and every missing one above it. -/
def createDirAll (d : Disk) (dir : PathBuf) : Disk := dir.ancestors.foldl create d

/-- `remove_dir_all` or `remove_file`: the path and everything under it. -/
def remove (d : Disk) (p : PathBuf) : Disk :=
  { d with present := d.present.filter fun q => !q.startsWith p }

@[simp] theorem mem_create {d : Disk} {p q : PathBuf} :
    q ∈ (d.create p).present ↔ q ∈ d.present ∨ q = p := by
  unfold create
  split
  · rename_i hp
    exact ⟨Or.inl, fun h => h.elim id (· ▸ hp)⟩
  · simp

@[simp] theorem create_manifest (d : Disk) (p : PathBuf) : (d.create p).manifest = d.manifest := by
  unfold create
  split <;> rfl

theorem mem_foldl_create {q : PathBuf} : ∀ {d : Disk} {ps : List PathBuf},
    q ∈ (ps.foldl create d).present ↔ q ∈ d.present ∨ q ∈ ps
  | _, [] => by simp
  | d, p :: ps => by
    rw [List.foldl_cons, mem_foldl_create, mem_create, List.mem_cons]
    tauto

@[simp] theorem mem_createDirAll {d : Disk} {dir q : PathBuf} :
    q ∈ (d.createDirAll dir).present ↔ q ∈ d.present ∨ q ∈ dir.ancestors :=
  mem_foldl_create

@[simp] theorem mem_remove {d : Disk} {p q : PathBuf} :
    q ∈ (d.remove p).present ↔ q ∈ d.present ∧ ¬ p.components <+: q.components := by
  simp [remove, ← startsWith_iff]

@[simp] theorem remove_manifest (d : Disk) (p : PathBuf) : (d.remove p).manifest = d.manifest :=
  rfl

end Disk

/-- An operation `write` or `delete_ephemeral` attempts on the disk. -/
inductive FsOp where
  | createDir (path : PathBuf)
  | writeFile (path : PathBuf) (content : List Char)
  | deletePath (path : PathBuf)
  | saveManifest (path : PathBuf) (managedPaths : List PathBuf)
  deriving DecidableEq

namespace FsOp

/-- The path an operation is given. -/
def path : FsOp → PathBuf
  | createDir p | writeFile p _ | deletePath p | saveManifest p _ => p

/-- What an operation does to the disk when it succeeds. `ManagedPathsManifest::save` creates
the manifest's directory and then writes it. -/
def apply : FsOp → Disk → Disk
  | createDir p, d => d.createDirAll p
  | writeFile p _, d => d.create p
  | deletePath p, d => d.remove p
  | saveManifest p managedPaths, d =>
    { (match p.parent with
        | some parent => d.createDirAll parent
        | none => d).create p with manifest := managedPaths }

/-- The paths an operation can make exist. -/
def makes : FsOp → List PathBuf
  | createDir p => p.ancestors
  | writeFile p _ => [p]
  | deletePath _ => []
  | saveManifest p _ => ((p.parent.map ancestors).getD []) ++ [p]

/-- A path an operation makes exist was there already or is one of those it can make. -/
theorem mem_apply_present {op : FsOp} {d : Disk} {q : PathBuf} (h : q ∈ (op.apply d).present) :
    q ∈ d.present ∨ q ∈ op.makes := by
  cases op with
  | createDir p => simpa [apply, makes] using h
  | writeFile p c => simpa [apply, makes] using h
  | deletePath p => exact Or.inl (Disk.mem_remove.mp h).1
  | saveManifest p m =>
    simp only [apply, Disk.mem_create, makes, List.mem_append, List.mem_singleton] at h ⊢
    cases hp : p.parent with
    | none => simpa [hp] using h
    | some parent =>
      simp only [hp, Disk.mem_createDirAll, Option.map_some, Option.getD_some] at h ⊢
      tauto

end FsOp

/-- What the environment answers to each operation: `DirectoryManager::create`,
`FileWriter::write`, the removal in `delete_path`, and `ManagedPathsManifest::save`. -/
structure FsOutcomes where
  createDir : PathBuf → Except (List Char) Unit
  writeFile : PathBuf → List Char → Except (List Char) Unit
  deletePath : PathBuf → Except (List Char) Unit
  saveManifest : PathBuf → List PathBuf → Except (List Char) Unit

/-- The disk, and every operation attempted on it so far. -/
structure FsState where
  disk : Disk
  log : List FsOp

/-- A step of a write: it may fail with the error of `write`, keeping the state reached. -/
abbrev FsM := EStateM FileSystemEntriesError FsState

/-- Attempts `op`: it is logged, and when the environment lets it succeed it changes the disk. -/
def attempt (op : FsOp) (outcome : Except (List Char) Unit) : EStateM (List Char) FsState Unit :=
  fun s =>
    match outcome with
    | .ok () => .ok () ⟨op.apply s.disk, s.log ++ [op]⟩
    | .error err => .error err ⟨s.disk, s.log ++ [op]⟩

/-- Models `Path::exists`. -/
def pathExists (p : PathBuf) : FsM Bool := fun s => .ok (decide (p ∈ s.disk.present)) s

section Write

variable (o : FsOutcomes)

/-- Models `ensure_dir`. -/
def ensureDir (dir : PathBuf) : FsM Unit :=
  (attempt (.createDir dir) (o.createDir dir)).adaptExcept fun err =>
    ⟨"creating directory ".toList ++ dir.debug ++ ": ".toList ++ err⟩

/-- Models `write_file`: the parent directory is made first. -/
def writeFile (path : PathBuf) (content : List Char) : FsM Unit := do
  let some parent := path.parent | throw ⟨path.display ++ " has no parent dir".toList⟩
  ensureDir o parent
  (attempt (.writeFile path content) (o.writeFile path content)).adaptExcept fun err =>
    ⟨"creating file ".toList ++ path.debug ++ ": ".toList ++ err⟩

/-- Models `delete_path`. -/
def deletePath (path : PathBuf) : FsM Unit :=
  (attempt (.deletePath path) (o.deletePath path)).adaptExcept fun err =>
    ⟨"deleting ".toList ++ path.display ++ ": ".toList ++ err⟩

/-- The loop of `RenderedEntry::write` over a projected directory's files. -/
def writeFiles : List (SafePath × List Char) → PathBuf → FsM Unit
  | [], _ => pure ()
  | (name, content) :: rest, path => do
    writeFile o (path.join name.path) content
    writeFiles rest path

mutual

/-- Models `RenderedEntry::write`. -/
def RenderedEntry.write : RenderedEntry → PathBuf → FsM Unit
  | .file content _, path => writeFile o path content
  | .dir children _, path => do
    ensureDir o path
    RenderedEntry.writeChildren children path
  | .dirContentFromMap files, path => do
    ensureDir o path
    writeFiles o files path

/-- The loop of `RenderedEntry::write` over a directory's children. -/
def RenderedEntry.writeChildren : List (SafePath × RenderedEntry) → PathBuf → FsM Unit
  | [], _ => pure ()
  | (sub, child) :: rest, path => do
    child.write (path.join sub.path)
    RenderedEntry.writeChildren rest path

end

/-- The ephemeral branch of `RenderedEntry::delete_ephemeral`. -/
def deleteIfExists (path : PathBuf) : FsM Unit := do
  if ← pathExists path then deletePath o path

mutual

/-- Models `RenderedEntry::delete_ephemeral`: an ephemeral entry goes with everything under it;
a persistent directory stays, and its children are visited. -/
def RenderedEntry.deleteEphemeral : RenderedEntry → PathBuf → FsM Unit
  | .file _ persistent, path => if !persistent then deleteIfExists o path else pure ()
  | .dir children persistent, path =>
    if !persistent then deleteIfExists o path
    else RenderedEntry.deleteEphemeralChildren children path
  | .dirContentFromMap _, path => deleteIfExists o path

/-- The loop of `delete_ephemeral` over a persistent directory's children. -/
def RenderedEntry.deleteEphemeralChildren : List (SafePath × RenderedEntry) → PathBuf → FsM Unit
  | [], _ => pure ()
  | (sub, child) :: rest, path => do
    child.deleteEphemeral (path.join sub.path)
    RenderedEntry.deleteEphemeralChildren rest path

end

end Write

/-! ### The manifest and the whole tree -/

/-- Models `is_within_base`. -/
def isWithinBase (path baseDir : PathBuf) : Bool :=
  let hasEscape := path.components.any (· == parentDir)
  !hasEscape && path.isAbsolute && path.startsWith baseDir

/-- Models `ManagedPathsManifest::load`: a missing file loads as empty. -/
def load (path : PathBuf) (d : Disk) : List PathBuf :=
  if path ∈ d.present then d.manifest else []

namespace FileSystem

/-- Models `FileSystem::manifest_path`. -/
def manifestPath (fs : FileSystem) : PathBuf :=
  fs.baseDir.join (ofName managedPathsManifestFilename managedPathsManifestFilename_isName)

/-- Models `FileSystem::collect_declared_paths`. -/
def collectDeclaredPaths (fs : FileSystem) : List PathBuf :=
  fs.entries.flatMap fun entry => entry.2.collectDeclared entry.1

/-- Models `FileSystem::read_manifest`: the manifest never marks itself, and only what
`is_within_base` accepts is kept. -/
def readManifest (fs : FileSystem) (d : Disk) : List PathBuf :=
  (load fs.manifestPath d).filter fun p =>
    if p = fs.manifestPath then false else isWithinBase p fs.baseDir

/-- The paths to delete: previously managed, no longer declared, deepest first. The stable
`sort_by_key` is an insertion sort, as every stable sort on one key gives the same order. -/
def stalePaths (prevDeclared currDeclared : List PathBuf) : List PathBuf :=
  (prevDeclared.filter (· ∉ currDeclared)).insertionSort fun a b => b.depth ≤ a.depth

theorem mem_stalePaths {prev curr : List PathBuf} {q : PathBuf} :
    q ∈ stalePaths prev curr ↔ q ∈ prev ∧ q ∉ curr := by
  simp [stalePaths, List.mem_insertionSort]

section Write

variable (o : FsOutcomes)

/-- The stale loop of `FileSystem::write`: a failed deletion is only warned about, so its error
is dropped. -/
def deleteStale : List PathBuf → FsM Unit
  | [] => pure ()
  | path :: rest => do
    if ← pathExists path then discardError (deletePath o path)
    deleteStale rest

/-- The entries loop of `FileSystem::write`, stopping at the first error. -/
def writeEntries : List (PathBuf × RenderedEntry) → FsM Unit
  | [] => pure ()
  | (path, entry) :: rest => do
    entry.write o path
    writeEntries rest

/-- The loop of `FileSystem::delete_ephemeral`. -/
def deleteEphemeralEntries : List (PathBuf × RenderedEntry) → FsM Unit
  | [] => pure ()
  | (path, entry) :: rest => do
    entry.deleteEphemeral o path
    deleteEphemeralEntries rest

/-- Models `FileSystem::write`. A failed save of the manifest is only warned about. -/
def write (fs : FileSystem) : FsM Unit := do
  let manifestPath := fs.manifestPath
  let prevDeclared := fs.readManifest (← get).disk
  let currDeclared := fs.collectDeclaredPaths
  deleteStale o (stalePaths prevDeclared currDeclared)
  writeEntries o fs.entries
  discardError (attempt (.saveManifest manifestPath currDeclared)
    (o.saveManifest manifestPath currDeclared))

/-- Models `FileSystem::delete_ephemeral`. -/
def deleteEphemeral (fs : FileSystem) : FsM Unit := deleteEphemeralEntries o fs.entries

end Write

end FileSystem

end AgentControl.Rendered
