import AgentControl.Filesystem.Rendered

/-!
# What a write can do to the disk

For every function of `rendered.rs` this module says which operations it can
attempt, from any state and under any answers of the environment, failed runs
included. The statements are all of one form, `Stays (Extends good) x`: the run
of `x` only appends operations satisfying `good` to the log, and a path that
exists afterwards and did not before was made by one of them.

* writing an entry at `path` only creates directories and writes files at paths
  the entry declares, and may create the directory `path` is in
  (`write_extends`);
* `delete_ephemeral` only deletes paths the entry declares
  (`deleteEphemeral_extends`);
* `FileSystem::write` adds to these the deletion of the stale paths it computed
  from the manifest, and the save of the manifest (`FileSystem.write_extends`).

Containment and tracking are then read off these shapes.
-/

namespace AgentControl.Rendered

open PathBuf PathBuf.Component EStateM

/-- `s'` follows `s` by operations appended to the log, each satisfying `good`; every path that
exists in `s'` and not in `s` was made by one of them. -/
def Extends (good : FsOp → Prop) (s s' : FsState) : Prop :=
  ∃ new, s'.log = s.log ++ new ∧ (∀ op ∈ new, good op) ∧
    ∀ q ∈ s'.disk.present, q ∉ s.disk.present → ∃ op ∈ new, q ∈ op.makes

section Extends

variable {good good' : FsOp → Prop}

theorem Extends.refl (s : FsState) : Extends good s s :=
  ⟨[], (List.append_nil _).symm, fun _ h => absurd h List.not_mem_nil, fun _ h h' => absurd h h'⟩

theorem Extends.trans {s₁ s₂ s₃ : FsState} (h₁ : Extends good s₁ s₂) (h₂ : Extends good s₂ s₃) :
    Extends good s₁ s₃ := by
  obtain ⟨new₁, hlog₁, hgood₁, hmade₁⟩ := h₁
  obtain ⟨new₂, hlog₂, hgood₂, hmade₂⟩ := h₂
  refine ⟨new₁ ++ new₂, by rw [hlog₂, hlog₁, List.append_assoc], ?_, ?_⟩
  · intro op hop
    rcases List.mem_append.mp hop with h | h
    exacts [hgood₁ op h, hgood₂ op h]
  · intro q hq hq₁
    -- the path appeared either in the first part or in the second
    by_cases hq₂ : q ∈ s₂.disk.present
    · obtain ⟨op, hop, hm⟩ := hmade₁ q hq₂ hq₁
      exact ⟨op, List.mem_append_left _ hop, hm⟩
    · obtain ⟨op, hop, hm⟩ := hmade₂ q hq hq₂
      exact ⟨op, List.mem_append_right _ hop, hm⟩

theorem Extends.mono {s s' : FsState} (h : Extends good s s') (hg : ∀ op, good op → good' op) :
    Extends good' s s' := by
  obtain ⟨new, hlog, hgood, hmade⟩ := h
  exact ⟨new, hlog, fun op hop => hg op (hgood op hop), hmade⟩

instance : Std.Refl (Extends good) := ⟨Extends.refl⟩

instance : IsTrans FsState (Extends good) := ⟨fun _ _ _ => Extends.trans⟩

theorem Stays.extends_mono {α : Type} {x : EStateM FileSystemEntriesError FsState α}
    (h : Stays (Extends good) x) (hg : ∀ op, good op → good' op) : Stays (Extends good') x :=
  h.mono fun _ _ hs => hs.mono hg

theorem attempt_extends {op : FsOp} (hop : good op) (outcome : Except (List Char) Unit) :
    Stays (Extends good) (attempt op outcome) := by
  intro s
  have hnew : ∀ o ∈ [op], good o := fun o ho => (List.mem_singleton.mp ho) ▸ hop
  rcases outcome with err | ⟨⟨⟩⟩
  · exact ⟨[op], rfl, hnew, fun q hq hq' => absurd hq hq'⟩
  · refine ⟨[op], rfl, hnew, fun q hq hq' => ?_⟩
    exact ⟨op, List.mem_singleton_self _, (FsOp.mem_apply_present hq).resolve_left hq'⟩

theorem pathExists_extends (p : PathBuf) : Stays (Extends good) (pathExists p) :=
  fun s => Extends.refl s

end Extends

/-! ### The primitive steps -/

section Primitives

variable (o : FsOutcomes) {good : FsOp → Prop}

theorem ensureDir_extends {dir : PathBuf} (h : good (.createDir dir)) :
    Stays (Extends good) (ensureDir o dir) :=
  (attempt_extends h _).adaptExcept _

theorem deletePath_extends {path : PathBuf} (h : good (.deletePath path)) :
    Stays (Extends good) (deletePath o path) :=
  (attempt_extends h _).adaptExcept _

theorem writeFile_extends {path : PathBuf} {content : List Char}
    (hdir : ∀ parent, path.parent = some parent → good (.createDir parent))
    (hfile : good (.writeFile path content)) : Stays (Extends good) (writeFile o path content) := by
  unfold writeFile
  cases hp : path.parent with
  | none => exact Stays.throw _
  | some parent =>
    exact (ensureDir_extends o (hdir parent hp)).bind fun _ =>
      (attempt_extends hfile _).adaptExcept _

theorem deleteIfExists_extends {path : PathBuf} (h : good (.deletePath path)) :
    Stays (Extends good) (deleteIfExists o path) := by
  refine (pathExists_extends path).bind fun b => ?_
  cases b with
  | true => exact deletePath_extends o h
  | false => exact Stays.pure ()

end Primitives

/-! ### Writing and deleting an entry -/

/-- A directory created or a file written at one of the paths `decl`. -/
def Touches (decl : List PathBuf) (op : FsOp) : Prop :=
  ∃ q ∈ decl, op = .createDir q ∨ ∃ content, op = .writeFile q content

/-- An operation of writing an entry at `path` that declares `decl`: on a declared path, or the
creation of the directory `path` is in. -/
def WriteOp (decl : List PathBuf) (path : PathBuf) (op : FsOp) : Prop :=
  Touches decl op ∨ ∃ parent, path.parent = some parent ∧ op = .createDir parent

/-- The deletion of one of the paths `decl`. -/
def DeletesDeclared (decl : List PathBuf) (op : FsOp) : Prop := ∃ q ∈ decl, op = .deletePath q

theorem Touches.mono {decl decl' : List PathBuf} {op : FsOp} (h : Touches decl op)
    (hsub : decl ⊆ decl') : Touches decl' op := by
  obtain ⟨q, hq, hop⟩ := h
  exact ⟨q, hsub hq, hop⟩

theorem DeletesDeclared.mono {decl decl' : List PathBuf} {op : FsOp} (h : DeletesDeclared decl op)
    (hsub : decl ⊆ decl') : DeletesDeclared decl' op := by
  obtain ⟨q, hq, hop⟩ := h
  exact ⟨q, hsub hq, hop⟩

theorem Touches.createDir {decl : List PathBuf} {q : PathBuf} (hq : q ∈ decl) :
    Touches decl (.createDir q) :=
  ⟨q, hq, Or.inl rfl⟩

theorem Touches.writeFile {decl : List PathBuf} {q : PathBuf} (hq : q ∈ decl)
    (content : List Char) : Touches decl (.writeFile q content) :=
  ⟨q, hq, Or.inr ⟨content, rfl⟩⟩

namespace RenderedEntry

open Rendered.RenderedEntry

theorem mem_collectDeclared_self (e : RenderedEntry) (path : PathBuf) :
    path ∈ e.collectDeclared path := by
  cases e <;> simp [collectDeclared]

section Write

variable (o : FsOutcomes)

/-- The files of a projected directory are written at declared paths, each after its directory. -/
theorem writeFiles_extends : ∀ (files : List (SafePath × List Char)) (path : PathBuf),
    Stays (Extends fun op => Touches (files.map fun f => path.join f.1.path) op ∨
      op = .createDir path) (writeFiles o files path)
  | [], _ => Stays.pure ()
  | (name, content) :: rest, path => by
    have hfile : Stays (Extends fun op => Touches ((name, content) :: rest |>.map
        fun f => path.join f.1.path) op ∨ op = .createDir path)
        (writeFile o (path.join name.path) content) := by
      refine writeFile_extends o (fun parent hp => Or.inr ?_) (Or.inl ?_)
      · rw [SafePath.parent_join] at hp
        rw [Option.some.inj hp]
      · exact Touches.writeFile List.mem_cons_self content
    refine hfile.bind fun _ => Stays.extends_mono (writeFiles_extends rest path) fun op hop => ?_
    rcases hop with hop | hop
    · exact Or.inl (hop.mono (List.subset_cons_self _ _))
    · exact Or.inr hop

mutual

/-- Writing an entry only touches the paths it declares, and the directory it is in. -/
theorem write_extends : ∀ (e : RenderedEntry) (path : PathBuf),
    Stays (Extends (WriteOp (e.collectDeclared path) path)) (e.write o path)
  | .file content _, path =>
    writeFile_extends o (fun parent hp => Or.inr ⟨parent, hp, rfl⟩)
      (Or.inl (Touches.writeFile (mem_collectDeclared_self (.file content _) path) content))
  | .dir children p, path => by
    have hself := mem_collectDeclared_self (.dir children p) path
    refine (ensureDir_extends o (Or.inl (Touches.createDir hself))).bind fun _ =>
      Stays.extends_mono (writeChildren_extends children path) fun op hop => Or.inl ?_
    rcases hop with hop | rfl
    · exact hop.mono (List.subset_cons_self _ _)
    · exact Touches.createDir hself
  | .dirContentFromMap files, path => by
    have hself := mem_collectDeclared_self (.dirContentFromMap files) path
    refine (ensureDir_extends o (Or.inl (Touches.createDir hself))).bind fun _ =>
      Stays.extends_mono (writeFiles_extends o files path) fun op hop => Or.inl ?_
    rcases hop with hop | rfl
    · exact hop.mono (List.subset_cons_self _ _)
    · exact Touches.createDir hself

/-- Writing children only touches the paths they declare, and their directory. -/
theorem writeChildren_extends : ∀ (children : List (SafePath × RenderedEntry)) (path : PathBuf),
    Stays (Extends fun op => Touches (collectDeclaredChildren children path) op ∨
      op = .createDir path) (writeChildren o children path)
  | [], _ => Stays.pure ()
  | (sub, child) :: rest, path => by
    refine (Stays.extends_mono (write_extends child (path.join sub.path)) fun op hop => ?_).bind
      fun _ => Stays.extends_mono (writeChildren_extends rest path) fun op hop => ?_
    · -- the child's own directory is the one being written
      rcases hop with hop | ⟨parent, hp, rfl⟩
      · exact Or.inl (hop.mono fun q hq => by
          rw [collectDeclaredChildren]
          exact List.mem_append_left _ hq)
      · rw [SafePath.parent_join, Option.some.injEq] at hp
        exact Or.inr (hp ▸ rfl)
    · rcases hop with hop | hop
      · exact Or.inl (hop.mono fun q hq => by
          rw [collectDeclaredChildren]
          exact List.mem_append_right _ hq)
      · exact Or.inr hop

end

mutual

/-- Deleting the ephemeral part of an entry only deletes paths it declares. -/
theorem deleteEphemeral_extends : ∀ (e : RenderedEntry) (path : PathBuf),
    Stays (Extends (DeletesDeclared (e.collectDeclared path))) (e.deleteEphemeral o path)
  | .file content persistent, path => by
    have h : Stays (Extends (DeletesDeclared ((RenderedEntry.file content persistent).collectDeclared
        path))) (deleteIfExists o path) :=
      deleteIfExists_extends o ⟨path, mem_collectDeclared_self (.file content persistent) path, rfl⟩
    unfold deleteEphemeral
    cases persistent with
    | false => exact h
    | true => exact Stays.pure ()
  | .dir children persistent, path => by
    have hself := mem_collectDeclared_self (.dir children persistent) path
    unfold deleteEphemeral
    cases persistent with
    | false => exact deleteIfExists_extends o ⟨path, hself, rfl⟩
    | true =>
      exact Stays.extends_mono (deleteEphemeralChildren_extends children path) fun op hop =>
        hop.mono (List.subset_cons_self _ _)
  | .dirContentFromMap files, path =>
    deleteIfExists_extends o ⟨path, mem_collectDeclared_self (.dirContentFromMap files) path, rfl⟩

/-- Deleting the ephemeral part of children only deletes paths they declare. -/
theorem deleteEphemeralChildren_extends :
    ∀ (children : List (SafePath × RenderedEntry)) (path : PathBuf),
    Stays (Extends (DeletesDeclared (collectDeclaredChildren children path)))
      (deleteEphemeralChildren o children path)
  | [], _ => Stays.pure ()
  | (sub, child) :: rest, path => by
    refine (Stays.extends_mono (deleteEphemeral_extends child (path.join sub.path)) fun op hop =>
      hop.mono fun q hq => ?_).bind fun _ =>
      Stays.extends_mono (deleteEphemeralChildren_extends rest path) fun op hop =>
        hop.mono fun q hq => ?_
    · rw [collectDeclaredChildren]
      exact List.mem_append_left _ hq
    · rw [collectDeclaredChildren]
      exact List.mem_append_right _ hq

end

end Write

end RenderedEntry

/-! ### The whole tree -/

namespace FileSystem

/-- An operation of `FileSystem::write`, given what it read from the manifest: the deletion of
a stale path, an operation of writing one of the entries, or the save of the manifest. -/
def WriteOp (fs : FileSystem) (prevDeclared : List PathBuf) (op : FsOp) : Prop :=
  (∃ q ∈ stalePaths prevDeclared fs.collectDeclaredPaths, op = .deletePath q) ∨
  (∃ e ∈ fs.entries, Rendered.WriteOp (e.2.collectDeclared e.1) e.1 op) ∨
  op = .saveManifest fs.manifestPath fs.collectDeclaredPaths

section Write

variable (o : FsOutcomes)

theorem deleteStale_extends : ∀ stale : List PathBuf,
    Stays (Extends fun op => ∃ q ∈ stale, op = .deletePath q) (deleteStale o stale)
  | [] => Stays.pure ()
  | path :: rest => by
    have hrest : Stays (Extends fun op => ∃ q ∈ path :: rest, op = .deletePath q)
        (deleteStale o rest) :=
      Stays.extends_mono (deleteStale_extends rest) fun _ ⟨q, hq, hop⟩ =>
        ⟨q, List.mem_cons_of_mem _ hq, hop⟩
    refine (pathExists_extends path).bind fun b => ?_
    -- the `if` without `else` continues through a join point
    cases b with
    | true =>
      dsimp only [ite_true]
      exact (deletePath_extends o ⟨path, List.mem_cons_self, rfl⟩).discardError.bind fun _ => hrest
    | false => exact hrest

theorem writeEntries_extends : ∀ entries : List (PathBuf × RenderedEntry),
    Stays (Extends fun op => ∃ e ∈ entries, Rendered.WriteOp (e.2.collectDeclared e.1) e.1 op)
      (writeEntries o entries)
  | [] => Stays.pure ()
  | (path, entry) :: rest =>
    (Stays.extends_mono (entry.write_extends o path) fun _ hop =>
      ⟨(path, entry), List.mem_cons_self, hop⟩).bind
      fun _ => Stays.extends_mono (writeEntries_extends rest) fun _ ⟨e, he, hop⟩ =>
        ⟨e, List.mem_cons_of_mem _ he, hop⟩

theorem deleteEphemeralEntries_extends : ∀ entries : List (PathBuf × RenderedEntry),
    Stays (Extends fun op => ∃ e ∈ entries, DeletesDeclared (e.2.collectDeclared e.1) op)
      (deleteEphemeralEntries o entries)
  | [] => Stays.pure ()
  | (path, entry) :: rest =>
    (Stays.extends_mono (entry.deleteEphemeral_extends o path) fun _ hop =>
      ⟨(path, entry), List.mem_cons_self, hop⟩).bind
      fun _ => Stays.extends_mono (deleteEphemeralEntries_extends rest) fun _ ⟨e, he, hop⟩ =>
        ⟨e, List.mem_cons_of_mem _ he, hop⟩

/-- `FileSystem::write` deletes stale paths, writes entries and saves the manifest, and
nothing else, whatever the environment answers. -/
theorem write_extends (fs : FileSystem) (s : FsState) :
    Extends (fs.WriteOp (fs.readManifest s.disk)) s (fs.write o s).state := by
  unfold write
  rw [get_bind_apply]
  refine (Stays.extends_mono (deleteStale_extends o _) fun op hop => Or.inl hop).bind
    (fun _ => (Stays.extends_mono (writeEntries_extends o fs.entries) fun op hop =>
      Or.inr (Or.inl hop)).bind
      fun _ => Stays.discardError (attempt_extends (Or.inr (Or.inr rfl)) _)) s

/-- `FileSystem::delete_ephemeral` only deletes declared paths. -/
theorem deleteEphemeral_extends (fs : FileSystem) :
    Stays (Extends fun op => ∃ e ∈ fs.entries, DeletesDeclared (e.2.collectDeclared e.1) op)
      (fs.deleteEphemeral o) :=
  deleteEphemeralEntries_extends o fs.entries

end Write

end FileSystem

end AgentControl.Rendered
