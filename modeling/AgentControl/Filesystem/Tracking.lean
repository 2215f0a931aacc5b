import AgentControl.Filesystem.Containment
import AgentControl.Lib.Run

/-!
# Tracking the paths a write creates

The manifest is what lets a later `write` delete a path that is no longer
declared: it lists the paths the last completed `write` declared. A run of
`write` calls on one base directory is modelled with `Controller.run`, one call
per event, the event carrying the tree and the environment's answers.

When every operation of every call succeeds, the manifest keeps up: a path that
a call made below the base and that still exists is listed by the manifest
(`Tracked`), one call keeps this (`write_tracked`), and so does a whole run
(`tracked_of_successful_writes`). After such a run only what the last tree
declares is left (`successful_writes_leave_only_declared`).

A call that fails part-way has created directories and files, and deleted the
stale paths, but returns before the manifest is saved, so the manifest still
lists the previous tree. A path that only the failed call declared is then in
neither list, and the next successful `write` does not delete it
(`failed_write_leaks_created_dir`).
-/

namespace AgentControl.Rendered

open PathBuf PathBuf.Component EStateM

/-- One `write` call of a run: the tree written and what the environment answers to each
operation; the effect is what the call returned. -/
def writeCall (s : FsState) (call : FileSystem × FsOutcomes) :
    FsState × List (Except FileSystemEntriesError Unit) :=
  let r := call.1.write call.2 s
  (r.state, [r.value])

/-! ### Declared sets are closed under prefixes -/

/-- A path between `p` and a path below `p.join key` is `p`, or is below `p.join key`. -/
theorem eq_or_join_prefix_of_between {p q q' : PathBuf} {key : SafePath}
    (hq' : (p.join key.path).components <+: q'.components) (h1 : p.components <+: q.components)
    (h2 : q.components <+: q'.components) :
    q = p ∨ (p.join key.path).components <+: q.components := by
  obtain ⟨n, hn, -, -⟩ := SafePath.join_components p key
  obtain ⟨t, ht⟩ := h1
  obtain ⟨r, hr⟩ := hq'
  rw [hn] at hr ⊢
  -- what follows `p` in `q` is a prefix of what follows it in `q'`, which starts with the key
  rw [← ht, ← hr, List.append_assoc, List.prefix_append_right_inj] at h2
  cases t with
  | nil =>
    left
    rw [ext_iff', ← ht, List.append_nil]
  | cons c t =>
    right
    rw [List.singleton_append, List.cons_prefix_cons] at h2
    rw [← ht, h2.1]
    exact (List.prefix_append_right_inj _).mpr (List.cons_prefix_cons.mpr ⟨rfl, List.nil_prefix⟩)

/-- Two paths each a prefix of the other are equal. -/
theorem eq_of_prefix_antisymm {p q : PathBuf} (h1 : p.components <+: q.components)
    (h2 : q.components <+: p.components) : q = p :=
  ext_iff'.mpr (h2.eq_of_length (Nat.le_antisymm h2.length_le h1.length_le))

namespace RenderedEntry

open Rendered.RenderedEntry

mutual

/-- A path between an entry's path and one it declares is declared. -/
theorem mem_collectDeclared_of_between : ∀ (e : RenderedEntry) (path q q' : PathBuf),
    q' ∈ e.collectDeclared path → path.components <+: q.components →
    q.components <+: q'.components → q ∈ e.collectDeclared path
  | .file .., path, q, q', hq', h1, h2 => by
    rw [collectDeclared, List.mem_singleton] at hq' ⊢
    subst hq'
    exact eq_of_prefix_antisymm h1 h2
  | .dir children _, path, q, q', hq', h1, h2 => by
    rw [collectDeclared] at hq' ⊢
    rcases List.mem_cons.mp hq' with rfl | hq'
    · exact List.mem_cons.mpr (Or.inl (eq_of_prefix_antisymm h1 h2))
    · rcases mem_collectDeclaredChildren_of_between children path q q' hq' h1 h2 with rfl | h
      · exact List.mem_cons_self
      · exact List.mem_cons_of_mem _ h
  | .dirContentFromMap files, path, q, q', hq', h1, h2 => by
    rw [collectDeclared] at hq' ⊢
    rcases List.mem_cons.mp hq' with rfl | hq'
    · exact List.mem_cons.mpr (Or.inl (eq_of_prefix_antisymm h1 h2))
    · obtain ⟨f, hf, rfl⟩ := List.mem_map.mp hq'
      rcases eq_or_join_prefix_of_between (List.prefix_refl _) h1 h2 with rfl | h
      · exact List.mem_cons_self
      · exact List.mem_cons_of_mem _
          (List.mem_map.mpr ⟨f, hf, (eq_of_prefix_antisymm h h2).symm⟩)

/-- A path between a directory and one its children declare is the directory or declared. -/
theorem mem_collectDeclaredChildren_of_between :
    ∀ (children : List (SafePath × RenderedEntry)) (path q q' : PathBuf),
    q' ∈ collectDeclaredChildren children path → path.components <+: q.components →
    q.components <+: q'.components → q = path ∨ q ∈ collectDeclaredChildren children path
  | [], _, _, _, hq', _, _ => absurd hq' List.not_mem_nil
  | (sub, child) :: rest, path, q, q', hq', h1, h2 => by
    rw [collectDeclaredChildren] at hq' ⊢
    rcases List.mem_append.mp hq' with hq' | hq'
    · obtain ⟨names, -, hcomp⟩ := underBase_of_mem_collectDeclared child _ q' hq'
      rcases eq_or_join_prefix_of_between ⟨_, hcomp.symm⟩ h1 h2 with h | h
      · exact Or.inl h
      · exact Or.inr (List.mem_append_left _ (mem_collectDeclared_of_between child _ q q' hq' h h2))
    · rcases mem_collectDeclaredChildren_of_between rest path q q' hq' h1 h2 with h | h
      · exact Or.inl h
      · exact Or.inr (List.mem_append_right _ h)

end

end RenderedEntry

/-! ### What a successful write tracks -/

/-- The manifest of the trees on `base`. -/
def manifestOf (base : PathBuf) : PathBuf := FileSystem.manifestPath ⟨base, []⟩

/-- Below `base` by one name or more. -/
def Below (base q : PathBuf) : Prop := UnderBase base q ∧ q ≠ base

/-- The paths the operations of a log can have made exist. -/
def madeBy (log : List FsOp) : List PathBuf := log.flatMap FsOp.makes

/-- Every path below `base` that an operation of the log made, that still exists and that is
not the manifest, is listed by the manifest, which exists. -/
def Tracked (base : PathBuf) (s : FsState) : Prop :=
  ∀ q ∈ s.disk.present, q ∈ madeBy s.log → Below base q → q ≠ manifestOf base →
    manifestOf base ∈ s.disk.present ∧ q ∈ s.disk.manifest

/-- Every operation succeeds. -/
def FsOutcomes.AllSucceed (o : FsOutcomes) : Prop :=
  (∀ p, o.createDir p = .ok ()) ∧ (∀ p c, o.writeFile p c = .ok ()) ∧
    (∀ p, o.deletePath p = .ok ()) ∧ ∀ p m, o.saveManifest p m = .ok ()

theorem tracked_of_log_nil (base : PathBuf) (d : Disk) : Tracked base ⟨d, []⟩ :=
  fun _ _ hmade => absurd hmade List.not_mem_nil

theorem Below.startsWith {base q : PathBuf} (h : Below base q) :
    base.components <+: q.components := by
  obtain ⟨⟨names, -, hq⟩, -⟩ := h
  exact ⟨_, hq.symm⟩

/-- A path below the base is not a prefix of it. -/
theorem Below.not_above {base q : PathBuf} (h : Below base q) :
    ¬ q.components <+: base.components :=
  fun hq => h.2 (eq_of_prefix_antisymm h.startsWith hq)

/-- A path below an absolute base without `..` passes `is_within_base`. -/
theorem isWithinBase_of_below {base q : PathBuf} (hbase : base.isAbsolute = true)
    (hesc : parentDir ∉ base.components) (h : Below base q) : isWithinBase q base = true := by
  obtain ⟨⟨names, -, hq⟩, -⟩ := h
  have hnoesc : q.components.any (· == parentDir) = false := by
    refine List.any_eq_false.mpr fun x hx hxp => ?_
    rw [beq_iff_eq] at hxp
    subst hxp
    rw [hq, List.mem_append] at hx
    rcases hx with hx | hx
    · exact hesc hx
    · obtain ⟨n, -, hn⟩ := List.mem_map.mp hx
      cases hn
  have habs : q.isAbsolute = true := by
    have hne : base.components ≠ [] := by
      intro hnil
      simp [isAbsolute, hnil] at hbase
    obtain ⟨c, cs, hcs⟩ := List.exists_cons_of_ne_nil hne
    simp only [isAbsolute, hq, hcs, List.cons_append, List.head?_cons] at hbase ⊢
    exact hbase
  simp [isWithinBase, hnoesc, habs, startsWith_iff.mpr ⟨_, hq.symm⟩]

/-- What an operation of `write` makes below the base, the manifest apart, is declared. -/
theorem declared_of_made {fs : FileSystem} (hkeys : KeyedEntries fs) {prev : List PathBuf}
    {op : FsOp} (hop : fs.WriteOp prev op) {q : PathBuf} (hq : q ∈ op.makes)
    (hb : Below fs.baseDir q) (hmp : q ≠ fs.manifestPath) : q ∈ fs.collectDeclaredPaths := by
  rcases hop with ⟨_, -, rfl⟩ | ⟨e, he, hw⟩ | rfl
  · exact absurd hq List.not_mem_nil
  · obtain ⟨key, hkey⟩ := hkeys e he
    refine List.mem_flatMap.mpr ⟨e, he, ?_⟩
    rcases hw with ⟨q', hq', rfl | ⟨c, rfl⟩⟩ | ⟨parent, hparent, rfl⟩
    · -- a directory made with its ancestors: those below the base are below the entry
      obtain ⟨hpre, -⟩ := mem_ancestors.mp hq
      obtain ⟨names, -, hcomp⟩ := RenderedEntry.underBase_of_mem_collectDeclared e.2 e.1 q' hq'
      rw [hkey] at hcomp hq' ⊢
      rcases eq_or_join_prefix_of_between ⟨_, hcomp.symm⟩ hb.startsWith hpre with h | h
      · exact absurd h hb.2
      · exact RenderedEntry.mem_collectDeclared_of_between e.2 _ q q' hq' h hpre
    · rw [FsOp.makes, List.mem_singleton] at hq
      exact hq ▸ hq'
    · -- the directory of a top-level entry is the base, which is not below itself
      rw [hkey, SafePath.parent_join, Option.some.injEq] at hparent
      subst hparent
      exact absurd (mem_ancestors.mp hq).1 hb.not_above
  · -- the manifest's save makes the base's ancestors and the manifest
    have hparent : fs.manifestPath.parent = some fs.baseDir := parent_join_of_eq_normal rfl
    rw [FsOp.makes, hparent, Option.map_some, Option.getD_some, List.mem_append,
      List.mem_singleton] at hq
    rcases hq with hq | hq
    · exact absurd (mem_ancestors.mp hq).1 hb.not_above
    · exact absurd hq hmp

/-! ### Writes in which every operation succeeds -/

theorem attempt_returns (op : FsOp) : Returns (attempt op (.ok ())) := fun _ => ⟨(), _, rfl⟩

theorem pathExists_returns (path : PathBuf) : Returns (pathExists path) := fun s => ⟨_, s, rfl⟩

section Succeed

variable {o : FsOutcomes}

theorem ensureDir_returns (ho : o.AllSucceed) (dir : PathBuf) : Returns (ensureDir o dir) := by
  unfold ensureDir
  rw [ho.1 dir]
  exact (attempt_returns _).adaptExcept _

theorem writeFile_returns (ho : o.AllSucceed) {path parent : PathBuf}
    (hparent : path.parent = some parent) (content : List Char) :
    Returns (writeFile o path content) := by
  unfold writeFile
  rw [hparent, ho.2.1 path content]
  exact (ensureDir_returns ho parent).bind fun _ => (attempt_returns _).adaptExcept _

theorem writeFiles_returns (ho : o.AllSucceed) :
    ∀ (files : List (SafePath × List Char)) (path : PathBuf), Returns (writeFiles o files path)
  | [], _ => Returns.pure ()
  | (name, content) :: rest, path =>
    (writeFile_returns ho (SafePath.parent_join path name) content).bind fun _ =>
      writeFiles_returns ho rest path

mutual

/-- With every operation succeeding, writing an entry that has a directory returns. -/
theorem write_returns (ho : o.AllSucceed) : ∀ (e : RenderedEntry) {path parent : PathBuf},
    path.parent = some parent → Returns (e.write o path)
  | .file content _, _, _, hparent => writeFile_returns ho hparent content
  | .dir children _, path, _, _ =>
    (ensureDir_returns ho path).bind fun _ => writeChildren_returns ho children path
  | .dirContentFromMap files, path, _, _ =>
    (ensureDir_returns ho path).bind fun _ => writeFiles_returns ho files path

theorem writeChildren_returns (ho : o.AllSucceed) :
    ∀ (children : List (SafePath × RenderedEntry)) (path : PathBuf),
    Returns (RenderedEntry.writeChildren o children path)
  | [], _ => Returns.pure ()
  | (sub, child) :: rest, path =>
    (write_returns ho child (SafePath.parent_join path sub)).bind fun _ =>
      writeChildren_returns ho rest path

end

theorem writeEntries_returns (ho : o.AllSucceed) :
    ∀ {entries : List (PathBuf × RenderedEntry)} {base : PathBuf},
    (∀ e ∈ entries, ∃ key : SafePath, e.1 = base.join key.path) →
    Returns (FileSystem.writeEntries o entries)
  | [], _, _ => Returns.pure ()
  | (path, entry) :: rest, base, hkeys => by
    obtain ⟨key, hkey⟩ := hkeys _ List.mem_cons_self
    refine (write_returns ho entry (hkey ▸ SafePath.parent_join base key)).bind fun _ => ?_
    exact writeEntries_returns ho fun e he => hkeys e (List.mem_cons_of_mem _ he)

/-- The stale deletions return, whatever the environment answers: a failed deletion is only
logged. -/
theorem deleteStale_returns : ∀ stale : List PathBuf, Returns (FileSystem.deleteStale o stale)
  | [] => Returns.pure ()
  | path :: rest => by
    refine (pathExists_returns path).bind fun b => ?_
    cases b with
    | true =>
      dsimp only [ite_true]
      exact (Returns.discardError _).bind fun _ => deleteStale_returns rest
    | false => exact deleteStale_returns rest

/-- Stale deletion makes nothing exist. -/
theorem mem_present_of_deleteStale {stale : List PathBuf} {s : FsState} {q : PathBuf}
    (hq : q ∈ (FileSystem.deleteStale o stale s).state.disk.present) : q ∈ s.disk.present := by
  obtain ⟨new, -, hgood, hmade⟩ := FileSystem.deleteStale_extends o stale s
  by_contra hs
  obtain ⟨op, hop, hm⟩ := hmade q hq hs
  obtain ⟨_, -, rfl⟩ := hgood op hop
  exact absurd hm List.not_mem_nil

/-- One step of stale deletion when deleting succeeds: an existing path is deleted, a missing
one skipped. -/
theorem deleteStale_cons_apply (hdel : ∀ p, o.deletePath p = .ok ()) (path : PathBuf)
    (rest : List PathBuf) (s : FsState) :
    FileSystem.deleteStale o (path :: rest) s = FileSystem.deleteStale o rest
      (if path ∈ s.disk.present then ⟨s.disk.remove path, s.log ++ [.deletePath path]⟩ else s) := by
  rw [FileSystem.deleteStale, bind_apply_ok (rfl : pathExists path s = .ok _ s)]
  by_cases hp : path ∈ s.disk.present
  · simp only [hp, decide_true, ite_true]
    rw [bind_apply_ok (discardError_apply _ s)]
    simp only [deletePath, hdel path]
    rfl
  · simp only [hp, decide_false, Bool.false_eq_true, ite_false]

/-- When deleting succeeds, no stale path exists after the stale deletions. -/
theorem not_mem_present_deleteStale (hdel : ∀ p, o.deletePath p = .ok ()) :
    ∀ {stale : List PathBuf} {q : PathBuf} (s : FsState), q ∈ stale →
      q ∉ (FileSystem.deleteStale o stale s).state.disk.present
  | [], _, _, hq => absurd hq List.not_mem_nil
  | path :: rest, q, s, hq => by
    rw [deleteStale_cons_apply hdel]
    rcases List.mem_cons.mp hq with rfl | hq
    · -- gone after its own step, and the later steps only delete
      intro hmem
      have h := mem_present_of_deleteStale hmem
      split at h
      · exact (Disk.mem_remove.mp h).2 (List.prefix_refl _)
      · contradiction
    · exact not_mem_present_deleteStale hdel _ hq

/-- With every operation succeeding, `write` deletes the stale paths, and from there only
writes the tree and saves the manifest, which then exists and lists the declared paths. -/
theorem write_apply_of_allSucceed (ho : o.AllSucceed) {fs : FileSystem}
    (hkeys : KeyedEntries fs) (s : FsState) :
    ∃ s₁, FileSystem.deleteStale o
        (FileSystem.stalePaths (fs.readManifest s.disk) fs.collectDeclaredPaths) s = .ok () s₁ ∧
      Extends (fs.WriteOp (fs.readManifest s.disk)) s₁ (fs.write o s).state ∧
      fs.manifestPath ∈ (fs.write o s).state.disk.present ∧
      (fs.write o s).state.disk.manifest = fs.collectDeclaredPaths := by
  obtain ⟨⟨⟩, s₁, h₁⟩ :=
    @deleteStale_returns o
      (FileSystem.stalePaths (fs.readManifest s.disk) fs.collectDeclaredPaths) s
  obtain ⟨⟨⟩, s₂, h₂⟩ := writeEntries_returns ho hkeys s₁
  have hwrite : (fs.write o s).state =
      (attempt (.saveManifest fs.manifestPath fs.collectDeclaredPaths) (.ok ()) s₂).state := by
    simp only [FileSystem.write, get_bind_apply, bind_apply_ok h₁, bind_apply_ok h₂, ho.2.2.2]
    rfl
  refine ⟨s₁, h₁, ?_, ?_, ?_⟩
  · have hentries := FileSystem.writeEntries_extends o fs.entries s₁
    rw [h₂, Result.state_ok] at hentries
    rw [hwrite]
    exact (hentries.mono fun _ hop => Or.inr (Or.inl hop)).trans
      (attempt_extends (Or.inr (Or.inr rfl)) _ s₂)
  · rw [hwrite]
    simp [attempt, FsOp.apply]
  · rw [hwrite]
    rfl

/-- The step lemma: a successful `write` of a tree on an absolute base keeps tracked every path
below the base that it or an earlier call made. -/
theorem write_tracked (ho : o.AllSucceed) {fs : FileSystem} (hbase : fs.baseDir.isAbsolute = true)
    (hesc : parentDir ∉ fs.baseDir.components) (hkeys : KeyedEntries fs) {s : FsState}
    (hs : Tracked fs.baseDir s) : Tracked fs.baseDir (fs.write o s).state := by
  obtain ⟨s₁, h₁, hext₁, hmp, hman⟩ := write_apply_of_allSucceed ho hkeys s
  obtain ⟨new, hlog, hgood, -⟩ := FileSystem.write_extends o fs s
  intro q hq hmade hb hne
  refine ⟨hmp, hman ▸ ?_⟩
  by_cases hq₁ : q ∈ s₁.disk.present
  · have hq₀ : q ∈ s.disk.present := mem_present_of_deleteStale (by rw [h₁]; exact hq₁)
    rw [hlog, madeBy, List.flatMap_append, List.mem_append] at hmade
    rcases hmade with hold | hnew
    · -- made earlier, so listed by the manifest read; not stale, as it survived the deletions
      obtain ⟨hmp₀, hlisted⟩ := hs q hq₀ hold hb hne
      have hmp₀' : fs.manifestPath ∈ s.disk.present := hmp₀
      have hne' : q ≠ fs.manifestPath := hne
      have hprev : q ∈ fs.readManifest s.disk := by
        refine List.mem_filter.mpr ⟨?_, ?_⟩
        · rw [load, if_pos hmp₀']
          exact hlisted
        · rw [if_neg hne']
          exact isWithinBase_of_below hbase hesc hb
      by_contra hcurr
      exact not_mem_present_deleteStale ho.2.2.1 s (FileSystem.mem_stalePaths.mpr ⟨hprev, hcurr⟩)
        (by rw [h₁]; exact hq₁)
    · obtain ⟨op, hop, hm⟩ := List.mem_flatMap.mp hnew
      exact declared_of_made hkeys (hgood op hop) hm hb hne
  · -- made after the deletions, by writing the tree
    obtain ⟨_, -, hgood₁, hmade₁⟩ := hext₁
    obtain ⟨op, hop, hm⟩ := hmade₁ q hq hq₁
    exact declared_of_made hkeys (hgood₁ op hop) hm hb hne

end Succeed

/-- The run lemma: along successful writes of trees on one absolute base, every state is
tracked. -/
theorem tracked_of_successful_writes {base : PathBuf} (hbase : base.isAbsolute = true)
    (hesc : parentDir ∉ base.components) (d : Disk) (calls : List (FileSystem × FsOutcomes))
    (hcalls : ∀ c ∈ calls, c.1.baseDir = base ∧ KeyedEntries c.1 ∧ c.2.AllSucceed) :
    ∀ t ∈ Controller.states writeCall ⟨d, []⟩ calls, Tracked base t := by
  refine Controller.states_inv_guarded (Tracked base)
    (fun _ c => c.1.baseDir = base ∧ KeyedEntries c.1 ∧ c.2.AllSucceed) ?_
    (tracked_of_log_nil base d) calls (Controller.guarded_of_forall hcalls)
  rintro s ⟨fs, o⟩ hs ⟨rfl, hkeys, ho⟩
  exact write_tracked ho hbase hesc hkeys hs

/-- After a run of successful writes on one absolute base, every path the run made below the
base that still exists, the manifest apart, is declared by the last tree written. -/
theorem successful_writes_leave_only_declared {base : PathBuf} (hbase : base.isAbsolute = true)
    (hesc : parentDir ∉ base.components) (d : Disk) (calls : List (FileSystem × FsOutcomes))
    (fs : FileSystem) (o : FsOutcomes)
    (hcalls : ∀ c ∈ calls ++ [(fs, o)], c.1.baseDir = base ∧ KeyedEntries c.1 ∧ c.2.AllSucceed) :
    ∀ q ∈ (Controller.run writeCall ⟨d, []⟩ (calls ++ [(fs, o)])).1.disk.present,
      q ∈ madeBy (Controller.run writeCall ⟨d, []⟩ (calls ++ [(fs, o)])).1.log →
      Below base q → q ≠ manifestOf base → q ∈ fs.collectDeclaredPaths := by
  intro q hq hmade hb hne
  have htracked := tracked_of_successful_writes hbase hesc d _ hcalls _
    (Controller.run_fst_mem_states _ _)
  obtain ⟨-, hlisted⟩ := htracked q hq hmade hb hne
  obtain ⟨-, hkeys, ho⟩ := hcalls (fs, o) (List.mem_append_right _ List.mem_cons_self)
  obtain ⟨_, -, -, -, hman⟩ :=
    write_apply_of_allSucceed ho hkeys (Controller.run writeCall ⟨d, []⟩ calls).1
  rw [Controller.run_append] at hlisted
  simpa [writeCall, hman] using hlisted

/-! ### A failed write leaves an untracked directory -/

/-- The agent directory of the run. -/
def runBase : PathBuf := parse "/b".toList

/-- The key `a`. -/
def keyA : SafePath := ⟨parse "a".toList, by decide⟩

/-- The key `d`. -/
def keyD : SafePath := ⟨parse "d".toList, by decide⟩

/-- The key `f`. -/
def keyF : SafePath := ⟨parse "f".toList, by decide⟩

/-- The directory `/b/d`. -/
def leakedDir : PathBuf := runBase.join keyD.path

/-- First tree: the file `/b/a`. -/
def treeFile : FileSystem := ⟨runBase, [(runBase.join keyA.path, .file [] false)]⟩

/-- Second tree: the directory `/b/d` with the file `f`. -/
def treeDir : FileSystem := ⟨runBase, [(leakedDir, .dir [(keyF, .file [] false)] false)]⟩

/-- Third tree: nothing. -/
def treeEmpty : FileSystem := ⟨runBase, []⟩

/-- An environment in which every operation succeeds but the write of `/b/d/f`. -/
def fileWriteFails : FsOutcomes :=
  { allSucceed with
    writeFile := fun p _ => if p = leakedDir.join keyF.path then .error "denied".toList else .ok () }

/-- The three calls: the second fails writing its file. -/
def leakCalls : List (FileSystem × FsOutcomes) :=
  [(treeFile, allSucceed), (treeDir, fileWriteFails), (treeEmpty, allSucceed)]

/-- The run, from an empty disk. -/
def leakRun : FsState × List (Except FileSystemEntriesError Unit) :=
  Controller.run writeCall ⟨⟨[], []⟩, []⟩ leakCalls

/-- After the run the second call failed and the third succeeded; `/b/d` was created, still
exists, is declared by neither the last tree written nor the manifest. -/
theorem failed_write_leaks_created_dir :
    leakRun.2.map Except.toBool = [true, false, true] ∧
    FsOp.createDir leakedDir ∈ leakRun.1.log ∧
    leakedDir ∈ leakRun.1.disk.present ∧
    treeEmpty.manifestPath ∈ leakRun.1.disk.present ∧
    leakedDir ∉ treeEmpty.collectDeclaredPaths ∧
    leakedDir ∉ leakRun.1.disk.manifest := by
  decide

/-- A tree of one entry at a key below the base has its entries keyed. -/
theorem keyedEntries_singleton (key : SafePath) (entry : RenderedEntry) :
    KeyedEntries ⟨runBase, [(runBase.join key.path, entry)]⟩ := by
  intro e he
  rw [List.mem_singleton.mp he]
  exact ⟨key, rfl⟩

/-- The first two trees written with every operation succeeding. -/
def trackedCalls : List (FileSystem × FsOutcomes) := [(treeFile, allSucceed), (treeDir, allSucceed)]

theorem successful_writes_leave_only_declared_at_treeDir :
    runBase.isAbsolute = true ∧ parentDir ∉ runBase.components ∧
    (∀ c ∈ [(treeFile, allSucceed)] ++ [(treeDir, allSucceed)],
      c.1.baseDir = runBase ∧ KeyedEntries c.1 ∧ c.2.AllSucceed) ∧
    ∀ q ∈ (Controller.run writeCall ⟨⟨[], []⟩, []⟩ trackedCalls).1.disk.present,
      q ∈ madeBy (Controller.run writeCall ⟨⟨[], []⟩, []⟩ trackedCalls).1.log →
      Below runBase q → q ≠ manifestOf runBase → q ∈ treeDir.collectDeclaredPaths :=
  have hbase : runBase.isAbsolute = true := by decide
  have hesc : parentDir ∉ runBase.components := by decide
  have hsucceed : allSucceed.AllSucceed :=
    ⟨fun _ => rfl, fun _ _ => rfl, fun _ => rfl, fun _ _ => rfl⟩
  have hcalls : ∀ c ∈ [(treeFile, allSucceed)] ++ [(treeDir, allSucceed)],
      c.1.baseDir = runBase ∧ KeyedEntries c.1 ∧ c.2.AllSucceed := by
    intro c hc
    rcases List.mem_cons.mp hc with rfl | hc
    · exact ⟨rfl, keyedEntries_singleton keyA _, hsucceed⟩
    · rw [List.mem_singleton.mp hc]
      exact ⟨rfl, keyedEntries_singleton keyD _, hsucceed⟩
  ⟨hbase, hesc, hcalls,
    successful_writes_leave_only_declared hbase hesc ⟨[], []⟩ [(treeFile, allSucceed)] treeDir
      allSucceed hcalls⟩

end AgentControl.Rendered
