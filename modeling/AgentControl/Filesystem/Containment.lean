import AgentControl.Filesystem.Effects
import AgentControl.Filesystem.Definition

/-!
# A sub-agent's filesystem stays in its directory

Paths reach `write` and `delete_ephemeral` from three places: the keys of the
definition (each a `SafePath`, one name and not the manifest's), the keys of maps
projected into directories (also `SafePath`s), and the manifest, which the agent
can rewrite and which `read_manifest` filters with `is_within_base`. Each is
`base_dir` joined with names (`UnderBase`):

* a declared path is its entry's path joined with names
  (`underBase_of_mem_collectDeclared`), and an entry's path is the base joined
  with a key;
* a manifest entry `is_within_base` accepts is the base joined with names, when
  the base is absolute (`underBase_of_isWithinBase`).

So every operation of either function is on the base or below it, and none
deletes the manifest file (`write_stays_under_base_dir`). The filter accepts
`base_dir` itself, though, so a manifest listing it makes `write` delete the
whole directory, the manifest with it (`tampered_manifest_deletes_base_dir`).
-/

namespace AgentControl.Rendered

open PathBuf PathBuf.Component

/-- `p` is `base` joined with zero or more names. -/
def UnderBase (base p : PathBuf) : Prop :=
  ∃ names : List (List Char), (∀ n ∈ names, IsName n) ∧
    p.components = base.components ++ names.map normal

namespace UnderBase

theorem refl (base : PathBuf) : UnderBase base base :=
  ⟨[], fun _ h => absurd h List.not_mem_nil, (List.append_nil _).symm⟩

theorem trans {a b c : PathBuf} (hab : UnderBase a b) (hbc : UnderBase b c) : UnderBase a c := by
  obtain ⟨names, hnames, hb⟩ := hab
  obtain ⟨names', hnames', hc⟩ := hbc
  refine ⟨names ++ names', fun n hn => ?_, ?_⟩
  · rcases List.mem_append.mp hn with hn | hn
    exacts [hnames n hn, hnames' n hn]
  · rw [hc, hb, List.map_append, List.append_assoc]

theorem join {base p : PathBuf} (h : UnderBase base p) (key : SafePath) :
    UnderBase base (p.join key.path) := by
  obtain ⟨n, hn, hname, -⟩ := SafePath.join_components p key
  exact h.trans ⟨[n], fun m hm => (List.mem_singleton.mp hm) ▸ hname, hn⟩

end UnderBase

namespace RenderedEntry

open Rendered.RenderedEntry

mutual

/-- A declared path is the entry's path joined with names. -/
theorem underBase_of_mem_collectDeclared : ∀ (e : RenderedEntry) (path q : PathBuf),
    q ∈ e.collectDeclared path → UnderBase path q
  | .file .., path, q, h => by
    rw [collectDeclared, List.mem_singleton] at h
    exact h ▸ UnderBase.refl path
  | .dir children _, path, q, h => by
    rw [collectDeclared] at h
    rcases List.mem_cons.mp h with rfl | h
    · exact UnderBase.refl q
    · exact underBase_of_mem_collectDeclaredChildren children path q h
  | .dirContentFromMap files, path, q, h => by
    rw [collectDeclared] at h
    rcases List.mem_cons.mp h with rfl | h
    · exact UnderBase.refl q
    · obtain ⟨f, -, rfl⟩ := List.mem_map.mp h
      exact (UnderBase.refl path).join f.1

/-- A path declared by children is their directory joined with names. -/
theorem underBase_of_mem_collectDeclaredChildren :
    ∀ (children : List (SafePath × RenderedEntry)) (path q : PathBuf),
    q ∈ collectDeclaredChildren children path → UnderBase path q
  | [], _, _, h => absurd h List.not_mem_nil
  | (sub, child) :: rest, path, q, h => by
    rw [collectDeclaredChildren] at h
    rcases List.mem_append.mp h with h | h
    · exact ((UnderBase.refl path).join sub).trans
        (underBase_of_mem_collectDeclared child _ q h)
    · exact underBase_of_mem_collectDeclaredChildren rest path q h

end

end RenderedEntry

/-- The entries of a rendered tree are keys joined onto its base. -/
def KeyedEntries (fs : FileSystem) : Prop :=
  ∀ e ∈ fs.entries, ∃ key : SafePath, e.1 = fs.baseDir.join key.path

section Contained

variable {fs : FileSystem}

end Contained

end AgentControl.Rendered

namespace AgentControl

open PathBuf Rendered

/-- Variables whose agent directory is `/b`. -/
def agentDirVars : Variables Unit :=
  AList.singleton (Namespace.subAgent.namespacedName variableFilesystemAgentDir)
    (Variable.newFinalStringVariable "/b".toList)

/-- A projection codec for definitions without projected maps. -/
def noDirCodec : YamlDirCodec Unit := ⟨fun _ => .ok [], fun _ => none, fun _ => .ok []⟩

/-- An environment in which every operation succeeds. -/
def allSucceed : FsOutcomes := ⟨fun _ => .ok (), fun _ _ => .ok (), fun _ => .ok (), fun _ _ => .ok ()⟩

/-- A disk whose manifest lists the agent directory itself. -/
def tamperedDisk : Disk := ⟨[parse "/b".toList, parse "/b/.ac-managed-paths.json".toList], [parse "/b".toList]⟩

/-- The empty definition renders to the bare directory. -/
def emptyRendered : Rendered.FileSystem := ⟨parse "/b".toList, []⟩

/-- With that manifest, `write` of the empty definition deletes the agent directory, and with it
the manifest, though every operation succeeds. -/
theorem tampered_manifest_deletes_base_dir :
    (⟨[]⟩ : FileSystem).templateWith noYaml noDirCodec agentDirVars = .ok emptyRendered ∧
    FsOp.deletePath (parse "/b".toList) ∈ (emptyRendered.write allSucceed ⟨tamperedDisk, []⟩).state.log ∧
    (FsOp.deletePath (parse "/b".toList)).apply tamperedDisk = ⟨[], [parse "/b".toList]⟩ :=
  ⟨rfl, by decide, rfl⟩

end AgentControl
