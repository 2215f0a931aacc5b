import AgentControl.Package.Manager
import AgentControl.Lib.EState
import AgentControl.Lib.Except
import Mathlib.Data.List.AList

/-!
# The OCI package manager

`OCIPackageManager` (`package/oci/package_manager.rs`) installs a package for an agent at
`<remote_dir>/packages/<agent>/stored_packages/<id>/<suffix>`, the suffix computed from the
package's repository and version. It downloads the archive into a temporary directory,
extracts it into the final directory, runs the package's post-download hook there, and deletes
the temporary directory. A package whose final directory already exists counts as installed.
After every install it purges the agent's other packages but the one just installed and the
one it installed for the agent before (`retain_packages`).

What the disk holds is modelled by its directories and files (`PkgDisk`). Every fallible call to
a collaborator (the directory manager, the downloader, the archive, the hook executor) is
attempted, logged, and answered by the environment (`PmOutcomes`); a call that fails changes
nothing. What the downloader, the archive and the hook write inside their directories is left
out. The manager's own state is the map `latest_installed_packages`.

The suffix is always computed, and it is one name (`computePathSuffix_eq_ok_normal`); it does
not tell references apart, since every character that is not alphanumeric becomes `_`
(`getPackagePath_collides`).

What a successful `install` guarantees:

* it returns the package's own path (`install_eq_ok`);
* `installed_packages` lists exactly the agent's packages on the disk
  (`mem_installedPackages`), so after the install every package of the agent left on the disk
  is the one installed or the agent's latest before it (`install_retains_latest_two`).
-/

namespace AgentControl

open PathBuf PathBuf.Component EStateM

/-- `PACKAGES_FOLDER_NAME`. -/
def packagesFolderName : List Char := "packages".toList

/-- `TEMP_PCK_LOCATION`. -/
def tempPckLocation : List Char := "__temp_packages".toList

/-- `INSTALLED_PCK_LOCATION`. -/
def installedPckLocation : List Char := "stored_packages".toList

/-- Models `OCIPackageManagerError`; the errors of the collaborators by their messages. -/
inductive OCIPackageManagerError where
  | download (message : List Char)
  | install (message : List Char)
  | uninstall (message : List Char)
  | extraction (message : List Char)
  | notNormalSuffix (message : List Char)
  | retainPackageErrors (errors : List (List Char × OCIPackageManagerError))
  | postDownloadHook (message : List Char)

/-- Models `OCIPackageManager`, by the directory it keeps packages under. -/
structure OCIPackageManager where
  remoteDir : PathBuf

/-! ### Where packages live -/

/-- Models `get_generic_package_location_path`. -/
def getGenericPackageLocationPath (basePath : PathBuf) (agentId : AgentID) (location : List Char) :
    PathBuf :=
  ((basePath.join (parse packagesFolderName)).join (parse agentId.asStr)).join (parse location)

section Paths

variable (isAlphanumeric : Char → Bool)

/-- Models `compute_path_suffix`, on a unix target where `/` is the one separator;
`isAlphanumeric` is `char::is_alphanumeric`. -/
def computePathSuffix (packageData : PackageData) : Except OCIPackageManagerError PathBuf :=
  let packageFullReference :=
    packageData.oci.repository.text ++ ':' :: packageData.oci.version.text
  let safeName := "oci_".toList ++ packageFullReference.flatMap fun c =>
    if c = '/' then "__".toList else if !isAlphanumeric c then ['_'] else [c]
  let sanitizedPath := parse safeName
  -- the first component that is not a name fails the check
  match sanitizedPath.components.find? fun c => !c.isNormal with
  | some other => .error (.notNormalSuffix other.debug)
  | none => .ok sanitizedPath

/-- Models `get_generic_package_path`. -/
def getGenericPackagePath (basePath : PathBuf) (agentId : AgentID) (location : List Char)
    (packageData : PackageData) : Except OCIPackageManagerError PathBuf := do
  let packageIdPath := getGenericPackageLocationPath basePath agentId location
  return (packageIdPath.join (parse packageData.id)).join
    (← computePathSuffix isAlphanumeric packageData)

/-- Models `get_package_path`. -/
def getPackagePath (basePath : PathBuf) (agentId : AgentID) (packageData : PackageData) :
    Except OCIPackageManagerError PathBuf :=
  getGenericPackagePath isAlphanumeric basePath agentId installedPckLocation packageData

/-- Models `get_temp_package_path`. -/
def getTempPackagePath (basePath : PathBuf) (agentId : AgentID) (packageData : PackageData) :
    Except OCIPackageManagerError PathBuf :=
  getGenericPackagePath isAlphanumeric basePath agentId tempPckLocation packageData

/-- The sanitized reference is one name: `oci_` keeps it from being `.` or `..`, and every `/`
became `__`. -/
theorem isName_sanitized (reference : List Char) :
    IsName ("oci_".toList ++ reference.flatMap fun c =>
      if c = '/' then "__".toList else if !isAlphanumeric c then ['_'] else [c]) := by
  refine ⟨by simp, by simp, by simp, ?_⟩
  rw [List.mem_append, not_or]
  refine ⟨by decide, ?_⟩
  rw [List.mem_flatMap]
  rintro ⟨c, -, hc⟩
  split_ifs at hc with h₁ h₂
  · simp at hc
  · simp at hc
  · exact h₁ (List.mem_singleton.mp hc).symm

/-- The suffix is always computed, and it is one name. -/
theorem computePathSuffix_eq_ok_normal (packageData : PackageData) :
    ∃ suffix n, computePathSuffix isAlphanumeric packageData = .ok suffix ∧
      suffix.components = [normal n] := by
  unfold computePathSuffix
  dsimp only
  have hname := parse_of_isName (isName_sanitized isAlphanumeric
    (packageData.oci.repository.text ++ ':' :: packageData.oci.version.text))
  -- the one component is a name, so the check passes
  have hfind : (parse ("oci_".toList ++
      (packageData.oci.repository.text ++ ':' :: packageData.oci.version.text).flatMap fun c =>
        if c = '/' then "__".toList else if !isAlphanumeric c then ['_'] else [c])).components.find?
      (fun c => !c.isNormal) = none := by
    rw [hname]
    rfl
  rw [hfind]
  exact ⟨_, _, rfl, hname⟩

end Paths

/-- `a.b:1` and `a-b:1`, two references that `Repository::from_str` and `Version::from_str`
accept, share their installation directory: `.` and `-` both become `_`, whatever else
`char::is_alphanumeric` says. -/
theorem getPackagePath_collides {isAlphanumeric : Char → Bool}
    (hdot : isAlphanumeric '.' = false) (hdash : isAlphanumeric '-' = false)
    (hcolon : isAlphanumeric ':' = false) (ha : isAlphanumeric 'a' = true)
    (hb : isAlphanumeric 'b' = true) (hone : isAlphanumeric '1' = true)
    (basePath : PathBuf) (agentId : AgentID) (id : List Char) :
    Repository.fromStr "a.b".toList = .ok ⟨"a.b".toList⟩ ∧
      Repository.fromStr "a-b".toList = .ok ⟨"a-b".toList⟩ ∧
      Version.fromStr "1".toList = .ok ⟨"1".toList⟩ ∧
      getPackagePath isAlphanumeric basePath agentId ⟨id, ⟨⟨"a.b".toList⟩, ⟨"1".toList⟩, none⟩, none⟩ =
        getPackagePath isAlphanumeric basePath agentId
          ⟨id, ⟨⟨"a-b".toList⟩, ⟨"1".toList⟩, none⟩, none⟩ := by
  refine ⟨by decide, by decide, by decide, ?_⟩
  simp [getPackagePath, getGenericPackagePath, computePathSuffix, hdot, hdash, hcolon, ha, hb,
    hone]

theorem getPackagePath_collides_ascii :
    Char.isAlphanum '.' = false ∧ Char.isAlphanum '-' = false ∧ Char.isAlphanum ':' = false ∧
      Char.isAlphanum 'a' = true ∧ Char.isAlphanum 'b' = true ∧ Char.isAlphanum '1' = true ∧
      getPackagePath Char.isAlphanum (parse "/var/lib/newrelic-agent-control".toList)
          (.subAgent "nrdot".toList) ⟨"agent".toList, ⟨⟨"a.b".toList⟩, ⟨"1".toList⟩, none⟩, none⟩ =
        getPackagePath Char.isAlphanum (parse "/var/lib/newrelic-agent-control".toList)
          (.subAgent "nrdot".toList) ⟨"agent".toList, ⟨⟨"a-b".toList⟩, ⟨"1".toList⟩, none⟩, none⟩ :=
  ⟨by decide, by decide, by decide, by decide, by decide, by decide,
    (@getPackagePath_collides Char.isAlphanum (by decide) (by decide) (by decide) (by decide) (by decide) (by decide)
      (parse "/var/lib/newrelic-agent-control".toList) (.subAgent "nrdot".toList)
      "agent".toList).2.2.2⟩

/-! ### The disk and the operations on it -/

/-- The directories and the files that exist. -/
structure PkgDisk where
  dirs : List PathBuf
  files : List PathBuf

namespace PkgDisk

/-- Models `Path::exists`. -/
def pathExists (d : PkgDisk) (p : PathBuf) : Bool := decide (p ∈ d.dirs ∨ p ∈ d.files)

/-- Models `DirBuilder::create` with `recursive(true)`: the path and every directory above it. -/
def createDirAll (d : PkgDisk) (p : PathBuf) : PkgDisk :=
  { d with dirs := d.dirs ++ p.ancestors.filter (· ∉ d.dirs) }

/-- Models `remove_dir_all`: the path and everything below it go. -/
def removeAll (d : PkgDisk) (p : PathBuf) : PkgDisk :=
  ⟨d.dirs.filter fun q => !q.startsWith p, d.files.filter fun q => !q.startsWith p⟩

/-- Models `LocalFile::dir_entries`: the entries of a directory, in the disk's order. -/
def dirEntries (d : PkgDisk) (dir : PathBuf) : Except (List Char) (List PathBuf) :=
  if dir ∈ d.dirs then .ok ((d.dirs ++ d.files).filter fun p => p.parent = some dir)
  else .error ("directory not found or not a directory: ".toList ++ dir.display)

theorem mem_createDirAll_self (d : PkgDisk) {p : PathBuf} (hne : p.components ≠ []) :
    p ∈ (d.createDirAll p).dirs := by
  by_cases hp : p ∈ d.dirs
  · exact List.mem_append_left _ hp
  · exact List.mem_append_right _ (List.mem_filter.mpr
      ⟨mem_ancestors.mpr ⟨List.prefix_refl _, hne⟩, decide_eq_true hp⟩)

end PkgDisk

/-- An operation on the disk, as attempted. An extraction is logged with the package whose
archive it extracts. -/
inductive PmOp where
  | createDir (path : PathBuf)
  | deletePath (path : PathBuf)
  | download (packageData : PackageData) (path : PathBuf)
  | extract (packageData : PackageData) (path : PathBuf)
  | runHook (hook : PostDownloadHook) (packageDir : PathBuf)
  deriving DecidableEq

/-- What a successful operation does to the disk. -/
def PmOp.apply : PmOp → PkgDisk → PkgDisk
  | createDir p, d => d.createDirAll p
  | deletePath p, d => d.removeAll p
  | download .., d => d
  | extract .., d => d
  | runHook .., d => d

/-- What each collaborator answers during one call. -/
structure PmOutcomes where
  create : PathBuf → Except (List Char) Unit
  delete : PathBuf → Except (List Char) Unit
  download : PackageData → PathBuf → Except (List Char) Unit
  extract : PathBuf → Except (List Char) Unit
  hook : PostDownloadHook → PathBuf → Except (List Char) Unit

/-- The disk, `latest_installed_packages`, and the log of the operations attempted. -/
structure PmState where
  disk : PkgDisk
  latestInstalledPackages : AList (fun _ : AgentID => InstalledPackageData)
  log : List PmOp

/-- The package manager's computations: they stop at the first error, in the state reached. -/
abbrev PmM := EStateM OCIPackageManagerError PmState

/-- Attempts an operation: it is logged, and applied when it succeeds. -/
def PmOp.attempt (op : PmOp) (outcome : Except (List Char) Unit) :
    EStateM (List Char) PmState Unit := fun s =>
  match outcome with
  | .ok () => .ok () { s with disk := op.apply s.disk, log := s.log ++ [op] }
  | .error e => .error e { s with log := s.log ++ [op] }

namespace OCIPackageManager

variable (o : PmOutcomes)

/-- Models `DirectoryManager::create`. -/
def createDir (path : PathBuf) : EStateM (List Char) PmState Unit :=
  PmOp.attempt (.createDir path) (o.create path)

/-- Models `DirectoryManager::delete`. -/
def deleteDir (path : PathBuf) : EStateM (List Char) PmState Unit :=
  PmOp.attempt (.deletePath path) (o.delete path)

/-- Models `extract_package`: a failed extraction deletes the directory, its error dropped. -/
def extractPackage (packageData : PackageData) (extractDir : PathBuf) : PmM Unit := do
  (createDir o extractDir).adaptExcept .install
  ((PmOp.attempt (.extract packageData extractDir) (o.extract extractDir)).inspectErr
    fun _ => deleteDir o extractDir).adaptExcept .extraction

/-- Models `install_archive`. -/
def installArchive (packageData : PackageData) (tmpDownloadPath installPath : PathBuf) :
    PmM InstalledPackageData := do
  (createDir o tmpDownloadPath).adaptExcept .install
  (PmOp.attempt (.download packageData tmpDownloadPath)
    (o.download packageData tmpDownloadPath)).adaptExcept .download
  extractPackage o packageData installPath
  match packageData.postDownloadHook with
  | some hook =>
    (PmOp.attempt (.runHook hook installPath) (o.hook hook installPath)).adaptExcept
      .postDownloadHook
  | none => pure ()
  return ⟨packageData.id, installPath⟩

/-- The body of the loop of `installed_packages` over one entry of `stored_packages`: a directory
with a name gives its sub-directories, as packages with that name as their id; a file, or an
entry without a name, is skipped. -/
def packagesIn (d : PkgDisk) (idPath : PathBuf) :
    Except OCIPackageManagerError (List InstalledPackageData) :=
  if idPath ∉ d.dirs then pure []
  else match idPath.fileName with
    | none => pure []
    | some packageId => do
      let packageDirs ← (d.dirEntries idPath).mapError .install
      pure ((packageDirs.filter (· ∈ d.dirs)).map fun packageDir => ⟨packageId, packageDir⟩)

/-- Models `installed_packages`, which only reads the disk. -/
def installedPackages (pm : OCIPackageManager) (d : PkgDisk) (agentId : AgentID) :
    Except OCIPackageManagerError (List InstalledPackageData) := do
  let installedPackagesDir :=
    getGenericPackageLocationPath pm.remoteDir agentId installedPckLocation
  let idDirs ← (d.dirEntries installedPackagesDir).mapError .install
  let perId ← idDirs.mapM (packagesIn d)
  pure perId.flatten

/-- Models `uninstall`. -/
def uninstall (_agentId : AgentID) (package : InstalledPackageData) : PmM Unit :=
  (deleteDir o package.installationPath).adaptExcept .uninstall

/-- The loop of `retain_packages`: every listed package that is not retained is uninstalled, and
the errors are collected. -/
def uninstallUnretained (agentId : AgentID) (pkgToRetain : List InstalledPackageData) :
    List InstalledPackageData → PmM (List (List Char × OCIPackageManagerError))
  | [] => pure []
  | pckToRemove :: rest => do
    if pckToRemove ∈ pkgToRetain then uninstallUnretained agentId pkgToRetain rest
    else
      let result ← capture (uninstall o agentId pckToRemove)
      let errors ← uninstallUnretained agentId pkgToRetain rest
      match result with
      | .ok () => pure errors
      | .error e => pure ((pckToRemove.id, e) :: errors)

/-- Models `retain_packages`: the package becomes the agent's latest, and every other package of
the agent but the previous latest is uninstalled. -/
def retainPackages (pm : OCIPackageManager) (agentId : AgentID)
    (installedPackage : InstalledPackageData) : PmM Unit := do
  let s ← get
  let previousPackage := s.latestInstalledPackages.lookup agentId
  set { s with latestInstalledPackages := s.latestInstalledPackages.insert agentId installedPackage }
  let pkgToRetain := installedPackage :: previousPackage.toList
  let installedPackages ← EStateM.ofExcept (installedPackages pm s.disk agentId)
  let errors ← uninstallUnretained o agentId pkgToRetain installedPackages
  if !errors.isEmpty then throw (.retainPackageErrors errors)

/-- Models `install`. -/
def install (isAlphanumeric : Char → Bool) (pm : OCIPackageManager) (agentId : AgentID)
    (packageData : PackageData) : PmM InstalledPackageData := do
  let packagePath ← EStateM.ofExcept (getPackagePath isAlphanumeric pm.remoteDir agentId packageData)
  if (← get).disk.pathExists packagePath then
    -- already installed: no download, extraction or hook
    let installedPackage : InstalledPackageData := ⟨packageData.id, packagePath⟩
    retainPackages o pm agentId installedPackage
    return installedPackage
  let tempPackagePath ←
    EStateM.ofExcept (getTempPackagePath isAlphanumeric pm.remoteDir agentId packageData)
  let installedPackage ← (installArchive o packageData tempPackagePath packagePath).inspectErr
    fun _ => deleteDir o tempPackagePath
  (deleteDir o tempPackagePath).adaptExcept .install
  retainPackages o pm agentId installedPackage
  return installedPackage

/-! ### What each step does -/

/-- A successful operation was applied. -/
theorem attempt_eq_ok {op : PmOp} {outcome : Except (List Char) Unit} {s s' : PmState}
    (h : PmOp.attempt op outcome s = .ok () s') :
    outcome = .ok () ∧ s' = { s with disk := op.apply s.disk, log := s.log ++ [op] } := by
  cases outcome with
  | ok u =>
    cases h
    exact ⟨rfl, rfl⟩
  | error e => cases h

/-- Two states with the same `latest_installed_packages`. -/
def SameLatest (s s' : PmState) : Prop := s'.latestInstalledPackages = s.latestInstalledPackages

instance : Std.Refl SameLatest := ⟨fun _ => rfl⟩

instance : IsTrans PmState SameLatest := ⟨fun _ _ _ h₁ h₂ => h₂.trans h₁⟩

/-- An operation on the disk leaves `latest_installed_packages` alone. -/
theorem attempt_sameLatest (op : PmOp) (outcome : Except (List Char) Unit) :
    Stays SameLatest (PmOp.attempt op outcome) := by
  intro s
  cases outcome <;> rfl

theorem createDir_sameLatest (path : PathBuf) : Stays SameLatest (createDir o path) :=
  attempt_sameLatest _ _

theorem deleteDir_sameLatest (path : PathBuf) : Stays SameLatest (deleteDir o path) :=
  attempt_sameLatest _ _

theorem extractPackage_sameLatest (packageData : PackageData) (extractDir : PathBuf) :
    Stays SameLatest (extractPackage o packageData extractDir) :=
  ((createDir_sameLatest o _).adaptExcept _).bind fun _ =>
    ((attempt_sameLatest _ _).inspectErr fun _ => deleteDir_sameLatest o _).adaptExcept _

theorem installArchive_sameLatest (packageData : PackageData)
    (tmpDownloadPath installPath : PathBuf) :
    Stays SameLatest (installArchive o packageData tmpDownloadPath installPath) := by
  unfold installArchive
  refine ((createDir_sameLatest o _).adaptExcept _).bind fun _ => ?_
  refine ((attempt_sameLatest _ _).adaptExcept _).bind fun _ => ?_
  refine (extractPackage_sameLatest o _ _).bind fun _ => ?_
  -- the hook, if any, then the package
  cases packageData.postDownloadHook with
  | some hook => exact ((attempt_sameLatest _ _).adaptExcept _).bind fun _ => Stays.pure _
  | none => exact Stays.pure _

/-- A successful `extract_package` extracted the archive. -/
theorem extractPackage_eq_ok {packageData : PackageData} {extractDir : PathBuf} {s s' : PmState}
    (h : extractPackage o packageData extractDir s = .ok () s') :
    o.extract extractDir = .ok () ∧ (extractDir.components ≠ [] → extractDir ∈ s'.disk.dirs) := by
  unfold extractPackage at h
  obtain ⟨_, s₁, hcreate, hextract⟩ := bind_apply_eq_ok h
  obtain ⟨-, rfl⟩ := attempt_eq_ok (adaptExcept_apply_eq_ok hcreate)
  obtain ⟨hextracted, rfl⟩ := attempt_eq_ok (inspectErr_apply_eq_ok (adaptExcept_apply_eq_ok hextract))
  -- the extraction itself leaves the directories as the creation made them
  exact ⟨hextracted, PkgDisk.mem_createDirAll_self s.disk⟩

/-- A successful `install_archive` returns the package at the directory it was given, after the
archive was extracted there and the hook, if any, succeeded there. -/
theorem installArchive_eq_ok {packageData : PackageData} {tmpDownloadPath installPath : PathBuf}
    {s s' : PmState} {installed : InstalledPackageData}
    (h : installArchive o packageData tmpDownloadPath installPath s = .ok installed s') :
    installed = ⟨packageData.id, installPath⟩ ∧ o.extract installPath = .ok () ∧
      (∀ hook, packageData.postDownloadHook = some hook → o.hook hook installPath = .ok ()) ∧
      (installPath.components ≠ [] → installPath ∈ s'.disk.dirs) := by
  unfold installArchive at h
  obtain ⟨_, _, _, h⟩ := bind_apply_eq_ok h
  obtain ⟨_, _, _, h⟩ := bind_apply_eq_ok h
  obtain ⟨_, s₃, hextract, h⟩ := bind_apply_eq_ok h
  obtain ⟨hextracted, hdir⟩ := extractPackage_eq_ok o hextract
  -- past the hook, if any, the package is returned
  cases hhook : packageData.postDownloadHook with
  | some hook =>
    simp only [hhook] at h
    obtain ⟨_, s₄, hrun, h⟩ := bind_apply_eq_ok h
    cases h
    obtain ⟨hhooked, rfl⟩ := attempt_eq_ok (adaptExcept_apply_eq_ok hrun)
    refine ⟨rfl, hextracted, fun hook' hhook' => ?_, hdir⟩
    obtain rfl := Option.some.inj hhook'
    exact hhooked
  | none =>
    simp only [hhook] at h
    cases h
    exact ⟨rfl, hextracted, (fun _ hhook' => by cases hhook'), hdir⟩

/-- How a successful `install` went: it returned the package at the package's own path, which
either existed, the package then retained as it was, or did not, the archive then installed
there before the package was retained from a state with the same `latest_installed_packages`. -/
theorem install_eq_ok_cases {isAlphanumeric : Char → Bool} {pm : OCIPackageManager}
    {agentId : AgentID} {packageData : PackageData} {s s' : PmState}
    {installed : InstalledPackageData}
    (h : install o isAlphanumeric pm agentId packageData s = .ok installed s') :
    getPackagePath isAlphanumeric pm.remoteDir agentId packageData =
        .ok installed.installationPath ∧ installed.id = packageData.id ∧
      ((s.disk.pathExists installed.installationPath = true ∧
          retainPackages o pm agentId installed s = .ok () s') ∨
        (s.disk.pathExists installed.installationPath = false ∧
          ∃ tmp s₁, getTempPackagePath isAlphanumeric pm.remoteDir agentId packageData = .ok tmp ∧
            installArchive o packageData tmp installed.installationPath s = .ok installed s₁ ∧
            retainPackages o pm agentId installed
              ⟨s₁.disk.removeAll tmp, s₁.latestInstalledPackages, s₁.log ++ [.deletePath tmp]⟩ =
                .ok () s')) := by
  unfold install at h
  obtain ⟨packagePath, s₀, hpathRun, hafter⟩ := bind_apply_eq_ok h
  obtain ⟨hpath, rfl⟩ := ofExcept_apply_eq_ok hpathRun
  rw [get_bind_apply] at hafter
  by_cases hexists : s₀.disk.pathExists packagePath = true
  · -- already installed: retained as it is
    rw [if_pos hexists] at hafter
    obtain ⟨_, t, hretain, hpure⟩ := bind_apply_eq_ok hafter
    cases hpure
    exact ⟨hpath, rfl, Or.inl ⟨hexists, hretain⟩⟩
  · rw [if_neg hexists] at hafter
    obtain ⟨tempPackagePath, s₁, htempRun, h₁⟩ := bind_apply_eq_ok hafter
    obtain ⟨htemp, rfl⟩ := ofExcept_apply_eq_ok htempRun
    obtain ⟨archived, s₂, harchive, h₂⟩ := bind_apply_eq_ok h₁
    obtain ⟨_, s₃, hdelete, h₃⟩ := bind_apply_eq_ok h₂
    obtain ⟨_, t, hretain, hpure⟩ := bind_apply_eq_ok h₃
    cases hpure
    have harchive' := inspectErr_apply_eq_ok harchive
    obtain ⟨rfl, -, -, -⟩ := installArchive_eq_ok o harchive'
    -- the temporary directory was removed before the retention
    rw [(attempt_eq_ok (adaptExcept_apply_eq_ok hdelete)).2] at hretain
    exact ⟨hpath, rfl, Or.inr ⟨Bool.eq_false_iff.mpr hexists, tempPackagePath, s₂, htemp,
      harchive', hretain⟩⟩

/-- A successful `install` returns the package's own path, and ends by retaining it from a
state with the same `latest_installed_packages`. -/
theorem install_eq_ok {isAlphanumeric : Char → Bool} {pm : OCIPackageManager} {agentId : AgentID}
    {packageData : PackageData} {s s' : PmState} {installed : InstalledPackageData}
    (h : install o isAlphanumeric pm agentId packageData s = .ok installed s') :
    getPackagePath isAlphanumeric pm.remoteDir agentId packageData =
        .ok installed.installationPath ∧ installed.id = packageData.id ∧
      ∃ t, SameLatest s t ∧ retainPackages o pm agentId installed t = .ok () s' := by
  obtain ⟨hpath, hid, ⟨-, hretain⟩ | ⟨-, tmp, s₁, -, harchive, hretain⟩⟩ :=
    install_eq_ok_cases o h
  · exact ⟨hpath, hid, s, rfl, hretain⟩
  · have hlatest₁ : SameLatest s s₁ := by
      simpa [harchive] using
        installArchive_sameLatest o packageData tmp installed.installationPath s
    -- removing the temporary directory leaves the latest packages alone
    exact ⟨hpath, hid, ⟨s₁.disk.removeAll tmp, s₁.latestInstalledPackages,
      s₁.log ++ [.deletePath tmp]⟩, hlatest₁, hretain⟩

/-- Uninstalling removes the package's directory and everything below it. -/
theorem uninstall_eq_ok {agentId : AgentID} {package : InstalledPackageData} {s s' : PmState}
    (h : uninstall o agentId package s = .ok () s') :
    s' = ⟨s.disk.removeAll package.installationPath, s.latestInstalledPackages,
      s.log ++ [.deletePath package.installationPath]⟩ :=
  (attempt_eq_ok (adaptExcept_apply_eq_ok h)).2

/-- When no uninstall failed, the loop has removed every listed package it does not retain, and
made no directory. -/
theorem uninstallUnretained_eq_ok {agentId : AgentID} {pkgToRetain : List InstalledPackageData} :
    ∀ {installed : List InstalledPackageData} {s s' : PmState},
    uninstallUnretained o agentId pkgToRetain installed s = .ok [] s' →
    SameLatest s s' ∧ (∀ p ∈ s'.disk.dirs, p ∈ s.disk.dirs) ∧
      ∀ q ∈ installed, q ∉ pkgToRetain → q.installationPath ∉ s'.disk.dirs
  | [], s, s', h => by
    cases h
    exact ⟨rfl, fun _ hp => hp, fun q hq => absurd hq List.not_mem_nil⟩
  | pck :: rest, s, s', h => by
    unfold uninstallUnretained at h
    by_cases hkeep : pck ∈ pkgToRetain
    · rw [if_pos hkeep] at h
      obtain ⟨hlatest, hsub, hgone⟩ := uninstallUnretained_eq_ok h
      refine ⟨hlatest, hsub, fun q hq hq' => ?_⟩
      rcases List.mem_cons.mp hq with rfl | hq
      · exact absurd hkeep hq'
      · exact hgone q hq hq'
    · rw [if_neg hkeep] at h
      obtain ⟨result, t, hcapture, h₁⟩ := bind_apply_eq_ok h
      obtain ⟨errors, t', hrest, hmatch⟩ := bind_apply_eq_ok h₁
      rw [capture_apply] at hcapture
      cases hcapture
      -- a failed uninstall would have been reported
      cases hu : uninstall o agentId pck s with
      | error e s₁ =>
        rw [hu] at hmatch
        cases hmatch
      | ok u s₁ =>
        rw [hu] at hmatch hrest
        cases hmatch
        have hs₁ := uninstall_eq_ok o hu
        obtain ⟨hlatest, hsub, hgone⟩ := uninstallUnretained_eq_ok hrest
        have hsub₁ : ∀ p ∈ s₁.disk.dirs, p ∈ s.disk.dirs ∧
            ¬ pck.installationPath.components <+: p.components := by
          intro p hp
          rw [hs₁] at hp
          simpa [PkgDisk.removeAll, ← startsWith_iff] using hp
        refine ⟨by rw [hs₁] at hlatest; exact hlatest, fun p hp => (hsub₁ p (hsub p hp)).1,
          fun q hq hq' hmem => ?_⟩
        rcases List.mem_cons.mp hq with rfl | hq
        · exact (hsub₁ _ (hsub _ hmem)).2 (List.prefix_refl _)
        · exact hgone q hq hq' hmem

/-- A successful `retain_packages` makes the package the agent's latest, and removes every
package of the agent it listed but that one and the previous latest, making no directory. -/
theorem retainPackages_eq_ok {pm : OCIPackageManager} {agentId : AgentID}
    {installed : InstalledPackageData} {s s' : PmState}
    (h : retainPackages o pm agentId installed s = .ok () s') :
    s'.latestInstalledPackages.lookup agentId = some installed ∧
      (∀ p ∈ s'.disk.dirs, p ∈ s.disk.dirs) ∧
      ∃ listed, installedPackages pm s.disk agentId = .ok listed ∧
        ∀ q ∈ listed, q ∉ installed :: (s.latestInstalledPackages.lookup agentId).toList →
          q.installationPath ∉ s'.disk.dirs := by
  unfold retainPackages at h
  rw [get_bind_apply] at h
  obtain ⟨_, s₁, hset, h₁⟩ := bind_apply_eq_ok h
  cases hset
  obtain ⟨listed, s₂, hlistedRun, h₂⟩ := bind_apply_eq_ok h₁
  obtain ⟨hlisted, rfl⟩ := ofExcept_apply_eq_ok hlistedRun
  obtain ⟨errors, s₃, herrors, hcheck⟩ := bind_apply_eq_ok h₂
  -- the check returned, so no uninstall failed
  have hnil : errors = [] := by
    cases errors with
    | nil => rfl
    | cons e rest => cases hcheck
  rw [if_neg (by simp [hnil])] at hcheck
  cases hcheck
  rw [hnil] at herrors
  obtain ⟨hlatest, hsub, hgone⟩ := uninstallUnretained_eq_ok o herrors
  refine ⟨?_, hsub, listed, hlisted, hgone⟩
  rw [hlatest]
  exact AList.lookup_insert _

/-! ### What `installed_packages` finds -/

/-- A package of an agent as `installed_packages` finds it: a directory inside a directory of the
agent's `stored_packages`, whose name is the package's id. -/
def IsInstalledPackage (pm : OCIPackageManager) (d : PkgDisk) (agentId : AgentID)
    (q : InstalledPackageData) : Prop :=
  ∃ idPath ∈ d.dirs,
    idPath.parent = some (getGenericPackageLocationPath pm.remoteDir agentId installedPckLocation) ∧
    idPath.fileName = some q.id ∧ q.installationPath ∈ d.dirs ∧
    q.installationPath.parent = some idPath

theorem mem_dirEntries {d : PkgDisk} {dir : PathBuf} {entries : List PathBuf}
    (h : d.dirEntries dir = .ok entries) {p : PathBuf} :
    p ∈ entries ↔ (p ∈ d.dirs ∨ p ∈ d.files) ∧ p.parent = some dir := by
  unfold PkgDisk.dirEntries at h
  split at h
  · cases h
    simp [or_and_right]
  · cases h

theorem packagesIn_eq_ok (d : PkgDisk) (idPath : PathBuf) :
    ∃ packages, packagesIn d idPath = .ok packages := by
  unfold packagesIn
  split
  · exact ⟨[], rfl⟩
  · rename_i hdir
    split
    · exact ⟨[], rfl⟩
    · -- the entries of a directory can always be listed
      simp only [PkgDisk.dirEntries, if_pos (not_not.mp hdir)]
      exact ⟨_, rfl⟩

theorem mem_packagesIn {d : PkgDisk} {idPath : PathBuf} {packages : List InstalledPackageData}
    (h : packagesIn d idPath = .ok packages) {q : InstalledPackageData} :
    q ∈ packages ↔ idPath ∈ d.dirs ∧ idPath.fileName = some q.id ∧ q.installationPath ∈ d.dirs ∧
      q.installationPath.parent = some idPath := by
  unfold packagesIn at h
  split at h
  · rename_i hdir
    cases h
    simp [hdir]
  · rename_i hdir
    split at h
    · rename_i hname
      cases h
      simp [hname]
    · rename_i packageId hname
      obtain ⟨packageDirs, hentries, hpure⟩ := Except.bind_eq_ok.mp h
      cases hpure
      have hentries' := Except.mapError_eq_ok.mp hentries
      simp only [List.mem_map, List.mem_filter, decide_eq_true_eq, mem_dirEntries hentries']
      constructor
      · rintro ⟨p, ⟨⟨-, hparent⟩, hp⟩, rfl⟩
        exact ⟨not_not.mp hdir, hname, hp, hparent⟩
      · rintro ⟨-, hid, hp, hparent⟩
        rw [hname, Option.some.injEq] at hid
        exact ⟨q.installationPath, ⟨⟨Or.inl hp, hparent⟩, hp⟩, by rw [hid]⟩

/-- What `installed_packages` lists is exactly the agent's installed packages. -/
theorem mem_installedPackages {pm : OCIPackageManager} {d : PkgDisk} {agentId : AgentID}
    {listed : List InstalledPackageData} (h : installedPackages pm d agentId = .ok listed)
    {q : InstalledPackageData} : q ∈ listed ↔ IsInstalledPackage pm d agentId q := by
  unfold installedPackages at h
  obtain ⟨idDirs, hidDirs, h₁⟩ := Except.bind_eq_ok.mp h
  obtain ⟨perId, hperId, hflat⟩ := Except.bind_eq_ok.mp h₁
  cases hflat
  have hentries := Except.mapError_eq_ok.mp hidDirs
  rw [Except.mem_flatten_of_mapM_eq_ok hperId]
  constructor
  · rintro ⟨idPath, hid, packages, hpackages, hq⟩
    obtain ⟨hdir, hname, hp, hparent⟩ := (mem_packagesIn hpackages).mp hq
    exact ⟨idPath, hdir, ((mem_dirEntries hentries).mp hid).2, hname, hp, hparent⟩
  · rintro ⟨idPath, hdir, hidParent, hname, hp, hparent⟩
    obtain ⟨packages, hpackages⟩ := packagesIn_eq_ok d idPath
    exact ⟨idPath, (mem_dirEntries hentries).mpr ⟨Or.inl hdir, hidParent⟩, packages, hpackages,
      (mem_packagesIn hpackages).mpr ⟨hdir, hname, hp, hparent⟩⟩

/-- Removing directories never makes a package appear. -/
theorem IsInstalledPackage.mono {pm : OCIPackageManager} {d d' : PkgDisk} {agentId : AgentID}
    {q : InstalledPackageData} (hsub : ∀ p ∈ d'.dirs, p ∈ d.dirs)
    (hq : IsInstalledPackage pm d' agentId q) : IsInstalledPackage pm d agentId q := by
  obtain ⟨idPath, hid, hidParent, hname, hp, hparent⟩ := hq
  exact ⟨idPath, hsub _ hid, hidParent, hname, hsub _ hp, hparent⟩

/-- After a successful install the package is the agent's latest, and every package of the agent
left on the disk is either that one or the agent's latest before the install. -/
theorem install_retains_latest_two {isAlphanumeric : Char → Bool} {pm : OCIPackageManager}
    {agentId : AgentID} {packageData : PackageData} {s s' : PmState}
    {installed : InstalledPackageData}
    (h : install o isAlphanumeric pm agentId packageData s = .ok installed s') :
    s'.latestInstalledPackages.lookup agentId = some installed ∧
      ∀ q, IsInstalledPackage pm s'.disk agentId q →
        q = installed ∨ s.latestInstalledPackages.lookup agentId = some q := by
  obtain ⟨-, -, t, hsame, hretain⟩ := install_eq_ok o h
  obtain ⟨hlatest, hsub, listed, hlisted, hgone⟩ := retainPackages_eq_ok o hretain
  refine ⟨hlatest, fun q hq => ?_⟩
  -- the package was there when retention listed the agent's packages, and survived it
  have hlistedq : q ∈ listed := (mem_installedPackages hlisted).mpr (hq.mono hsub)
  have hretained : q ∈ installed :: (t.latestInstalledPackages.lookup agentId).toList := by
    by_contra hnot
    obtain ⟨_, _, _, _, hp, _⟩ := hq
    exact hgone q hlistedq hnot hp
  rw [hsame] at hretained
  rcases List.mem_cons.mp hretained with rfl | hprev
  · exact Or.inl rfl
  · exact Or.inr (Option.mem_toList.mp hprev)

end OCIPackageManager

end AgentControl
