import AgentControl.AgentType.Variables
import AgentControl.K8s.GarbageCollector
import AgentControl.Lib.Map
import AgentControl.Package.OciPackageManager
import AgentControl.Package.Lifecycle

/-!
# The package directories an agent type can name

An on-host agent type declares packages, and its executables, files and health checks may name
the directory where a package is installed as `${nr-sub:packages.<id>.dir}`. Before the rest of
the runtime configuration is templated, `include_packages_variables` adds one such variable per
rendered package. It computes the directory as the package manager does, from the sub-agent's
`remote_dir` and `agent_id` variables, and holds it as the path's text.

The variables are read back as text and the directory is parsed again, so it is `parse_display`
of `Lib.Path` that makes the two agree: where the `remote_dir` variable holds the text of the
package manager's directory, each package's variable holds the text of the directory that a
successful `install` of the same package for the same sub-agent returns
(`lookup_includePackagesVariables_of_install`).
-/

namespace AgentControl

open PathBuf

/-- Models `AgentAttributes::VARIABLE_SUB_AGENT_ID`. -/
def variableSubAgentId : List Char := "agent_id".toList

/-- Models `AgentAttributes::VARIABLE_REMOTE_DIR`. -/
def variableRemoteDir : List Char := "remote_dir".toList

/-- Models `Display for AgentIDError`. -/
def AgentIDError.toString : AgentIDError → List Char
  | .invalidFormat => ("AgentID must contain 32 characters at most, contain lowercase " ++
      "alphanumeric characters or dashes only, start with alphabetic, and end with " ++
      "alphanumeric").toList
  | .reserved id => "AgentID \x27".toList ++ id ++ "\x27 is reserved".toList

mutual

/-- Models `Display for OCIPackageManagerError`. -/
def OCIPackageManagerError.toString : OCIPackageManagerError → List Char
  | .download message => "error attempting to download OCI artifact: ".toList ++ message
  | .install message => "error attempting to install OCI artifact: ".toList ++ message
  | .uninstall message => "error attempting to uninstall OCI artifact: ".toList ++ message
  | .extraction message =>
    "error extracting archive while installing OCI artifact: ".toList ++ message
  | .notNormalSuffix message =>
    "Package reference naming validation produces a non-normalized suffix: ".toList ++ message
  | .retainPackageErrors errors =>
    "errors removing packages: ".toList ++ '[' :: retainPackageErrorsText errors ++ [']']
  | .postDownloadHook message => "post-download hook execution failed: ".toList ++ message

/-- The errors of `Display for RetainPackageErrors`, between its brackets: each with its
package, joined by commas. -/
def retainPackageErrorsText : List (List Char × OCIPackageManagerError) → List Char
  | [] => []
  | (packageId, error) :: rest =>
    let entry := "package_id: ".toList ++ packageId ++ ", error: ".toList ++ error.toString
    match rest with
    | [] => entry
    | _ :: _ => entry ++ ", ".toList ++ retainPackageErrorsText rest

end

/-- Models `Download`. -/
structure Download where
  oci : Oci

/-- Models the rendered `Package`. -/
structure Package where
  download : Download
  postDownloadHook : Option PostDownloadHook

/-- Models `RenderedPackages`, by package id. -/
abbrev RenderedPackages := AList fun _ : List Char => Package

section Include

variable {ν : Type} (isAlphanumeric : Char → Bool) (printer : YamlPrinter ν)

/-- Models `get_sub_agent_variable`: the final value of the variable, as text. -/
def getSubAgentVariable (vars : Variables ν) (variableName : List Char) :
    Option (List Char) :=
  ((vars.lookup (Namespace.subAgent.namespacedName variableName)).bind
    Variable.getFinalValue).map (TrivialValue.toString printer)

/-- The body of the loop of `include_packages_variables`: the directory of one package, held
as the text of its path under `packages.<id>.dir`. -/
def insertPackageVariable (remoteDir : List Char) (agentId : AgentID) (acc : Variables ν)
    (entry : Σ _ : List Char, Package) : Except AgentTypeError (Variables ν) := do
  let packageData : PackageData := ⟨entry.1, entry.2.download.oci, entry.2.postDownloadHook⟩
  let path ← (getPackagePath isAlphanumeric (parse remoteDir) agentId packageData).mapError
    fun e => .renderingTemplate ("Invalid OCI reference for package ".toList ++ entry.1 ++
      ": ".toList ++ e.toString)
  pure (acc.insert (Namespace.subAgent.namespacedName ("packages.".toList ++ entry.1 ++
    ".dir".toList)) (Variable.newFinalStringVariable path.display))

/-- Models `include_packages_variables`; `isAlphanumeric` is `char::is_alphanumeric`, which
`get_package_path` reads. -/
def includePackagesVariables (vars : Variables ν) (packages : RenderedPackages) :
    Except AgentTypeError (Variables ν) :=
  -- no packages: the variables are not read at all
  if packages.entries.isEmpty then .ok vars
  else do
    let remoteDir ← (getSubAgentVariable printer vars variableRemoteDir).okOrElse
      (.renderingTemplate ("Agent variable not found ".toList ++ variableRemoteDir))
    let agentIdString ← (getSubAgentVariable printer vars variableSubAgentId).okOrElse
      (.renderingTemplate ("Agent variable not found ".toList ++ variableSubAgentId))
    let agentId ← (AgentID.tryFrom agentIdString).mapError fun e =>
      .renderingTemplate ("Invalid sub-agent ID: ".toList ++ e.toString)
    packages.entries.foldlM (insertPackageVariable isAlphanumeric remoteDir agentId) vars

/-! ### One variable per package -/

/-- Distinct packages have distinct variables. -/
theorem packageDirName_inj {id id' : List Char}
    (h : Namespace.subAgent.namespacedName ("packages.".toList ++ id ++ ".dir".toList) =
      Namespace.subAgent.namespacedName ("packages.".toList ++ id' ++ ".dir".toList)) :
    id = id' := by
  simpa [Namespace.namespacedName] using h

/-- The directory of a package, as `get_package_path` computes it: it never fails, since the
sanitized reference is always one name. -/
theorem getPackagePath_eq_ok (basePath : PathBuf) (agentId : AgentID)
    (packageData : PackageData) :
    ∃ path, getPackagePath isAlphanumeric basePath agentId packageData = .ok path := by
  obtain ⟨suffix, -, hsuffix, -⟩ := computePathSuffix_eq_ok_normal isAlphanumeric packageData
  refine ⟨((getGenericPackageLocationPath basePath agentId installedPckLocation).join
    (parse packageData.id)).join suffix, ?_⟩
  simp [getPackagePath, getGenericPackagePath, hsuffix]

/-- One turn of the loop inserts the package's directory. -/
theorem insertPackageVariable_eq_ok (remoteDir : List Char) (agentId : AgentID)
    (acc : Variables ν) (entry : Σ _ : List Char, Package) :
    ∃ path, getPackagePath isAlphanumeric (parse remoteDir) agentId
        ⟨entry.1, entry.2.download.oci, entry.2.postDownloadHook⟩ = .ok path ∧
      insertPackageVariable isAlphanumeric remoteDir agentId acc entry =
        .ok (acc.insert (Namespace.subAgent.namespacedName ("packages.".toList ++ entry.1 ++
          ".dir".toList)) (Variable.newFinalStringVariable path.display)) := by
  obtain ⟨path, hpath⟩ := getPackagePath_eq_ok isAlphanumeric (parse remoteDir) agentId
    ⟨entry.1, entry.2.download.oci, entry.2.postDownloadHook⟩
  refine ⟨path, hpath, ?_⟩
  rw [insertPackageVariable, hpath]
  rfl

/-- The loop over the packages extends the variables by one entry per package, holding the text
of its directory. -/
theorem foldlM_insertPackageVariable (remoteDir : List Char) (agentId : AgentID) :
    ∀ (entries : List (Σ _ : List Char, Package)) (acc : Variables ν),
      ∃ l : List (Σ _ : List Char, Variable ν),
        entries.foldlM (insertPackageVariable isAlphanumeric remoteDir agentId) acc =
          .ok (acc.extend l) ∧
        (∀ x ∈ l, ∃ entry ∈ entries, ∃ path, getPackagePath isAlphanumeric (parse remoteDir)
            agentId ⟨entry.1, entry.2.download.oci, entry.2.postDownloadHook⟩ = .ok path ∧
          x = ⟨Namespace.subAgent.namespacedName ("packages.".toList ++ entry.1 ++ ".dir".toList),
            Variable.newFinalStringVariable path.display⟩) ∧
        ∀ entry ∈ entries, ∃ path, getPackagePath isAlphanumeric (parse remoteDir) agentId
            ⟨entry.1, entry.2.download.oci, entry.2.postDownloadHook⟩ = .ok path ∧
          (⟨Namespace.subAgent.namespacedName ("packages.".toList ++ entry.1 ++ ".dir".toList),
            Variable.newFinalStringVariable path.display⟩ : Σ _ : List Char, Variable ν) ∈ l
  | [], acc => ⟨[], rfl, fun _ hx => absurd hx List.not_mem_nil,
      fun _ he => absurd he List.not_mem_nil⟩
  | entry :: entries, acc => by
    obtain ⟨path, hpath, hstep⟩ := insertPackageVariable_eq_ok isAlphanumeric remoteDir agentId
      acc entry
    obtain ⟨l, hfold, hfrom, hto⟩ := foldlM_insertPackageVariable remoteDir agentId entries _
    refine ⟨⟨Namespace.subAgent.namespacedName ("packages.".toList ++ entry.1 ++ ".dir".toList),
      Variable.newFinalStringVariable path.display⟩ :: l, ?_, ?_, ?_⟩
    · -- the first package is inserted first
      rw [List.foldlM_cons, hstep, Except.ok_bind, hfold]
      rfl
    · intro x hx
      rcases List.mem_cons.mp hx with rfl | hx
      · exact ⟨entry, List.mem_cons_self, path, hpath, rfl⟩
      · obtain ⟨entry', he', path', hpath', rfl⟩ := hfrom x hx
        exact ⟨entry', List.mem_cons_of_mem _ he', path', hpath', rfl⟩
    · intro entry' he'
      rcases List.mem_cons.mp he' with rfl | he'
      · exact ⟨path, hpath, List.mem_cons_self⟩
      · obtain ⟨path', hpath', hmem⟩ := hto entry' he'
        exact ⟨path', hpath', List.mem_cons_of_mem _ hmem⟩

/-- Where it reads a remote directory and a valid agent id, `include_packages_variables` is its
loop over the packages, from that directory and that id. -/
theorem includePackagesVariables_eq_foldlM {vars : Variables ν} {packages : RenderedPackages}
    {remoteDir agentIdString : List Char} {agentId : AgentID}
    (hremote : getSubAgentVariable printer vars variableRemoteDir = some remoteDir)
    (hagent : getSubAgentVariable printer vars variableSubAgentId = some agentIdString)
    (hvalid : AgentID.tryFrom agentIdString = .ok agentId) :
    includePackagesVariables isAlphanumeric printer vars packages =
      packages.entries.foldlM (insertPackageVariable isAlphanumeric remoteDir agentId) vars := by
  unfold includePackagesVariables
  split
  · -- no packages: the loop does not turn either
    rename_i hempty
    rw [List.isEmpty_iff.mp hempty]
    rfl
  · simp only [hremote, hagent, hvalid, Option.okOrElse, Except.mapError_ok, Except.ok_bind]

/-- The variable of a package holds the text of the directory that the package manager of the
sub-agent's remote directory installs the package into. -/
theorem lookup_includePackagesVariables_of_install (o : PmOutcomes) {pm : OCIPackageManager}
    {vars : Variables ν} {packages : RenderedPackages} {agentId : AgentID}
    (hremote : getSubAgentVariable printer vars variableRemoteDir = some pm.remoteDir.display)
    (hagent : getSubAgentVariable printer vars variableSubAgentId = some agentId.asStr)
    (hvalid : AgentID.tryFrom agentId.asStr = .ok agentId)
    {id : List Char} {pkg : Package} (hpkg : packages.lookup id = some pkg)
    {s s' : PmState} {installed : InstalledPackageData}
    (hinstall : OCIPackageManager.install o isAlphanumeric pm agentId
      ⟨id, pkg.download.oci, pkg.postDownloadHook⟩ s = .ok installed s') :
    ∃ vars', includePackagesVariables isAlphanumeric printer vars packages = .ok vars' ∧
      vars'.lookup (Namespace.subAgent.namespacedName ("packages.".toList ++ id ++ ".dir".toList)) =
        some (Variable.newFinalStringVariable installed.installationPath.display) := by
  obtain ⟨l, hfold, hfrom, hto⟩ := foldlM_insertPackageVariable isAlphanumeric
    pm.remoteDir.display agentId packages.entries vars
  refine ⟨vars.extend l,
    (includePackagesVariables_eq_foldlM isAlphanumeric printer hremote hagent hvalid).trans hfold, ?_⟩
  -- the directory is computed from the text of the manager's directory, which parses back to it
  rw [parse_display] at hfrom hto
  have hinstalled := (OCIPackageManager.install_eq_ok o hinstall).1
  obtain ⟨path, hpath, hmem⟩ := hto _ (AList.mem_lookup_iff.mp hpkg)
  rw [hinstalled, Except.ok.injEq] at hpath
  subst hpath
  refine AList.lookup_extend_of_forall_mem _ hmem fun v' hv' => ?_
  -- an entry at the package's key comes from the package itself
  obtain ⟨entry, hentry, path', hpath', hx⟩ := hfrom _ hv'
  obtain ⟨hkey, hv⟩ := Sigma.mk.inj hx
  have hid : id = entry.1 := packageDirName_inj hkey
  have hlookup : packages.lookup id = some entry.2 := by
    rw [hid]
    exact AList.mem_lookup_iff.mpr hentry
  rw [hpkg, Option.some_inj] at hlookup
  rw [← hid, ← hlookup, hinstalled, Except.ok.injEq] at hpath'
  rw [eq_of_heq hv, hpath']

end Include

/-! ### The variables of one package of the sub-agent `agent` -/

/-- A printer that prints nothing; the variables below are all strings. -/
def stringsOnlyPrinter : YamlPrinter Unit := ⟨fun _ => [], fun _ => []⟩

/-- The sub-agent variables of `agent`, whose remote directory is `/r`. -/
def agentVars : Variables Unit :=
  ((∅ : Variables Unit).insert "nr-sub:remote_dir".toList
    (Variable.newFinalStringVariable "/r".toList)).insert "nr-sub:agent_id".toList
    (Variable.newFinalStringVariable "agent".toList)

/-- The package `a` of repository `repo`, version `v1`, without a hook. -/
def packageA : Package := ⟨⟨⟨⟨"repo".toList⟩, ⟨"v1".toList⟩, none⟩⟩, none⟩

/-- The rendered packages: `a` alone. -/
def packagesA : RenderedPackages := (∅ : RenderedPackages).insert "a".toList packageA

/-- A sub-agent `agent` under `/r` with the package `a`: its variable names the directory of
`pathOf` in `Package.Lifecycle`, where `install` puts it. -/
example : ((includePackagesVariables Char.isAlphanum stringsOnlyPrinter agentVars packagesA).map
      fun vars => (vars.lookup "nr-sub:packages.a.dir".toList).bind Variable.getFinalValue) =
    .ok (some (.string "/r/packages/agent/stored_packages/a/oci_repo_v1".toList)) := by
  rfl

theorem lookup_includePackagesVariables_of_install_at_a :
    getSubAgentVariable stringsOnlyPrinter agentVars variableRemoteDir = some remoteR.remoteDir.display ∧
    getSubAgentVariable stringsOnlyPrinter agentVars variableSubAgentId = some agentX.asStr ∧
    AgentID.tryFrom agentX.asStr = .ok agentX ∧ packagesA.lookup "a".toList = some packageA ∧
    OCIPackageManager.install pmAllSucceed Char.isAlphanum remoteR agentX
      ⟨"a".toList, packageA.download.oci, packageA.postDownloadHook⟩ emptyPm =
      .ok ⟨"a".toList, pathOf "a".toList⟩ (OCIPackageManager.install pmAllSucceed Char.isAlphanum
        remoteR agentX (pkgOf "a".toList) emptyPm).state ∧
    ∃ vars', includePackagesVariables Char.isAlphanum stringsOnlyPrinter agentVars packagesA = .ok vars' ∧
      vars'.lookup (Namespace.subAgent.namespacedName ("packages.".toList ++ "a".toList ++ ".dir".toList)) =
        some (Variable.newFinalStringVariable (pathOf "a".toList).display) :=
  have hremote : getSubAgentVariable stringsOnlyPrinter agentVars variableRemoteDir =
      some remoteR.remoteDir.display := rfl
  have hagent : getSubAgentVariable stringsOnlyPrinter agentVars variableSubAgentId =
      some agentX.asStr := rfl
  have hvalid : AgentID.tryFrom agentX.asStr = .ok agentX := rfl
  have hpkg : packagesA.lookup "a".toList = some packageA := rfl
  have hinstall : OCIPackageManager.install pmAllSucceed Char.isAlphanum remoteR agentX
      ⟨"a".toList, packageA.download.oci, packageA.postDownloadHook⟩ emptyPm =
      .ok ⟨"a".toList, pathOf "a".toList⟩ (OCIPackageManager.install pmAllSucceed Char.isAlphanum
        remoteR agentX (pkgOf "a".toList) emptyPm).state := rfl
  ⟨hremote, hagent, hvalid, hpkg, hinstall, lookup_includePackagesVariables_of_install Char.isAlphanum
    stringsOnlyPrinter pmAllSucceed hremote hagent hvalid hpkg hinstall⟩

end AgentControl
