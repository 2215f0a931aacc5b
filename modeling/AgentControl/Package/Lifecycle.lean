import AgentControl.Package.OciPackageManager
import AgentControl.Lib.Run

/-!
# Runs of installs

A package manager lives as long as Agent Control does, and every supervisor start and every
applied configuration installs the agent's packages through it, one `install` per package id
(`install_packages` in `sub_agent/on_host/supervisor.rs`). A run is a list of such calls, each
with what the collaborators answer to it (`installCall`).

Two runs show what the per-call guarantees of `install` lead to:

* retention keeps the agent's new package and its latest before it
  (`install_retains_latest_two`), by agent and not by package id, so an agent with three
  packages loses the first one's installation when the third is installed, although it is the
  latest installation of its id (`third_package_uninstalls_first`);
* a package whose hook failed keeps its extracted directory, and the next install of it reports
  it installed without running the hook (`failed_hook_install_reported_installed`).
-/

namespace AgentControl

open PathBuf

/-- One `install` call of a run: the agent, the package, and what the collaborators answer; the
effect is what the call returned. -/
def installCall (isAlphanumeric : Char → Bool) (pm : OCIPackageManager) (s : PmState)
    (call : AgentID × PackageData × PmOutcomes) :
    PmState × List (Except OCIPackageManagerError InstalledPackageData) :=
  let r := OCIPackageManager.install call.2.2 isAlphanumeric pm call.1 call.2.1 s
  (r.state, [r.value])

/-! ### Fixtures: one agent, packages of one repository and version -/

/-- Every collaborator succeeds. -/
def pmAllSucceed : PmOutcomes :=
  ⟨fun _ => .ok (), fun _ => .ok (), fun _ _ => .ok (), fun _ => .ok (), fun _ _ => .ok ()⟩

/-- A package manager keeping its packages under `/r`. -/
def remoteR : OCIPackageManager := ⟨parse "/r".toList⟩

/-- The sub-agent `agent`. -/
def agentX : AgentID := .subAgent "agent".toList

/-- The package `id` of repository `repo`, version `v1`, without a hook. -/
def pkgOf (id : List Char) : PackageData := ⟨id, ⟨⟨"repo".toList⟩, ⟨"v1".toList⟩, none⟩, none⟩

/-- Where the package `id` of `agent` is installed. -/
def pathOf (id : List Char) : PathBuf :=
  parse ("/r/packages/agent/stored_packages/".toList ++ id ++ "/oci_repo_v1".toList)

/-- A manager that has installed nothing, on an empty disk. -/
def emptyPm : PmState := ⟨⟨[], []⟩, ∅, []⟩

/-! ### Retention is per agent -/

/-- The agent's packages `a`, `b` and `c` installed in turn. -/
def retainRun : PmState × List (Except OCIPackageManagerError InstalledPackageData) :=
  Controller.run (installCall Char.isAlphanum remoteR) emptyPm
    [(agentX, pkgOf "a".toList, pmAllSucceed), (agentX, pkgOf "b".toList, pmAllSucceed),
      (agentX, pkgOf "c".toList, pmAllSucceed)]

/-- The three installs succeed, and the third deletes the installation the first returned, the
only one of package `a`. -/
theorem third_package_uninstalls_first :
    retainRun.2.map Except.toOption =
      [some ⟨"a".toList, pathOf "a".toList⟩, some ⟨"b".toList, pathOf "b".toList⟩,
        some ⟨"c".toList, pathOf "c".toList⟩] ∧
    retainRun.1.disk.pathExists (pathOf "a".toList) = false ∧
    retainRun.1.disk.pathExists (pathOf "b".toList) = true ∧
    retainRun.1.disk.pathExists (pathOf "c".toList) = true := by
  decide

/-- The state before the third install of `retainRun`: packages `a` and `b` installed. -/
def twoInstalled : PmState :=
  (Controller.run (installCall Char.isAlphanum remoteR) emptyPm
    [(agentX, pkgOf "a".toList, pmAllSucceed), (agentX, pkgOf "b".toList, pmAllSucceed)]).1

theorem install_retains_latest_two_at_third :
    OCIPackageManager.install pmAllSucceed Char.isAlphanum remoteR agentX (pkgOf "c".toList)
      twoInstalled = .ok ⟨"c".toList, pathOf "c".toList⟩ retainRun.1 ∧
    (retainRun.1.latestInstalledPackages.lookup agentX = some ⟨"c".toList, pathOf "c".toList⟩ ∧
      ∀ q, OCIPackageManager.IsInstalledPackage remoteR retainRun.1.disk agentX q →
        q = ⟨"c".toList, pathOf "c".toList⟩ ∨ twoInstalled.latestInstalledPackages.lookup agentX = some q) :=
  have h : OCIPackageManager.install pmAllSucceed Char.isAlphanum remoteR agentX (pkgOf "c".toList)
      twoInstalled = .ok ⟨"c".toList, pathOf "c".toList⟩ retainRun.1 := rfl
  ⟨h, OCIPackageManager.install_retains_latest_two pmAllSucceed h⟩

/-! ### A failed hook leaves an installed package -/

/-- A post-download hook. -/
def setupHook : PostDownloadHook := ⟨"/bin/setup".toList, [], []⟩

/-- The package `h`, with the hook. -/
def hookPkg : PackageData := { pkgOf "h".toList with postDownloadHook := some setupHook }

/-- Every collaborator succeeds but the hook, which exits with status 1. -/
def hookFails : PmOutcomes := { pmAllSucceed with hook := fun _ _ => .error "exit status: 1".toList }

/-- The first install of `h`, its hook failing. -/
def firstHookInstall : PmState × List (Except OCIPackageManagerError InstalledPackageData) :=
  Controller.run (installCall Char.isAlphanum remoteR) emptyPm [(agentX, hookPkg, hookFails)]

/-- Two installs of `h`: the hook fails, then everything would succeed. -/
def hookRun : PmState × List (Except OCIPackageManagerError InstalledPackageData) :=
  Controller.run (installCall Char.isAlphanum remoteR) emptyPm
    [(agentX, hookPkg, hookFails), (agentX, hookPkg, pmAllSucceed)]

/-- The first install fails in its hook and leaves the package's directory; the second returns
that directory as installed and attempts no operation at all, so the hook never succeeded. -/
theorem failed_hook_install_reported_installed :
    hookRun.2.map Except.toOption = [none, some ⟨"h".toList, pathOf "h".toList⟩] ∧
    PmOp.runHook setupHook (pathOf "h".toList) ∈ firstHookInstall.1.log ∧
    firstHookInstall.1.disk.pathExists (pathOf "h".toList) = true ∧
    hookRun.1.log = firstHookInstall.1.log := by
  decide

end AgentControl
