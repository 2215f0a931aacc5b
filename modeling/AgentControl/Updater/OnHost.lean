import AgentControl.Updater.BackoffGate
import AgentControl.Package.Manager
import AgentControl.Control.Model

/-!
# The on-host self-update

`OnHostACUpdater` (`agent_control/version_updater/on_host.rs`) upgrades Agent Control to the
`version` of a dynamic configuration: it installs that version's package, verifies the new
binary, replaces itself with it and asks the event loop to restart. A `BackoffGate` keyed by the
target version throttles attempts at an upgrade that keeps failing. `retry`, driven by a
heartbeat of `process_events`, re-drives the upgrade to the version the gate tracks.

A run of the updater is a list of calls, `update` or `retry`, each carrying the clock readings,
the jitter draws and the answers of the collaborators it meets (`UpdaterCall`). Its effects are
the calls to the package manager's `install` and the restart requests (`UpdaterEffect`).
`AGENT_CONTROL_VERSION`, fixed at build time, is the parameter `agentControlVersion`.

The gate is clear, or tracks the version of the last `update` whose configuration had one
(`GateTracks`); every call keeps this (`updaterStep_tracks`), so every install targets that
version (`install_targets_last_requested`), and after an `update` to the running version
nothing is installed until an `update` asks for another one
(`no_install_after_running_version`). An `update` without a version leaves the gate as it is,
so a later `retry` installs the version an earlier configuration asked for
(`retry_installs_after_unset_version`).
-/

namespace AgentControl

/-- `AGENT_CONTROL_BIN` on unix targets. -/
def agentControlBin : List Char := "newrelic-agent-control".toList

/-- `AGENT_CONTROL_BIN_PACKAGE_ID`. -/
def agentControlBinPackageId : List Char := "agent_control_bin".toList

/-- Models `UpdaterError`. -/
inductive UpdaterError where
  | updateFailed (message : List Char)
  | updateInCooldown (version : List Char) (reason : SuppressionReason)
  deriving DecidableEq, Repr

/-- What the collaborators of one upgrade attempt answer: the package manager's `install`, the
verification of the new binary, its self-replacement and the publication of the restart
request. -/
structure UpgradeOutcomes where
  install : AgentID → PackageData → Except (List Char) InstalledPackageData
  verify : PathBuf → Except (List Char) Unit
  selfReplace : PathBuf → Except (List Char) Unit
  publish : Except (List Char) Unit

/-- What one call of the updater meets: the gate's clock and jitter, and the collaborators. -/
structure UpdateEnv where
  gate : GateEnv
  outcomes : UpgradeOutcomes

/-- What the updater does to the outside world. -/
inductive UpdaterEffect where
  /-- A call of the package manager's `install`. -/
  | install (agentId : AgentID) (packageData : PackageData)
  /-- `SelfUpdateRestartRequested`, published to the event loop. -/
  | restartRequested
  deriving DecidableEq

/-- Models `OnHostACUpdater`, by the fields its methods read; the gate's state is passed along. -/
structure OnHostACUpdater where
  acRemoteUpdateEnabled : Bool
  repository : Repository
  pubKeyUrl : List Char
  policy : BackoffPolicy

namespace OnHostACUpdater

variable (u : OnHostACUpdater)

/-- Models `get_package_data`. -/
def getPackageData (newVersion : Version) : PackageData :=
  ⟨agentControlBinPackageId, ⟨u.repository, newVersion, some u.pubKeyUrl⟩, none⟩

/-- Models `try_upgrade`: its effects and its result. The package manager's `install` is always
called; the restart request is out exactly when its publication, the last step, succeeded. -/
def tryUpgrade (o : UpgradeOutcomes) (newVersion : Version) :
    List UpdaterEffect × Except UpdaterError Unit :=
  let packageData := u.getPackageData newVersion
  let result : Except UpdaterError Unit := do
    let installed ← (o.install .agentControl packageData).mapError fun e =>
      .updateFailed ("installing new Agent Control binary: ".toList ++ e)
    let newBinaryPath := installed.installationPath.join (PathBuf.parse agentControlBin)
    (o.verify newBinaryPath).mapError fun e =>
      .updateFailed ("verifying new Agent Control binary: ".toList ++ e)
    (o.selfReplace newBinaryPath).mapError fun e =>
      .updateFailed ("self replacing Agent Control binary: ".toList ++ e)
    o.publish.mapError fun e => .updateFailed ("publishing stop request: ".toList ++ e)
  (.install .agentControl packageData :: (match result with
    | .ok () => [.restartRequested]
    | .error _ => []), result)

/-- Models `suppressed_error`, which reads nothing of the updater but its logger. -/
def suppressedError (newVersion : Version) (suppression : SuppressionReason) : UpdaterError :=
  .updateInCooldown newVersion.text suppression

variable (agentControlVersion : List Char) {ι τ : Type}

/-- Models `update`: the gate after it, its effects and its result. -/
def update (env : UpdateEnv) (config : AgentControlDynamicConfig ι τ Version)
    (gate : GateState Version) : GateState Version × List UpdaterEffect × Except UpdaterError Unit :=
  if !u.acRemoteUpdateEnabled then (gate, [], .ok ())
  else match config.version with
    | none => (gate, [], .ok ())
    | some newVersion =>
      if newVersion.text = agentControlVersion then (BackoffGate.reset gate, [], .ok ())
      else
        let r := BackoffGate.guarded u.policy env.gate newVersion
          (u.tryUpgrade env.outcomes newVersion) gate
        (r.1, r.2.1, match r.2.2 with
          | .ok result => result
          | .error suppression => .error (suppressedError newVersion suppression))

/-- Models `retry`: an `update` to the version the gate tracks, the configuration's other fields
at their defaults. -/
def retry (env : UpdateEnv) (gate : GateState Version) :
    GateState Version × List UpdaterEffect × Except UpdaterError Unit :=
  let version := BackoffGate.currentKey gate
  if version.isSome then
    u.update agentControlVersion env (⟨∅, version⟩ : AgentControlDynamicConfig ι τ Version) gate
  else (gate, [], .ok ())

end OnHostACUpdater

/-- A call the event loop makes on the updater, with what the environment answers to it. -/
inductive UpdaterCall (ι τ : Type) where
  | update (config : AgentControlDynamicConfig ι τ Version) (env : UpdateEnv)
  | retry (env : UpdateEnv)

/-- The version a call asks for: that of an `update` whose configuration has one. -/
def UpdaterCall.requested {ι τ : Type} : UpdaterCall ι τ → Option Version
  | .update config _ => config.version
  | .retry _ => none

/-- What the environment answers to a call. -/
def UpdaterCall.env {ι τ : Type} : UpdaterCall ι τ → UpdateEnv
  | .update _ env => env
  | .retry env => env

/-- The version the last `update` with a version asked for, after the calls. -/
def lastRequested {ι τ : Type} (requested : Option Version) (calls : List (UpdaterCall ι τ)) :
    Option Version :=
  calls.foldl (fun r c => c.requested.or r) requested

namespace OnHostACUpdater

variable (u : OnHostACUpdater) (agentControlVersion : List Char) {ι τ : Type}

/-- One call of a run: the gate after it, and its effects. -/
def updaterStep (gate : GateState Version) : UpdaterCall ι τ → GateState Version × List UpdaterEffect
  | .update config env =>
    let r := u.update agentControlVersion env config gate
    (r.1, r.2.1)
  | .retry env =>
    let r := @retry u agentControlVersion ι τ env gate
    (r.1, r.2.1)

/-! ### What one call does -/

/-- An upgrade attempt calls `install` for Agent Control with its version's package, and
nothing else. -/
theorem mem_tryUpgrade_install {o : UpgradeOutcomes} {v : Version} {a : AgentID} {p : PackageData}
    (h : UpdaterEffect.install a p ∈ (u.tryUpgrade o v).1) :
    a = .agentControl ∧ p = u.getPackageData v := by
  simp only [tryUpgrade, List.mem_cons] at h
  rcases h with h | h
  · cases h
    exact ⟨rfl, rfl⟩
  · split at h <;> simp at h

section Update

variable (env : UpdateEnv) {config : AgentControlDynamicConfig ι τ Version} (gate : GateState Version)

theorem update_of_disabled (h : u.acRemoteUpdateEnabled = false) :
    u.update agentControlVersion env config gate = (gate, [], .ok ()) := by
  simp [update, h]

theorem update_of_version_none (h : config.version = none) :
    u.update agentControlVersion env config gate = (gate, [], .ok ()) := by
  cases henabled : u.acRemoteUpdateEnabled <;> simp [update, henabled, h]

/-- An `update` to the running version clears the gate. -/
theorem update_of_running {v : Version} (henabled : u.acRemoteUpdateEnabled = true)
    (hv : config.version = some v) (hrun : v.text = agentControlVersion) :
    u.update agentControlVersion env config gate = (default, [], .ok ()) := by
  simp [update, henabled, hv, hrun, BackoffGate.reset]

/-- An `update` to another version leaves the gate clear or on that version, and installs
only that version. -/
theorem update_of_other {v : Version} (henabled : u.acRemoteUpdateEnabled = true)
    (hv : config.version = some v) (hother : v.text ≠ agentControlVersion) :
    ((u.update agentControlVersion env config gate).1.key = none ∨
      (u.update agentControlVersion env config gate).1.key = some v) ∧
    ∀ a p, UpdaterEffect.install a p ∈ (u.update agentControlVersion env config gate).2.1 →
      p.oci.version = v := by
  have hgate : (u.update agentControlVersion env config gate).1 =
      (BackoffGate.guarded u.policy env.gate v (u.tryUpgrade env.outcomes v) gate).1 := by
    simp only [update, henabled, hv, hother, Bool.not_true, Bool.false_eq_true, if_false]
  have heffects : (u.update agentControlVersion env config gate).2.1 =
      (BackoffGate.guarded u.policy env.gate v (u.tryUpgrade env.outcomes v) gate).2.1 := by
    simp only [update, henabled, hv, hother, Bool.not_true, Bool.false_eq_true, if_false]
  rw [hgate, heffects]
  refine ⟨BackoffGate.guarded_key u.policy _ v _ gate, fun a p hp => ?_⟩
  -- the attempt has the upgrade's effects or none
  rcases BackoffGate.guarded_effects u.policy env.gate v (u.tryUpgrade env.outcomes v) gate
    with heff | heff
  · rw [heff] at hp
    rw [(u.mem_tryUpgrade_install hp).2]
    rfl
  · rw [heff] at hp
    exact absurd hp List.not_mem_nil

theorem retry_of_key_none (h : gate.key = none) :
    @retry u agentControlVersion ι τ env gate = (gate, [], .ok ()) := by
  simp [retry, BackoffGate.currentKey, h]

/-- A `retry` is an `update` to the version the gate tracks. -/
theorem retry_of_key_some {k : Version} (h : gate.key = some k) :
    @retry u agentControlVersion ι τ env gate =
      u.update agentControlVersion env
        (⟨∅, some k⟩ : AgentControlDynamicConfig ι τ Version) gate := by
  simp [retry, BackoffGate.currentKey, h]

end Update

/-! ### Along a run -/

/-- The gate is clear, or remote update is on and the gate tracks the version `requested`, which
is not the running one. -/
def GateTracks (requested : Option Version) (gate : GateState Version) : Prop :=
  gate.key = none ∨
    (u.acRemoteUpdateEnabled = true ∧ gate.key = requested ∧
      ∀ v, requested = some v → v.text ≠ agentControlVersion)

/-- An `update` to another version than the running one, with remote update on, leaves the gate
tracking that version, and installs only it. -/
theorem update_tracks_of_other (env : UpdateEnv) {config : AgentControlDynamicConfig ι τ Version}
    (gate : GateState Version) {v : Version} (henabled : u.acRemoteUpdateEnabled = true)
    (hv : config.version = some v) (hother : v.text ≠ agentControlVersion) :
    u.GateTracks agentControlVersion (some v) (u.update agentControlVersion env config gate).1 ∧
    ∀ a p, UpdaterEffect.install a p ∈ (u.update agentControlVersion env config gate).2.1 →
      some v = some p.oci.version := by
  obtain ⟨hkey, hinstall⟩ := u.update_of_other agentControlVersion env gate henabled hv hother
  refine ⟨?_, fun a p hp => congrArg some (hinstall a p hp).symm⟩
  rcases hkey with hkey | hkey
  · exact Or.inl hkey
  · refine Or.inr ⟨henabled, hkey, fun w hw => ?_⟩
    cases hw
    exact hother

/-- The step lemma: a call keeps the gate on the version last asked for, and installs only that
version. -/
theorem updaterStep_tracks {requested : Option Version} {gate : GateState Version}
    (hg : u.GateTracks agentControlVersion requested gate) (c : UpdaterCall ι τ) :
    u.GateTracks agentControlVersion (c.requested.or requested)
        (u.updaterStep agentControlVersion gate c).1 ∧
    ∀ a p, UpdaterEffect.install a p ∈ (u.updaterStep agentControlVersion gate c).2 →
      c.requested.or requested = some p.oci.version := by
  cases c with
  | update config env =>
    cases henabled : u.acRemoteUpdateEnabled with
    | false =>
      -- the gate is never used, so it stays clear
      have hclear : gate.key = none := hg.resolve_right fun h => absurd h.1 (by simp [henabled])
      simp [updaterStep, u.update_of_disabled agentControlVersion env gate henabled, GateTracks,
        hclear]
    | true =>
      cases hv : config.version with
      | none =>
        simpa [updaterStep, UpdaterCall.requested, hv,
          u.update_of_version_none agentControlVersion env gate hv] using hg
      | some v =>
        by_cases hrun : v.text = agentControlVersion
        · simp [updaterStep, u.update_of_running agentControlVersion env gate henabled hv hrun,
            GateTracks]
        · simp only [updaterStep, UpdaterCall.requested, hv, Option.some_or]
          exact u.update_tracks_of_other agentControlVersion env gate henabled hv hrun
  | retry env =>
    -- a retry asks for nothing new: it re-drives the version the gate tracks
    simp only [UpdaterCall.requested, Option.none_or]
    cases hkey : gate.key with
    | none =>
      simp only [updaterStep, u.retry_of_key_none agentControlVersion env gate hkey]
      exact ⟨hg, fun a p hp => absurd hp List.not_mem_nil⟩
    | some k =>
      obtain ⟨henabled, hreq, hne⟩ := hg.resolve_left (by simp [hkey])
      rw [hkey] at hreq
      have hk : k.text ≠ agentControlVersion := hne k hreq.symm
      simp only [updaterStep, u.retry_of_key_some agentControlVersion env gate hkey, ← hreq]
      exact u.update_tracks_of_other agentControlVersion env gate henabled rfl hk

/-- The run lemma: from a gate tracking `requested`, a run leaves the gate tracking the version
the last `update` with a version asked for. -/
theorem run_tracks : ∀ (calls : List (UpdaterCall ι τ)) {requested : Option Version}
    {gate : GateState Version}, u.GateTracks agentControlVersion requested gate →
    u.GateTracks agentControlVersion (lastRequested requested calls)
      (Controller.run (u.updaterStep agentControlVersion) gate calls).1
  | [], _, _, hg => hg
  | c :: calls, _, _, hg => run_tracks calls (u.updaterStep_tracks agentControlVersion hg c).1

/-- Every install of a run from a fresh gate targets the version the last `update` with a version
asked for, the installing call included. -/
theorem install_targets_last_requested (calls : List (UpdaterCall ι τ)) (c : UpdaterCall ι τ)
    {a : AgentID} {p : PackageData}
    (h : UpdaterEffect.install a p ∈ (u.updaterStep agentControlVersion
      (Controller.run (u.updaterStep agentControlVersion) default calls).1 c).2) :
    lastRequested none (calls ++ [c]) = some p.oci.version := by
  have hg := u.run_tracks agentControlVersion calls
    (Or.inl rfl : u.GateTracks agentControlVersion none default)
  rw [lastRequested, List.foldl_append]
  exact (u.updaterStep_tracks agentControlVersion hg c).2 a p h

/-- A call that asks for no version but the running one leaves a clear gate clear, and does
nothing. -/
theorem updaterStep_of_clear {gate : GateState Version} (hclear : gate.key = none)
    {c : UpdaterCall ι τ} (hc : ∀ v, c.requested = some v → v.text = agentControlVersion) :
    (u.updaterStep agentControlVersion gate c).1.key = none ∧
      (u.updaterStep agentControlVersion gate c).2 = [] := by
  cases c with
  | update config env =>
    cases henabled : u.acRemoteUpdateEnabled with
    | false =>
      simp [updaterStep, u.update_of_disabled agentControlVersion env gate henabled, hclear]
    | true =>
      cases hv : config.version with
      | none =>
        simp [updaterStep, u.update_of_version_none agentControlVersion env gate hv, hclear]
      | some v =>
        simp [updaterStep, u.update_of_running agentControlVersion env gate henabled hv (hc v hv)]
  | retry env =>
    simp [updaterStep, u.retry_of_key_none agentControlVersion env gate hclear, hclear]

theorem run_of_clear : ∀ (calls : List (UpdaterCall ι τ)) {gate : GateState Version},
    gate.key = none → (∀ c ∈ calls, ∀ v, c.requested = some v → v.text = agentControlVersion) →
    (Controller.run (u.updaterStep agentControlVersion) gate calls).2 = []
  | [], _, _, _ => rfl
  | c :: calls, _, hclear, hcalls => by
    obtain ⟨hclear', heff⟩ :=
      u.updaterStep_of_clear agentControlVersion hclear (hcalls c List.mem_cons_self)
    rw [Controller.run_cons, heff, List.nil_append]
    exact run_of_clear calls hclear' fun c' hc' => hcalls c' (List.mem_cons_of_mem _ hc')

/-- After an `update` to the running version, with remote update on, nothing is installed until
an `update` asks for another version, whatever the gate was before. -/
theorem no_install_after_running_version (gate : GateState Version)
    (config : AgentControlDynamicConfig ι τ Version) (env : UpdateEnv)
    (henabled : u.acRemoteUpdateEnabled = true) {v : Version} (hv : config.version = some v)
    (hrun : v.text = agentControlVersion) (calls : List (UpdaterCall ι τ))
    (hcalls : ∀ c ∈ calls, ∀ w, c.requested = some w → w.text = agentControlVersion) :
    (Controller.run (u.updaterStep agentControlVersion) gate
      (.update config env :: calls)).2 = [] := by
  have hstep : u.updaterStep agentControlVersion gate (.update config env) = (default, []) := by
    simp [updaterStep, u.update_of_running agentControlVersion env gate henabled hv hrun]
  rw [Controller.run_cons, hstep, List.nil_append]
  exact u.run_of_clear agentControlVersion calls rfl hcalls

end OnHostACUpdater

/-! ### An update without a version leaves the upgrade pending -/

/-- The version the running binary was built as. -/
def runningVersion : List Char := "1.0.0".toList

/-- The version a configuration asks for. -/
def targetVersion : Version := ⟨"2.0.0".toList⟩

/-- An updater with remote update on, backing off 30 ticks after a first failure. -/
def selfUpdater : OnHostACUpdater :=
  ⟨true, ⟨"newrelic/agent-control".toList⟩, "public-key".toList, ⟨5, by decide, 30, 600, false⟩⟩

/-- A registry that is down: every install fails. -/
def registryDown : UpgradeOutcomes :=
  ⟨fun _ _ => .error "registry unavailable".toList, fun _ => .ok (), fun _ => .ok (), .ok ()⟩

/-- A call at tick `t`, the registry down. -/
def registryDownAt (t : Nat) : UpdateEnv := ⟨⟨t, t, id⟩, registryDown⟩

/-- A configuration asks for the target version; the install fails. -/
def requestTarget : UpdaterCall Unit Unit := .update ⟨∅, some targetVersion⟩ (registryDownAt 0)

/-- The next configuration has no version. -/
def unsetVersion : UpdaterCall Unit Unit := .update ⟨∅, none⟩ (registryDownAt 1)

/-- The heartbeat, once the backoff window has elapsed. -/
def retryLater : UpdaterCall Unit Unit := .retry (registryDownAt 100)

/-- After a configuration without a version, the heartbeat's `retry` installs the version the
configuration before asked for. -/
theorem retry_installs_after_unset_version :
    (Controller.run (selfUpdater.updaterStep runningVersion) default [requestTarget, unsetVersion]).2 =
      [.install .agentControl (selfUpdater.getPackageData targetVersion)] ∧
    (selfUpdater.updaterStep runningVersion
      (Controller.run (selfUpdater.updaterStep runningVersion) default
        [requestTarget, unsetVersion]).1 retryLater).2 =
      [.install .agentControl (selfUpdater.getPackageData targetVersion)] := by
  decide

theorem install_targets_last_requested_at_retryLater :
    UpdaterEffect.install .agentControl (selfUpdater.getPackageData targetVersion) ∈
      (selfUpdater.updaterStep runningVersion
        (Controller.run (selfUpdater.updaterStep runningVersion) default
          [requestTarget, unsetVersion]).1 retryLater).2 ∧
    lastRequested none ([requestTarget, unsetVersion] ++ [retryLater]) =
      some (selfUpdater.getPackageData targetVersion).oci.version :=
  have h : UpdaterEffect.install .agentControl (selfUpdater.getPackageData targetVersion) ∈
      (selfUpdater.updaterStep runningVersion
        (Controller.run (selfUpdater.updaterStep runningVersion) default
          [requestTarget, unsetVersion]).1 retryLater).2 := by
    decide
  ⟨h, OnHostACUpdater.install_targets_last_requested selfUpdater runningVersion _ _ h⟩

/-- A configuration that asks for the running version. -/
def requestRunning : AgentControlDynamicConfig Unit Unit Version := ⟨∅, some ⟨runningVersion⟩⟩

theorem no_install_after_running_version_at_retryLater :
    selfUpdater.acRemoteUpdateEnabled = true ∧ requestRunning.version = some ⟨runningVersion⟩ ∧
    (⟨runningVersion⟩ : Version).text = runningVersion ∧
    (∀ c ∈ [retryLater], ∀ w, c.requested = some w → w.text = runningVersion) ∧
    (Controller.run (selfUpdater.updaterStep runningVersion) default
      (.update requestRunning (registryDownAt 0) :: [retryLater])).2 = [] :=
  have hcalls : ∀ c ∈ [retryLater], ∀ w, c.requested = some w → w.text = runningVersion := by
    intro c hc w hw
    rw [List.mem_singleton.mp hc] at hw
    cases hw
  ⟨rfl, rfl, rfl, hcalls, OnHostACUpdater.no_install_after_running_version selfUpdater runningVersion
    default requestRunning (registryDownAt 0) rfl rfl rfl [retryLater] hcalls⟩

end AgentControl
