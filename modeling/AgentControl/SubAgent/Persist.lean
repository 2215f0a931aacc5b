import AgentControl.SubAgent.Model

/-!
# What a sub-agent persists, and what it reports

After `handle_remote_config` the stored remote configuration should say what
OpAMP was last told about its hash: a final state (`Applied` or `Failed`), the
same one. Every path that ends by applying, starting or failing to do either
goes through `report_and_persist_state`, which writes the reported state into
the stored configuration (`PersistsReport`).

One path does not: a supervisor that cannot be built is reported failed, but the
remote configuration stored just before keeps the state it arrived with.
`handleRemoteConfig_agrees_or_build_failed` proves that, for a hash that had
nothing stored and a repository that accepts every write, this is the only
disagreement; `build_failure_left_applying` shows it happening.

The same case analysis gives the other fact the sub-agent's safety rests on: a
message the parser refuses changes nothing (`handleRemoteConfig_of_parse_error`).
-/

namespace AgentControl

namespace SubAgent

variable {α ν : Type}

/-- The stored remote configuration agrees with the reports for hash `h`: one stored under that
hash holds the last state reported, and that state is final. -/
def Agrees (h : List Char) (r : SubAgentState α ν × List ConfigState) : Prop :=
  ∀ rc, r.1.remote = some rc → rc.hash = h →
    r.2.getLast? = some rc.state ∧ rc.state.isApplying = false

/-- A step that reports one final state and writes it into the stored configuration, if any. -/
def PersistsReport (st : SubAgentState α ν) (r : SubAgentState α ν × List ConfigState) : Prop :=
  ∃ s, s.isApplying = false ∧ r.2 = [s] ∧ r.1.remote = st.remote.map fun rc => { rc with state := s }

theorem PersistsReport.agrees {st : SubAgentState α ν} {r : SubAgentState α ν × List ConfigState}
    (h : PersistsReport st r) (hash : List Char) : Agrees hash r := by
  obtain ⟨s, hs, hrep, hrem⟩ := h
  intro rc hrc _
  rw [hrem] at hrc
  obtain ⟨rc₀, -, rfl⟩ := Option.map_eq_some_iff.mp hrc
  rw [hrep]
  exact ⟨rfl, hs⟩

/-- Reporting `Applying` first changes nothing about agreement once something final follows. -/
theorem agrees_applying_cons {h : List Char} {st : SubAgentState α ν} {l : List ConfigState}
    (hl : l ≠ []) (ha : Agrees h (st, l)) : Agrees h (st, .applying :: l) := by
  intro rc hrc hh
  obtain ⟨x, xs, rfl⟩ := List.exists_cons_of_ne_nil hl
  rw [List.getLast?_cons_cons]
  exact ha rc hrc hh

section Persist

variable (parse : OpampRemoteConfig → Except RemoteConfigParserError (Option (RemoteConfig ν)))
  (assembleAgent : YAMLConfig ν → Except (List Char) α) {o : SubAgentOutcomes α}

/-! ### Each helper -/

theorem reportAndPersistState_persists (hu : o.updateState = true) (st : SubAgentState α ν)
    {s : ConfigState} (hs : s.isApplying = false) :
    PersistsReport st (reportAndPersistState o st s) :=
  ⟨s, hs, rfl, by simp [reportAndPersistState, hu]⟩

theorem applyConfigToExistingSupervisor_persists (hu : o.updateState = true)
    (st : SubAgentState α ν) (effectiveAgent : α) :
    PersistsReport st (applyConfigToExistingSupervisor o st effectiveAgent) := by
  unfold applyConfigToExistingSupervisor
  split
  · exact reportAndPersistState_persists hu st rfl
  · exact reportAndPersistState_persists hu st rfl

theorem startNewSupervisorReportingConfigAndState_persists (hu : o.updateState = true)
    (st : SubAgentState α ν) (effectiveAgent : α) :
    PersistsReport st (startNewSupervisorReportingConfigAndState o st effectiveAgent) := by
  unfold startNewSupervisorReportingConfigAndState
  split
  · exact reportAndPersistState_persists hu st rfl
  · exact reportAndPersistState_persists hu st rfl

/-- A build either goes on to start the supervisor, or fails with only a report. -/
theorem buildAndStartSupervisorFromEffectiveAgent_cases (hu : o.updateState = true)
    (st : SubAgentState α ν) (effectiveAgent : α) :
    let r := buildAndStartSupervisorFromEffectiveAgent o st effectiveAgent
    PersistsReport st r ∨
      r.1.remote = st.remote ∧
        ∃ e, r.2 = [.failed ("could not build the supervisor: ".toList ++ e)] := by
  intro r
  unfold r buildAndStartSupervisorFromEffectiveAgent
  split
  · exact .inl (startNewSupervisorReportingConfigAndState_persists hu st effectiveAgent)
  · rename_i e _
    exact .inr ⟨rfl, e, rfl⟩

/-- With a remote configuration: the assembly fails with only a report, or the configuration is
stored and then the build, start or apply outcome is persisted into it, or the build fails. -/
theorem applyOrBuildAndStartSupervisor_cases (hs : o.storeRemote = true)
    (hu : o.updateState = true) (st : SubAgentState α ν) (yamlConfig : YAMLConfig ν)
    (rc : RemoteConfig ν) :
    let r := applyOrBuildAndStartSupervisor assembleAgent o st yamlConfig (some rc)
    (r.1.remote = st.remote ∧ ∃ err, r.2 = [.failed ("invalid config: ".toList ++ err)]) ∨
      PersistsReport { st with remote := some rc } r ∨
      (r.1.remote = some rc ∧
        ∃ e, r.2 = [.failed ("could not build the supervisor: ".toList ++ e)]) := by
  intro r
  unfold r applyOrBuildAndStartSupervisor
  split
  · rename_i effectiveAgent _
    simp only [hs, if_true]
    split
    · exact .inr (.inl (applyConfigToExistingSupervisor_persists hu _ effectiveAgent))
    · rcases buildAndStartSupervisorFromEffectiveAgent_cases hu
          { st with remote := some rc } effectiveAgent with hp | hb
      · exact .inr (.inl hp)
      · exact .inr (.inr hb)
  · rename_i err _
    exact .inl ⟨rfl, err, rfl⟩

/-- Without a remote configuration nothing is stored, so an empty store stays empty. -/
theorem applyOrBuildAndStartSupervisor_remote_of_none (hu : o.updateState = true)
    {st : SubAgentState α ν} (hnone : st.remote = none) (yamlConfig : YAMLConfig ν) :
    (applyOrBuildAndStartSupervisor assembleAgent o st yamlConfig none).1.remote = none := by
  have hkeep : ∀ r, PersistsReport st r → r.1.remote = none := by
    intro r hr
    obtain ⟨s, -, -, hrem⟩ := hr
    rw [hrem, hnone]
    rfl
  unfold applyOrBuildAndStartSupervisor
  split
  · rename_i effectiveAgent _
    dsimp only
    split
    · exact hkeep _ (applyConfigToExistingSupervisor_persists hu st effectiveAgent)
    · rcases buildAndStartSupervisorFromEffectiveAgent_cases hu st effectiveAgent with hp | ⟨hr, -⟩
      · exact hkeep _ hp
      · exact hr.trans hnone
  · exact hnone

/-- Reset to local leaves nothing stored, once `delete_remote` succeeds. -/
theorem resetToLocalConfig_remote (hd : o.deleteRemote = true) (hu : o.updateState = true)
    (st : SubAgentState α ν) : (resetToLocalConfig assembleAgent o st).1.remote = none := by
  unfold resetToLocalConfig
  simp only [hd, if_true]
  split
  · exact applyOrBuildAndStartSupervisor_remote_of_none assembleAgent hu rfl _
  · rfl

/-! ### The whole handler -/

/-- **Persisted and reported states agree, except after a failed build.** For a hash with
nothing stored under it and a repository that takes every write, what is stored under the
hash afterwards holds the last reported state, which is final; or the supervisor could not
be built, and the stored configuration is the parsed one, with the state it arrived with. -/
theorem handleNewRemoteConfig_agrees_or_build_failed (hs : o.storeRemote = true)
    (hu : o.updateState = true) (hd : o.deleteRemote = true) {c : OpampRemoteConfig}
    {st : SubAgentState α ν} (hfresh : ∀ rc, st.remote = some rc → rc.hash ≠ c.hash) :
    let r := handleNewRemoteConfig parse assembleAgent o c st
    Agrees c.hash r ∨ ∃ rc e, parse c = .ok (some rc) ∧ r.1.remote = some rc ∧
      r.2.getLast? = some (.failed ("could not build the supervisor: ".toList ++ e)) := by
  intro r
  -- nothing stored under the hash: agreement holds vacuously
  have hvac : ∀ l, Agrees c.hash (st, l) := fun l rc hrc hh => absurd hh (hfresh rc hrc)
  unfold r handleNewRemoteConfig
  split
  · exact .inl (hvac _)
  split
  · rename_i rc hparse
    dsimp only
    rcases applyOrBuildAndStartSupervisor_cases assembleAgent hs hu st rc.config rc with
      ⟨hrem, err, hrep⟩ | hp | ⟨hrem, e, hrep⟩
    · -- the assembly failed before anything was stored
      left
      intro rc' hrc' hh
      exact absurd hh (hfresh rc' (hrem ▸ hrc'))
    · left
      have hne :
          (applyOrBuildAndStartSupervisor assembleAgent o st rc.config (some rc)).2 ≠ [] := by
        obtain ⟨s, -, hrep, -⟩ := hp
        simp [hrep]
      exact agrees_applying_cons hne (hp.agrees c.hash)
    · right
      refine ⟨rc, e, hparse, hrem, ?_⟩
      rw [hrep]
      rfl
  · left
    intro rc hrc
    rw [resetToLocalConfig_remote assembleAgent hd hu st] at hrc
    cases hrc
  · exact .inl (hvac _)

/-- The same for `handle_remote_config`: with nothing stored under the hash, the duplicate
check does not fire. -/
theorem handleRemoteConfig_agrees_or_build_failed (hs : o.storeRemote = true)
    (hu : o.updateState = true) (hd : o.deleteRemote = true) {c : OpampRemoteConfig}
    {st : SubAgentState α ν} (hfresh : ∀ rc, st.remote = some rc → rc.hash ≠ c.hash) :
    let r := handleRemoteConfig parse assembleAgent o c st
    Agrees c.hash r ∨ ∃ rc e, parse c = .ok (some rc) ∧ r.1.remote = some rc ∧
      r.2.getLast? = some (.failed ("could not build the supervisor: ".toList ++ e)) := by
  have hnew : handleRemoteConfig parse assembleAgent o c st =
      handleNewRemoteConfig parse assembleAgent o c st := by
    unfold handleRemoteConfig
    split
    · rename_i rc hrc
      have hstored : st.remote = some rc := by
        by_cases hg : o.getRemote = true
        · rwa [if_pos hg] at hrc
        · rw [if_neg hg] at hrc
          cases hrc
      rw [if_neg (fun h => hfresh rc hstored h.1.symm)]
    · rfl
  intro r
  unfold r
  rw [hnew]
  exact handleNewRemoteConfig_agrees_or_build_failed parse assembleAgent hs hu hd hfresh

end Persist

/-! ### A supervisor that cannot be built -/

/-- A message with one agent configuration entry, arriving `Applying`. -/
def buildFailureMessage : OpampRemoteConfig where
  hash := "h".toList
  state := .applying
  signatures := none
  configMap := AList.singleton "agentConfig".toList "x".toList

/-- The sub-agent's parser with no validators, over a YAML parser that reads one key. -/
def buildFailureParse (c : OpampRemoteConfig) :
    Except RemoteConfigParserError (Option (RemoteConfig Unit)) :=
  (⟨[]⟩ : AgentRemoteConfigParser Unit).parse (fun _ _ _ => .ok ())
    (fun _ => .ok ⟨AList.singleton "key".toList ()⟩) () c

/-- Every collaborator succeeds except `build_supervisor`. -/
def buildFailureOutcomes : SubAgentOutcomes Unit where
  getRemote := true
  storeRemote := true
  deleteRemote := true
  loadLocal := true
  buildSupervisor := fun _ => .error "boom".toList
  start := .ok ()
  apply := .ok ()
  updateState := true

/-- From a sub-agent with no supervisor and nothing stored: `Failed` is the last state reported
for the hash, while the configuration stored under it stays `Applying`. -/
theorem build_failure_left_applying :
    (handleRemoteConfig buildFailureParse (fun _ => .ok ()) buildFailureOutcomes
        buildFailureMessage ⟨none, none, none⟩).1.remote.map (fun rc => (rc.hash, rc.state)) =
      some ("h".toList, .applying) ∧
    (handleRemoteConfig buildFailureParse (fun _ => .ok ()) buildFailureOutcomes
        buildFailureMessage ⟨none, none, none⟩).2 =
      [.applying, .failed "could not build the supervisor: boom".toList] := by
  decide

theorem handleRemoteConfig_agrees_or_build_failed_at_boom :
    buildFailureOutcomes.storeRemote = true ∧ buildFailureOutcomes.updateState = true ∧
    buildFailureOutcomes.deleteRemote = true ∧
    (∀ rc, (⟨none, none, none⟩ : SubAgentState Unit Unit).remote = some rc →
      rc.hash ≠ buildFailureMessage.hash) ∧
    (Agrees buildFailureMessage.hash (handleRemoteConfig buildFailureParse (fun _ => .ok ())
        buildFailureOutcomes buildFailureMessage ⟨none, none, none⟩) ∨
      ∃ rc e, buildFailureParse buildFailureMessage = .ok (some rc) ∧
        (handleRemoteConfig buildFailureParse (fun _ => .ok ()) buildFailureOutcomes
          buildFailureMessage ⟨none, none, none⟩).1.remote = some rc ∧
        (handleRemoteConfig buildFailureParse (fun _ => .ok ()) buildFailureOutcomes
          buildFailureMessage ⟨none, none, none⟩).2.getLast? =
          some (.failed ("could not build the supervisor: ".toList ++ e))) :=
  have hfresh : ∀ rc, (⟨none, none, none⟩ : SubAgentState Unit Unit).remote = some rc →
      rc.hash ≠ buildFailureMessage.hash := fun _ h => nomatch h
  ⟨rfl, rfl, rfl, hfresh,
    handleRemoteConfig_agrees_or_build_failed buildFailureParse (fun _ => .ok ()) rfl rfl rfl hfresh⟩

/-- **A message the parser refuses changes nothing**: the supervisor and the repository are
left as they were, whatever else the environment does. -/
theorem handleRemoteConfig_of_parse_error
    {parse : OpampRemoteConfig → Except RemoteConfigParserError (Option (RemoteConfig ν))}
    (assembleAgent : YAMLConfig ν → Except (List Char) α) (o : SubAgentOutcomes α)
    {c : OpampRemoteConfig} {err : RemoteConfigParserError} (h : parse c = .error err)
    (st : SubAgentState α ν) : (handleRemoteConfig parse assembleAgent o c st).1 = st := by
  have hnew : (handleNewRemoteConfig parse assembleAgent o c st).1 = st := by
    unfold handleNewRemoteConfig
    split
    · rfl
    · rw [h]
  unfold handleRemoteConfig
  split
  · split
    · rfl
    · exact hnew
  · exact hnew

end SubAgent

end AgentControl
