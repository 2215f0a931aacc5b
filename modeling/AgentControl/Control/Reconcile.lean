import AgentControl.Control.Model

/-!
# The running sub-agents and the configuration they are diffed against

`apply_remote_config_agents` walks the new configuration's agents (retain,
recreate or create each one), then the agents the old configuration has and the
new one drops (stop and remove each one). Whatever the builder, `stop_and_remove`
and the cleaner do, every sub-agent still running afterwards is configured in the
*new* configuration with the agent type it assigns, provided every sub-agent
running before was configured in the old one: `applyRemoteConfigAgents_consistent`.
The argument goes id by id: each loop touches an id only at the entry with that
id, and the ids of both loops are duplicate-free.

`process_events` replaces `current_dynamic_config` only when the whole handling
succeeded. When the agents were applied and something failed afterwards (one of
the agents, or updating the stored state, or a report), the running sub-agents
follow the new configuration while `current_dynamic_config` keeps the old one.
`processRemoteConfig_consistent_or_drift` says that this is the only way the two
come apart, and `processRemoteConfig_consistent_of_no_drift` carries the invariant
along every run in which it does not happen. The two events at the end of the
module show that it does happen, and that a sub-agent then keeps running after a
configuration drops it.
-/

namespace AgentControl

variable {ι τ ϑ ν : Type} [DecidableEq ι]

/-- Every running sub-agent is configured in `agents`, with the agent type it runs. -/
def Consistent (running : StartedSubAgents ι τ) (agents : AList (fun _ : ι => SubAgentConfig τ)) :
    Prop :=
  ∀ id t, running.agents.lookup id = some t → agents.lookup id = some ⟨t⟩

theorem mem_subAgentsDifference {old new : AList (fun _ : ι => SubAgentConfig τ)}
    {e : Sigma fun _ : ι => SubAgentConfig τ} :
    e ∈ subAgentsDifference old new ↔ e ∈ old.entries ∧ e.1 ∉ new := by
  simp [subAgentsDifference]

section Agents

variable (o : Outcomes ι τ)

/-! ### One agent at a time -/

theorem buildAndRunSubAgent_lookup_ne {identity : AgentIdentity ι τ}
    {running : StartedSubAgents ι τ} {j : ι} (h : j ≠ identity.id) :
    (buildAndRunSubAgent o identity running).1.agents.lookup j = running.agents.lookup j := by
  unfold buildAndRunSubAgent
  split <;> simp [h]

/-- After a build, the identity's id runs its agent type, or whatever it ran before. -/
theorem buildAndRunSubAgent_lookup_self (identity : AgentIdentity ι τ)
    {running : StartedSubAgents ι τ} {t : τ}
    (h : (buildAndRunSubAgent o identity running).1.agents.lookup identity.id = some t) :
    t = identity.agentTypeId ∨ running.agents.lookup identity.id = some t := by
  unfold buildAndRunSubAgent at h
  split at h
  · simp only [StartedSubAgents.lookup_insert_self, Option.some.injEq] at h
    exact .inl h.symm
  · exact .inr h

theorem recreateSubAgent_lookup_ne {identity : AgentIdentity ι τ}
    {running : StartedSubAgents ι τ} {j : ι} (h : j ≠ identity.id) :
    (recreateSubAgent o identity running).1.agents.lookup j = running.agents.lookup j := by
  unfold recreateSubAgent
  split
  · rfl
  · rename_i running' hs
    rw [buildAndRunSubAgent_lookup_ne o h]
    exact (StartedSubAgents.stopAndRemove_eq_ok hs).2 j h

/-- After a recreation, the identity's id runs its agent type or nothing: the old sub-agent is
gone either way. -/
theorem recreateSubAgent_lookup_self (identity : AgentIdentity ι τ)
    {running : StartedSubAgents ι τ} {t : τ}
    (h : (recreateSubAgent o identity running).1.agents.lookup identity.id = some t) :
    t = identity.agentTypeId := by
  unfold recreateSubAgent at h
  split at h
  · -- `stop_and_remove` failed: nothing was running under the id
    rename_i e hs
    rw [StartedSubAgents.stopAndRemove_eq_error hs] at h
    cases h
  · rename_i running' hs
    rcases buildAndRunSubAgent_lookup_self o identity h with ht | ht
    · exact ht
    · rw [(StartedSubAgents.stopAndRemove_eq_ok hs).1] at ht
      cases ht

/-- The cleaner's outcome only adds an error: the sub-agents are those `stop_and_remove` left. -/
theorem removeAgent_fst (acc : StartedSubAgents ι τ × List (ι × SubAgentError ι))
    (e : Sigma fun _ : ι => SubAgentConfig τ) :
    (removeAgent o acc e).1 = match acc.1.stopAndRemove e.1 with
      | .ok running => running
      | .error _ => acc.1 := by
  unfold removeAgent
  cases acc.1.stopAndRemove e.1 <;> cases o.clean e.1 <;> rfl

theorem removeAgent_lookup_ne {acc : StartedSubAgents ι τ × List (ι × SubAgentError ι)}
    {e : Sigma fun _ : ι => SubAgentConfig τ} {j : ι} (h : j ≠ e.1) :
    (removeAgent o acc e).1.agents.lookup j = acc.1.agents.lookup j := by
  rw [removeAgent_fst]
  cases hs : acc.1.stopAndRemove e.1 with
  | error err => rfl
  | ok running => exact (StartedSubAgents.stopAndRemove_eq_ok hs).2 j h

theorem removeAgent_lookup_self (acc : StartedSubAgents ι τ × List (ι × SubAgentError ι))
    (e : Sigma fun _ : ι => SubAgentConfig τ) :
    (removeAgent o acc e).1.agents.lookup e.1 = none := by
  rw [removeAgent_fst]
  cases hs : acc.1.stopAndRemove e.1 with
  | error err => exact StartedSubAgents.stopAndRemove_eq_error hs
  | ok running => exact (StartedSubAgents.stopAndRemove_eq_ok hs).1

variable [DecidableEq τ]

theorem reconcileAgent_lookup_ne {current : AList (fun _ : ι => SubAgentConfig τ)}
    {e : Sigma fun _ : ι => SubAgentConfig τ} {running : StartedSubAgents ι τ} {j : ι}
    (h : j ≠ e.1) :
    (reconcileAgent o current e running).1.agents.lookup j = running.agents.lookup j := by
  unfold reconcileAgent
  split
  · split
    · rfl
    · exact recreateSubAgent_lookup_ne o h
  · exact buildAndRunSubAgent_lookup_ne o h

/-- After reconciling an entry, its id runs the configured agent type or nothing, provided
what ran under the id before was configured in `current`. -/
theorem reconcileAgent_lookup_self {current : AList (fun _ : ι => SubAgentConfig τ)}
    {e : Sigma fun _ : ι => SubAgentConfig τ} {running : StartedSubAgents ι τ}
    (hc : ∀ t, running.agents.lookup e.1 = some t → current.lookup e.1 = some ⟨t⟩) {t : τ}
    (h : (reconcileAgent o current e running).1.agents.lookup e.1 = some t) :
    t = e.2.agentType := by
  unfold reconcileAgent at h
  dsimp only at h
  split at h
  · rename_i old hold
    split at h
    · -- retained: it runs what `current` configures, which is the entry's configuration
      rename_i heq
      have hsome : some old = some ⟨t⟩ := hold ▸ hc t h
      rw [← heq, Option.some.inj hsome]
    · exact recreateSubAgent_lookup_self o ⟨e.1, e.2.agentType⟩ h
  · rename_i hnone
    rcases buildAndRunSubAgent_lookup_self o ⟨e.1, e.2.agentType⟩ h with ht | ht
    · exact ht
    · have := hc t ht
      rw [hnone] at this
      cases this

theorem applyAgent_fst (current : AList (fun _ : ι => SubAgentConfig τ))
    (acc : StartedSubAgents ι τ × List (ι × SubAgentError ι))
    (e : Sigma fun _ : ι => SubAgentConfig τ) :
    (applyAgent o current acc e).1 = (reconcileAgent o current e acc.1).1 := by
  unfold applyAgent
  split <;> rename_i heq <;> rw [heq]

/-! ### The two loops -/

section Loops

variable {current : AList (fun _ : ι => SubAgentConfig τ)} {j : ι}

/-- The first loop leaves alone every id it has no entry for. -/
theorem foldl_applyAgent_lookup_of_not_mem (es : List (Sigma fun _ : ι => SubAgentConfig τ))
    (acc : StartedSubAgents ι τ × List (ι × SubAgentError ι)) (h : j ∉ es.keys) :
    (es.foldl (applyAgent o current) acc).1.agents.lookup j = acc.1.agents.lookup j := by
  induction es generalizing acc with
  | nil => rfl
  | cons e es ih =>
    simp only [List.keys_cons, List.mem_cons, not_or] at h
    rw [List.foldl_cons, ih _ h.2, applyAgent_fst]
    exact reconcileAgent_lookup_ne o h.1

/-- The first loop leaves an id it has an entry for running that entry's agent type, or
nothing. -/
theorem foldl_applyAgent_lookup_of_mem {cfg : SubAgentConfig τ}
    (es : List (Sigma fun _ : ι => SubAgentConfig τ))
    (acc : StartedSubAgents ι τ × List (ι × SubAgentError ι)) (hnd : es.NodupKeys)
    (he : ⟨j, cfg⟩ ∈ es)
    (hc : ∀ t, acc.1.agents.lookup j = some t → current.lookup j = some ⟨t⟩) {t : τ}
    (h : (es.foldl (applyAgent o current) acc).1.agents.lookup j = some t) :
    t = cfg.agentType := by
  induction es generalizing acc with
  | nil => cases he
  | cons e es ih =>
    obtain ⟨hnotin, hnd⟩ := List.nodupKeys_cons.mp hnd
    rw [List.foldl_cons] at h
    by_cases hj : j = e.1
    · -- the entry for `j`; the rest of the loop does not touch `j`
      subst hj
      have hcfg : e.2 = cfg := by
        rcases List.mem_cons.mp he with he | he
        · rw [← he]
        · exact absurd (List.mem_keys_of_mem he) hnotin
      rw [foldl_applyAgent_lookup_of_not_mem o es _ hnotin, applyAgent_fst] at h
      rw [← hcfg]
      exact reconcileAgent_lookup_self o hc h
    · have he' : ⟨j, cfg⟩ ∈ es := by
        rcases List.mem_cons.mp he with he | he
        · exact absurd (congrArg Sigma.fst he) hj
        · exact he
      refine ih _ hnd he' (fun t' ht' => hc t' ?_) h
      rwa [applyAgent_fst, reconcileAgent_lookup_ne o hj] at ht'

omit [DecidableEq τ] in
/-- The second loop never starts anything. -/
theorem foldl_removeAgent_lookup_eq_some (es : List (Sigma fun _ : ι => SubAgentConfig τ))
    (acc : StartedSubAgents ι τ × List (ι × SubAgentError ι)) {t : τ}
    (h : (es.foldl (removeAgent o) acc).1.agents.lookup j = some t) :
    acc.1.agents.lookup j = some t := by
  induction es generalizing acc with
  | nil => exact h
  | cons e es ih =>
    have h' := ih _ h
    by_cases hj : j = e.1
    · subst hj
      rw [removeAgent_lookup_self] at h'
      cases h'
    · rwa [removeAgent_lookup_ne o hj] at h'

omit [DecidableEq τ] in
/-- The second loop stops every id it has an entry for. -/
theorem foldl_removeAgent_lookup_of_mem (es : List (Sigma fun _ : ι => SubAgentConfig τ))
    (acc : StartedSubAgents ι τ × List (ι × SubAgentError ι)) (h : j ∈ es.keys) :
    (es.foldl (removeAgent o) acc).1.agents.lookup j = none := by
  induction es generalizing acc with
  | nil => cases h
  | cons e es ih =>
    rw [List.foldl_cons]
    by_cases hj : j = e.1
    · subst hj
      cases hr : (es.foldl (removeAgent o) (removeAgent o acc e)).1.agents.lookup e.1 with
      | none => rfl
      | some t =>
        have h' := foldl_removeAgent_lookup_eq_some o es _ hr
        rw [removeAgent_lookup_self] at h'
        cases h'
    · rw [List.keys_cons, List.mem_cons] at h
      exact ih _ (h.resolve_left hj)

end Loops

/-- **Reconciliation re-establishes the invariant against the new configuration**, whatever
the builder, `stop_and_remove` and the cleaner do. -/
theorem applyRemoteConfigAgents_consistent {current new : AgentControlDynamicConfig ι τ ϑ}
    {running : StartedSubAgents ι τ} (h : Consistent running current.agents) :
    Consistent (applyRemoteConfigAgents o current new running).1 new.agents := by
  intro id t ht
  have happlied : (new.agents.entries.foldl (applyAgent o current.agents)
      (running, [])).1.agents.lookup id = some t :=
    foldl_removeAgent_lookup_eq_some o _ _ ht
  by_cases hn : id ∈ new.agents
  · obtain ⟨cfg, hcfg⟩ := Option.isSome_iff_exists.mp (AList.lookup_isSome.mpr hn)
    have hmem : (⟨id, cfg⟩ : Sigma fun _ : ι => SubAgentConfig τ) ∈ new.agents.entries :=
      AList.mem_lookup_iff.mp hcfg
    have htype := foldl_applyAgent_lookup_of_mem o _ _ new.agents.nodupKeys hmem (h id) happlied
    rw [hcfg, htype]
  · -- a dropped id still running was running before, so the second loop stopped it
    have hrun : running.agents.lookup id = some t := by
      rwa [foldl_applyAgent_lookup_of_not_mem o _ _ hn] at happlied
    have hdrop : id ∈ (subAgentsDifference current.agents new.agents).keys :=
      List.mem_keys_of_mem (mem_subAgentsDifference.mpr
        ⟨AList.mem_lookup_iff.mp (h id t hrun), hn⟩ :
          (⟨id, ⟨t⟩⟩ : Sigma fun _ : ι => SubAgentConfig τ) ∈ _)
    have hstopped := foldl_removeAgent_lookup_of_mem o _
      (new.agents.entries.foldl (applyAgent o current.agents) (running, [])) hdrop
    unfold applyRemoteConfigAgents at ht
    rw [hstopped] at ht
    cases ht

/-- A configuration that drops a running agent stops it. -/
theorem applyRemoteConfigAgents_stops_dropped {current new : AgentControlDynamicConfig ι τ ϑ}
    {running : StartedSubAgents ι τ} (h : Consistent running current.agents) {id : ι}
    (hn : id ∉ new.agents) :
    (applyRemoteConfigAgents o current new running).1.agents.lookup id = none := by
  cases hr : (applyRemoteConfigAgents o current new running).1.agents.lookup id with
  | none => rfl
  | some t =>
    have hcfg := applyRemoteConfigAgents_consistent o h id t hr
    exact absurd (AList.lookup_isSome.mp (by rw [hcfg]; rfl)) hn

end Agents

/-! ### One event, and runs of events -/

section Events

variable [DecidableEq τ] (remoteConfigValidator : OpampRemoteConfig → Except (List Char) Unit)
  (dynamicConfigValidator : AgentControlDynamicConfig ι τ ϑ → Except (List Char) Unit)
  (decodeRemote : OpampRemoteConfig → Except (List Char) (AgentControlDynamicConfig ι τ ϑ))
  (encodeYaml : AgentControlDynamicConfig ι τ ϑ → Except (List Char) (YAMLConfig ν))
  (decodeYaml : YAMLConfig ν → Except (List Char) (AgentControlDynamicConfig ι τ ϑ))
  (display : AgentControlError ι → List Char)

/-- What `validate_apply_store_remote_config` does to the sub-agents: nothing, or it applies
one new configuration, the one it returns if it succeeds. -/
theorem validateApplyStoreRemoteConfig_subAgents (o : Outcomes ι τ) (c : OpampRemoteConfig)
    (s : ControlState ι τ ϑ ν) :
    let r := validateApplyStoreRemoteConfig remoteConfigValidator dynamicConfigValidator
      decodeRemote encodeYaml decodeYaml o c s
    (r.1 = s.subAgents ∧ ∀ new, r.2.2 ≠ .ok new) ∨
      ∃ new, r.1 = (applyRemoteConfigAgents o s.current new s.subAgents).1 ∧
        ∀ new', r.2.2 = .ok new' → new' = new := by
  intro r
  unfold r validateApplyStoreRemoteConfig
  split
  · exact .inl ⟨rfl, fun _ h => by cases h⟩
  split
  · exact .inl ⟨rfl, fun _ h => by cases h⟩
  split
  · exact .inl ⟨rfl, fun _ h => by cases h⟩
  rename_i new _
  split
  · exact .inl ⟨rfl, fun _ h => by cases h⟩
  split
  · exact .inl ⟨rfl, fun _ h => by cases h⟩
  refine .inr ⟨new, rfl, fun new' h => ?_⟩
  -- the result is the applied configuration, or the agents' error
  cases happ : (applyRemoteConfigAgents o s.current new s.subAgents).2 with
  | error e => simp [happ, Except.map] at h
  | ok u => simpa [happ, Except.map] using h.symm

/-- `handle_remote_config` leaves the sub-agents as `validate_apply_store_remote_config` does,
unless reporting `Applying` failed first. -/
theorem handleRemoteConfig_subAgents (o : Outcomes ι τ) (c : OpampRemoteConfig)
    (s : ControlState ι τ ϑ ν) :
    (handleRemoteConfig remoteConfigValidator dynamicConfigValidator decodeRemote encodeYaml
      decodeYaml o display c s).1 =
      if o.reportApplying then
        (validateApplyStoreRemoteConfig remoteConfigValidator dynamicConfigValidator decodeRemote
          encodeYaml decodeYaml o c s).1
      else s.subAgents := by
  unfold handleRemoteConfig
  cases o.reportApplying with
  | false => rfl
  | true =>
    rw [Bool.not_true, if_neg Bool.false_ne_true, if_pos rfl]
    generalize validateApplyStoreRemoteConfig remoteConfigValidator dynamicConfigValidator
      decodeRemote encodeYaml decodeYaml o c s = v
    obtain ⟨running, st, result⟩ := v
    dsimp only
    -- every branch hands back the sub-agents unchanged
    split <;> (repeat' split) <;> rfl

/-- `handle_remote_config` succeeds only with what `validate_apply_store_remote_config` returned. -/
theorem handleRemoteConfig_eq_ok {o : Outcomes ι τ} {c : OpampRemoteConfig}
    {s : ControlState ι τ ϑ ν} {new : AgentControlDynamicConfig ι τ ϑ}
    (h : (handleRemoteConfig remoteConfigValidator dynamicConfigValidator decodeRemote encodeYaml
      decodeYaml o display c s).2.2.2 = .ok new) :
    o.reportApplying = true ∧
      (validateApplyStoreRemoteConfig remoteConfigValidator dynamicConfigValidator decodeRemote
        encodeYaml decodeYaml o c s).2.2 = .ok new := by
  unfold handleRemoteConfig at h
  cases hr : o.reportApplying with
  | false =>
    rw [hr, Bool.not_false, if_pos rfl] at h
    cases h
  | true =>
    refine ⟨rfl, ?_⟩
    rw [hr, Bool.not_true, if_neg Bool.false_ne_true] at h
    generalize validateApplyStoreRemoteConfig remoteConfigValidator dynamicConfigValidator
      decodeRemote encodeYaml decodeYaml o c s = v at h ⊢
    obtain ⟨running, st, result⟩ := v
    dsimp only at h
    -- only the last branch of the `Ok` arm succeeds, and with the value it matched
    split at h <;> (repeat' split at h) <;> cases h
    rfl

theorem processRemoteConfig_subAgents (s : ControlState ι τ ϑ ν)
    (event : OpampRemoteConfig × Outcomes ι τ) :
    (processRemoteConfig remoteConfigValidator dynamicConfigValidator decodeRemote encodeYaml
      decodeYaml display s event).1.subAgents =
      (handleRemoteConfig remoteConfigValidator dynamicConfigValidator decodeRemote encodeYaml
        decodeYaml event.2 display event.1 s).1 := by
  unfold processRemoteConfig
  dsimp only
  split <;> rfl

/-- `current_dynamic_config` is replaced by the handled configuration, or kept. -/
theorem processRemoteConfig_current (s : ControlState ι τ ϑ ν)
    (event : OpampRemoteConfig × Outcomes ι τ) :
    (processRemoteConfig remoteConfigValidator dynamicConfigValidator decodeRemote encodeYaml
      decodeYaml display s event).1.current = s.current ∨
    (handleRemoteConfig remoteConfigValidator dynamicConfigValidator decodeRemote encodeYaml
        decodeYaml event.2 display event.1 s).2.2.2 =
      .ok (processRemoteConfig remoteConfigValidator dynamicConfigValidator decodeRemote encodeYaml
        decodeYaml display s event).1.current := by
  unfold processRemoteConfig
  dsimp only
  split
  · rename_i new hnew
    exact .inr hnew
  · exact .inl rfl

/-- **After one event, the running sub-agents agree with the configuration they will be diffed
against, or they follow a configuration that was applied while `current_dynamic_config` kept
the old one.** -/
theorem processRemoteConfig_consistent_or_drift (s : ControlState ι τ ϑ ν)
    (event : OpampRemoteConfig × Outcomes ι τ) (h : Consistent s.subAgents s.current.agents) :
    let s' := (processRemoteConfig remoteConfigValidator dynamicConfigValidator decodeRemote
      encodeYaml decodeYaml display s event).1
    Consistent s'.subAgents s'.current.agents ∨
      (s'.current = s.current ∧ ∃ new : AgentControlDynamicConfig ι τ ϑ,
        Consistent s'.subAgents new.agents) := by
  intro s'
  have hsub := processRemoteConfig_subAgents remoteConfigValidator dynamicConfigValidator
    decodeRemote encodeYaml decodeYaml display s event
  rw [handleRemoteConfig_subAgents] at hsub
  rcases processRemoteConfig_current remoteConfigValidator dynamicConfigValidator decodeRemote
      encodeYaml decodeYaml display s event with hcur | hok
  · -- the diff base was kept: the sub-agents were kept too, or a configuration was applied
    cases hrep : event.2.reportApplying with
    | false =>
      rw [hrep, if_neg Bool.false_ne_true] at hsub
      left
      rw [show s'.subAgents = s.subAgents from hsub, show s'.current = s.current from hcur]
      exact h
    | true =>
      rw [hrep, if_pos rfl] at hsub
      rcases validateApplyStoreRemoteConfig_subAgents remoteConfigValidator
          dynamicConfigValidator decodeRemote encodeYaml decodeYaml event.2 event.1 s with
        ⟨hv, -⟩ | ⟨new, hv, -⟩
      · left
        rw [show s'.subAgents = s.subAgents from hsub.trans hv,
          show s'.current = s.current from hcur]
        exact h
      · right
        refine ⟨hcur, new, ?_⟩
        rw [show s'.subAgents = _ from hsub.trans hv]
        exact applyRemoteConfigAgents_consistent event.2 h
  · -- handled successfully: the configuration that was applied is the new diff base
    obtain ⟨hrep, hv⟩ := handleRemoteConfig_eq_ok remoteConfigValidator dynamicConfigValidator
      decodeRemote encodeYaml decodeYaml display hok
    rw [hrep, if_pos rfl] at hsub
    left
    rcases validateApplyStoreRemoteConfig_subAgents remoteConfigValidator dynamicConfigValidator
        decodeRemote encodeYaml decodeYaml event.2 event.1 s with ⟨-, hno⟩ | ⟨new, hrun, hnew⟩
    · exact absurd hv (hno _)
    · rw [show s'.subAgents = _ from hsub.trans hrun, ← hnew _ hv]
      exact applyRemoteConfigAgents_consistent event.2 h

/-- An event drifts when it keeps `current_dynamic_config` but changes the running
sub-agents: it applied a configuration and then failed. -/
def Drifts (s : ControlState ι τ ϑ ν) (event : OpampRemoteConfig × Outcomes ι τ) : Prop :=
  let s' := (processRemoteConfig remoteConfigValidator dynamicConfigValidator decodeRemote
    encodeYaml decodeYaml display s event).1
  s'.current = s.current ∧ s'.subAgents ≠ s.subAgents

/-- **The invariant holds after every event of a run in which no event drifts.** -/
theorem processRemoteConfig_consistent_of_no_drift (s : ControlState ι τ ϑ ν)
    (h0 : Consistent s.subAgents s.current.agents)
    (events : List (OpampRemoteConfig × Outcomes ι τ))
    (hrun : Controller.Guarded (fun t e => ¬ Drifts remoteConfigValidator dynamicConfigValidator
      decodeRemote encodeYaml decodeYaml display t e)
      (processRemoteConfig remoteConfigValidator dynamicConfigValidator decodeRemote
        encodeYaml decodeYaml display) s events) :
    ∀ t ∈ Controller.states (processRemoteConfig remoteConfigValidator dynamicConfigValidator
      decodeRemote encodeYaml decodeYaml display) s events,
      Consistent t.subAgents t.current.agents := by
  refine Controller.states_inv_guarded (fun t => Consistent t.subAgents t.current.agents) _ ?_ h0
    events hrun
  intro t e ht hnd
  rcases processRemoteConfig_consistent_or_drift remoteConfigValidator dynamicConfigValidator
      decodeRemote encodeYaml decodeYaml display t e ht with hc | ⟨hcur, -⟩
  · exact hc
  · -- the event kept the diff base, so by the guard it kept the sub-agents too
    have hsub : (processRemoteConfig remoteConfigValidator dynamicConfigValidator decodeRemote
        encodeYaml decodeYaml display t e).1.subAgents = t.subAgents := by
      by_contra hne
      exact hnd ⟨hcur, hne⟩
    rw [hsub, hcur]
    exact ht

end Events

/-! ### A partial failure, then a configuration that drops the agent -/

section Drift

/-- A message with one agent configuration entry. -/
def driftMessage (hash : List Char) : OpampRemoteConfig where
  hash := hash
  state := .applying
  signatures := none
  configMap := AList.singleton "agentConfig".toList "agents".toList

/-- Agent `1` of type `10`: the configuration the loop starts from. -/
def driftInitial : AgentControlDynamicConfig Nat Nat Unit := ⟨AList.singleton 1 ⟨10⟩, none⟩

/-- Agents `2` and `3`, of types `20` and `30`. -/
def driftSecond : AgentControlDynamicConfig Nat Nat Unit :=
  ⟨(AList.singleton 3 ⟨30⟩).insert 2 ⟨20⟩, none⟩

/-- No agents at all. -/
def driftEmpty : AgentControlDynamicConfig Nat Nat Unit := ⟨∅, none⟩

/-- Every collaborator succeeds, except the build of agent `3` when `failing3` is set. -/
def driftOutcomes (failing3 : Bool) : Outcomes Nat Nat where
  reportApplying := true
  delete := true
  load := true
  update := true
  store := true
  build := fun identity => !(failing3 && identity.id == 3)
  clean := fun _ => true
  updateState := true
  reportFinal := true
  effectiveConfig := true

/-- The event loop with validators that accept everything; message `1` decodes to
`driftSecond`, any other to `driftEmpty`. -/
def driftStep : ControlState Nat Nat Unit Unit → OpampRemoteConfig × Outcomes Nat Nat →
    ControlState Nat Nat Unit Unit × List ConfigState :=
  processRemoteConfig (fun _ => .ok ()) (fun _ => .ok ())
    (fun c => .ok (if c.hash = "1".toList then driftSecond else driftEmpty))
    (fun _ => .ok ∅) (fun _ => .ok driftInitial) (fun _ => [])

/-- Agent `1` running, as configured. -/
def driftStart : ControlState Nat Nat Unit Unit :=
  ⟨⟨AList.singleton 1 10⟩, driftInitial, ⟨none, driftInitial⟩⟩

theorem consistent_driftStart : Consistent driftStart.subAgents driftStart.current.agents := by
  intro id t h
  have hmem : (⟨id, t⟩ : Sigma fun _ : Nat => Nat) ∈ [⟨1, 10⟩] := AList.mem_lookup_iff.mp h
  rw [List.mem_singleton] at hmem
  cases hmem
  rfl

/-- Message `1` while agent `3` fails to build, then message `2` with every call succeeding. -/
def driftEvents : List (OpampRemoteConfig × Outcomes Nat Nat) :=
  [(driftMessage "1".toList, driftOutcomes true), (driftMessage "2".toList, driftOutcomes false)]

/-- After the first event agent `2` runs while the diff base keeps agent `1` only; after the
second, whose configuration has no agent at all, agent `2` still runs. -/
theorem process_events_keeps_dropped_agent :
    Consistent driftStart.subAgents driftStart.current.agents ∧
    ¬ Consistent (Controller.run driftStep driftStart (driftEvents.take 1)).1.subAgents
      (Controller.run driftStep driftStart (driftEvents.take 1)).1.current.agents ∧
    driftEmpty.agents.lookup 2 = none ∧
    (Controller.run driftStep driftStart driftEvents).1.subAgents.agents.lookup 2 = some 20 := by
  have hrun : (Controller.run driftStep driftStart (driftEvents.take 1)).1.subAgents.agents.lookup 2
      = some 20 := by decide
  have hcur : (Controller.run driftStep driftStart (driftEvents.take 1)).1.current.agents.lookup 2
      = none := by decide
  refine ⟨consistent_driftStart, fun h => ?_, rfl, by decide⟩
  rw [h 2 20 hrun] at hcur
  cases hcur

/-- Message `2` alone, every call succeeding: the agents are reset to none. -/
def resetEvents : List (OpampRemoteConfig × Outcomes Nat Nat) :=
  [(driftMessage "2".toList, driftOutcomes false)]

theorem processRemoteConfig_consistent_of_no_drift_at_reset :
    Consistent driftStart.subAgents driftStart.current.agents ∧
    Controller.Guarded (fun t e => ¬ Drifts (fun _ => .ok ()) (fun _ => .ok ())
      (fun c => .ok (if c.hash = "1".toList then driftSecond else driftEmpty))
      (fun _ => .ok ∅) (fun _ => .ok driftInitial) (fun _ => []) t e) driftStep driftStart
      resetEvents ∧
    ∀ t ∈ Controller.states driftStep driftStart resetEvents,
      Consistent t.subAgents t.current.agents :=
  -- the event changes the diff base, so it does not drift
  have hguard : Controller.Guarded (fun t e => ¬ Drifts (fun _ => .ok ()) (fun _ => .ok ())
      (fun c => .ok (if c.hash = "1".toList then driftSecond else driftEmpty))
      (fun _ => .ok ∅) (fun _ => .ok driftInitial) (fun _ => []) t e) driftStep driftStart
      resetEvents :=
    ⟨fun h => by
      have hlookup := congrArg (fun c => c.agents.lookup 1) h.1
      revert hlookup
      decide, trivial⟩
  ⟨consistent_driftStart, hguard,
    processRemoteConfig_consistent_of_no_drift (fun _ => .ok ()) (fun _ => .ok ())
      (fun c => .ok (if c.hash = "1".toList then driftSecond else driftEmpty))
      (fun _ => .ok ∅) (fun _ => .ok driftInitial) (fun _ => []) driftStart consistent_driftStart
      resetEvents hguard⟩

end Drift

end AgentControl
