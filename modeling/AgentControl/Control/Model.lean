import AgentControl.Lib.Run
import AgentControl.Values.Config

/-!
# The Agent Control event loop

`AgentControl::process_events` owns two pieces of state across events: the
running sub-agents (`StartedSubAgents`, a map from agent id to the sub-agent it
started) and `current_dynamic_config`, the configuration the next remote
configuration is diffed against. The dynamic-config repository persists the
remote configuration between restarts. A `RemoteConfigReceived` event runs
`handle_remote_config`, which reports `Applying`, runs
`validate_apply_store_remote_config`, and reports and persists the outcome.

`validate_apply_store_remote_config` can end in three ways:

* it fails **before applying** anything (the message arrived failed, a validator
  refused it, the repository or the updater failed): nothing changed;
* it applies the new agents and **some of them fail** (`BuildingSubagents`): the
  remote configuration has already been stored and every agent that could be
  created, recreated or removed was;
* it **succeeds**.

`process_events` replaces `current_dynamic_config` only on success.

Every fallible call to a collaborator is decided by the environment; one event
carries those decisions in `Outcomes`. The collaborators whose results are
functions of their inputs (the two validators, decoding a message into a dynamic
configuration, encoding one as YAML and back) are parameters, so that the
signature validator of `AgentControl.Opamp.Validators` can be plugged in.

A running sub-agent is modelled by the agent type it was built with, which is
all that reconciliation compares.
-/

namespace AgentControl

/-- Models `SubAgentConfig`: the agent type a sub-agent is an instance of. -/
structure SubAgentConfig (τ : Type) where
  agentType : τ
  deriving DecidableEq, Repr

/-- Models `AgentControlDynamicConfig`: the sub-agents to supervise and the version to run. -/
structure AgentControlDynamicConfig (ι τ ϑ : Type) where
  agents : AList (fun _ : ι => SubAgentConfig τ)
  version : Option ϑ

/-- Models `AgentIdentity`: an agent id with its agent type. -/
structure AgentIdentity (ι τ : Type) where
  id : ι
  agentTypeId : τ
  deriving DecidableEq, Repr

/-- Models `StartedSubAgents`: each running sub-agent, by the agent type it runs. -/
structure StartedSubAgents (ι τ : Type) where
  agents : AList (fun _ : ι => τ)

/-- Why one sub-agent could not be brought to its configured state. -/
inductive SubAgentError (ι : Type) where
  /-- `SubAgentBuilderError`: building the sub-agent failed. -/
  | builder
  /-- `SubAgentCollectionError::SubAgentNotFound`: there was nothing running to stop. -/
  | notFound (id : ι)
  /-- `ResourceCleanerError`: its resources could not be cleaned. -/
  | cleaner
  deriving DecidableEq, Repr

/-- Models `AgentControlError`, with the variants `handle_remote_config` can return. -/
inductive AgentControlError (ι : Type) where
  | buildingSubagents (errors : List (ι × SubAgentError ι))
  | opampRemoteConfig (e : OpampRemoteConfigError)
  | remoteConfigValidator (message : List Char)
  | configRepository
  | dynamicConfig (message : List Char)
  | updater
  | opampClient
  deriving DecidableEq, Repr

/-- Models the persisted side of `AgentControlDynamicConfigRepository`: the stored remote
configuration, and the local configuration `load` falls back to. -/
structure DynamicConfigStore (ι τ ϑ ν : Type) where
  remote : Option (RemoteConfig ν)
  localConfig : AgentControlDynamicConfig ι τ ϑ

/-- What the environment decides for one `RemoteConfigReceived` event. -/
structure Outcomes (ι τ : Type) where
  /-- `report_state(Applying)` succeeds. -/
  reportApplying : Bool
  /-- `sa_dynamic_config_store.delete()` succeeds. -/
  delete : Bool
  /-- `sa_dynamic_config_store.load()` can read its file. -/
  load : Bool
  /-- `version_updater.update` succeeds. -/
  update : Bool
  /-- `sa_dynamic_config_store.store` succeeds. -/
  store : Bool
  /-- `sub_agent_builder.build` succeeds for this identity. -/
  build : AgentIdentity ι τ → Bool
  /-- `resource_cleaner.clean` succeeds for this agent id. -/
  clean : ι → Bool
  /-- `sa_dynamic_config_store.update_state` can write. -/
  updateState : Bool
  /-- `report_state` of the final state succeeds. -/
  reportFinal : Bool
  /-- `update_effective_config` succeeds. -/
  effectiveConfig : Bool

/-- The state `process_events` threads through its loop, with the repository. -/
structure ControlState (ι τ ϑ ν : Type) where
  subAgents : StartedSubAgents ι τ
  current : AgentControlDynamicConfig ι τ ϑ
  store : DynamicConfigStore ι τ ϑ ν

variable {ι τ ϑ ν : Type} [DecidableEq ι]

namespace StartedSubAgents

/-- Models `StartedSubAgents::stop_and_remove`: stopping errors are only logged, so the one
failure is an id that is not running. -/
def stopAndRemove (s : StartedSubAgents ι τ) (id : ι) :
    Except (SubAgentError ι) (StartedSubAgents ι τ) :=
  if id ∈ s.agents then .ok ⟨s.agents.erase id⟩ else .error (.notFound id)

/-- Models `StartedSubAgents::insert`. -/
def insert (s : StartedSubAgents ι τ) (id : ι) (t : τ) : StartedSubAgents ι τ :=
  ⟨s.agents.insert id t⟩

@[simp] theorem lookup_insert_self (s : StartedSubAgents ι τ) (id : ι) (t : τ) :
    (s.insert id t).agents.lookup id = some t :=
  AList.lookup_insert _

@[simp] theorem lookup_insert_ne {s : StartedSubAgents ι τ} {id j : ι} {t : τ} (h : j ≠ id) :
    (s.insert id t).agents.lookup j = s.agents.lookup j :=
  AList.lookup_insert_ne h

/-- A successful `stop_and_remove` removes exactly the one id. -/
theorem stopAndRemove_eq_ok {s s' : StartedSubAgents ι τ} {id : ι}
    (h : s.stopAndRemove id = .ok s') :
    s'.agents.lookup id = none ∧ ∀ j, j ≠ id → s'.agents.lookup j = s.agents.lookup j := by
  unfold stopAndRemove at h
  split at h
  · cases h
    exact ⟨AList.lookup_erase _ _, fun j hj => AList.lookup_erase_ne hj⟩
  · cases h

/-- `stop_and_remove` fails only for an id that is not running. -/
theorem stopAndRemove_eq_error {s : StartedSubAgents ι τ} {id : ι} {e : SubAgentError ι}
    (h : s.stopAndRemove id = .error e) : s.agents.lookup id = none := by
  unfold stopAndRemove at h
  split at h
  · cases h
  · exact AList.lookup_eq_none.mpr ‹_›

end StartedSubAgents

namespace DynamicConfigStore

/-- Models `AgentControlDynamicConfigRepository::update_state`: only a stored config has a state. -/
def updateState (st : DynamicConfigStore ι τ ϑ ν) (state : ConfigState) :
    Option (DynamicConfigStore ι τ ϑ ν) :=
  st.remote.map fun rc => { st with remote := some { rc with state } }

end DynamicConfigStore

/-- Models `sub_agents_difference`: the entries of `old` whose id is not in `new`. -/
def subAgentsDifference (old new : AList (fun _ : ι => SubAgentConfig τ)) :
    List (Sigma fun _ : ι => SubAgentConfig τ) :=
  old.entries.filter fun e => e.1 ∉ new

section Agents

variable [DecidableEq τ] (o : Outcomes ι τ)

/-- Models `build_and_run_sub_agent`: build, run, and insert under the agent's id. -/
def buildAndRunSubAgent (identity : AgentIdentity ι τ) (running : StartedSubAgents ι τ) :
    StartedSubAgents ι τ × Except (SubAgentError ι) Unit :=
  if o.build identity then (running.insert identity.id identity.agentTypeId, .ok ())
  else (running, .error .builder)

/-- One iteration of `build_and_run_sub_agents`, collecting the error. -/
def startAgent (acc : StartedSubAgents ι τ × List (ι × SubAgentError ι))
    (entry : Sigma fun _ : ι => SubAgentConfig τ) :
    StartedSubAgents ι τ × List (ι × SubAgentError ι) :=
  match buildAndRunSubAgent o ⟨entry.1, entry.2.agentType⟩ acc.1 with
  | (running, .ok ()) => (running, acc.2)
  | (running, .error e) => (running, acc.2 ++ [(entry.1, e)])

/-- Models `build_and_run_sub_agents`: the start-up of every configured sub-agent, from none
running. -/
def buildAndRunSubAgents (agents : AList (fun _ : ι => SubAgentConfig τ)) :
    StartedSubAgents ι τ × Except (AgentControlError ι) Unit :=
  let started := agents.entries.foldl (startAgent o) (⟨∅⟩, [])
  (started.1, if started.2.isEmpty then .ok () else .error (.buildingSubagents started.2))

/-- Models `recreate_sub_agent`: stop and remove the running one, then build and run anew. -/
def recreateSubAgent (identity : AgentIdentity ι τ) (running : StartedSubAgents ι τ) :
    StartedSubAgents ι τ × Except (SubAgentError ι) Unit :=
  match running.stopAndRemove identity.id with
  | .error e => (running, .error e)
  | .ok running' => buildAndRunSubAgent o identity running'

/-- What the first loop of `apply_remote_config_agents` does for one configured agent: retain
it if its configuration is unchanged, recreate it if it changed, create it if it is new. -/
def reconcileAgent (current : AList (fun _ : ι => SubAgentConfig τ))
    (entry : Sigma fun _ : ι => SubAgentConfig τ) (running : StartedSubAgents ι τ) :
    StartedSubAgents ι τ × Except (SubAgentError ι) Unit :=
  let identity : AgentIdentity ι τ := ⟨entry.1, entry.2.agentType⟩
  match current.lookup entry.1 with
  | some old => if old = entry.2 then (running, .ok ()) else recreateSubAgent o identity running
  | none => buildAndRunSubAgent o identity running

/-- One iteration of the first loop of `apply_remote_config_agents`, collecting the error. -/
def applyAgent (current : AList (fun _ : ι => SubAgentConfig τ))
    (acc : StartedSubAgents ι τ × List (ι × SubAgentError ι))
    (entry : Sigma fun _ : ι => SubAgentConfig τ) :
    StartedSubAgents ι τ × List (ι × SubAgentError ι) :=
  match reconcileAgent o current entry acc.1 with
  | (running, .ok ()) => (running, acc.2)
  | (running, .error e) => (running, acc.2 ++ [(entry.1, e)])

/-- One iteration of the second loop of `apply_remote_config_agents`: stop a dropped agent and
clean its resources, collecting both errors. -/
def removeAgent (acc : StartedSubAgents ι τ × List (ι × SubAgentError ι))
    (entry : Sigma fun _ : ι => SubAgentConfig τ) :
    StartedSubAgents ι τ × List (ι × SubAgentError ι) :=
  let stopped : StartedSubAgents ι τ × List (ι × SubAgentError ι) :=
    match acc.1.stopAndRemove entry.1 with
    | .ok running => (running, acc.2)
    | .error e => (acc.1, acc.2 ++ [(entry.1, e)])
  if o.clean entry.1 then stopped else (stopped.1, stopped.2 ++ [(entry.1, .cleaner)])

/-- Models `apply_remote_config_agents`: apply as much as possible, then fail with every
per-agent error. -/
def applyRemoteConfigAgents (current new : AgentControlDynamicConfig ι τ ϑ)
    (running : StartedSubAgents ι τ) :
    StartedSubAgents ι τ × Except (AgentControlError ι) Unit :=
  let applied := new.agents.entries.foldl (applyAgent o current.agents) (running, [])
  let removed := (subAgentsDifference current.agents new.agents).foldl (removeAgent o) applied
  (removed.1, if removed.2.isEmpty then .ok () else .error (.buildingSubagents removed.2))

end Agents

section Handle

variable [DecidableEq τ]
  (remoteConfigValidator : OpampRemoteConfig → Except (List Char) Unit)
  (dynamicConfigValidator : AgentControlDynamicConfig ι τ ϑ → Except (List Char) Unit)
  (decodeRemote : OpampRemoteConfig → Except (List Char) (AgentControlDynamicConfig ι τ ϑ))
  (encodeYaml : AgentControlDynamicConfig ι τ ϑ → Except (List Char) (YAMLConfig ν))
  (decodeYaml : YAMLConfig ν → Except (List Char) (AgentControlDynamicConfig ι τ ϑ))
  (o : Outcomes ι τ)

/-- Models `load` after the remote configuration was deleted: the remote one if still there,
else the local one. -/
def DynamicConfigStore.load (st : DynamicConfigStore ι τ ϑ ν) :
    Except (AgentControlError ι) (AgentControlDynamicConfig ι τ ϑ) :=
  if o.load then
    match st.remote with
    | some rc => (decodeYaml rc.config).mapError .dynamicConfig
    | none => .ok st.localConfig
  else .error .configRepository

/-- The new dynamic configuration: the local one for a message without agent configuration
(after deleting the stored remote one), else the message decoded. -/
def newDynamicConfig (c : OpampRemoteConfig) (st : DynamicConfigStore ι τ ϑ ν) :
    DynamicConfigStore ι τ ϑ ν × Except (AgentControlError ι) (AgentControlDynamicConfig ι τ ϑ) :=
  if c.isAgentConfigsEmpty then
    if o.delete then
      let st' := { st with remote := none }
      (st', st'.load decodeYaml o)
    else (st, .error .configRepository)
  else (st, (decodeRemote c).mapError .dynamicConfig)

/-- The checks between decoding and storing: the dynamic-config validator and the updater. -/
def checkAndUpdate (new : AgentControlDynamicConfig ι τ ϑ) : Except (AgentControlError ι) Unit := do
  (dynamicConfigValidator new).mapError .remoteConfigValidator
  if o.update then .ok () else .error .updater

/-- Storing the new configuration, unless the message had no agent configuration. -/
def storeRemoteConfig (c : OpampRemoteConfig) (new : AgentControlDynamicConfig ι τ ϑ)
    (st : DynamicConfigStore ι τ ϑ ν) :
    Except (AgentControlError ι) (DynamicConfigStore ι τ ϑ ν) :=
  if c.isAgentConfigsEmpty then .ok st
  else
    match encodeYaml new with
    | .error e => .error (.dynamicConfig e)
    | .ok config =>
      if o.store then .ok { st with remote := some { config, hash := c.hash, state := c.state } }
      else .error .configRepository

/-- Models `validate_apply_store_remote_config`. The result carries the sub-agents and the
repository as the call leaves them, whatever the outcome. -/
def validateApplyStoreRemoteConfig (c : OpampRemoteConfig) (s : ControlState ι τ ϑ ν) :
    StartedSubAgents ι τ × DynamicConfigStore ι τ ϑ ν ×
      Except (AgentControlError ι) (AgentControlDynamicConfig ι τ ϑ) :=
  match c.state.errorMessage with
  | some err => (s.subAgents, s.store, .error (.opampRemoteConfig (.invalidConfig c.hash err)))
  | none =>
    match remoteConfigValidator c with
    | .error err => (s.subAgents, s.store, .error (.remoteConfigValidator err))
    | .ok () =>
      match newDynamicConfig decodeRemote decodeYaml o c s.store with
      | (st, .error e) => (s.subAgents, st, .error e)
      | (st, .ok new) =>
        match checkAndUpdate dynamicConfigValidator o new with
        | .error e => (s.subAgents, st, .error e)
        | .ok () =>
          match storeRemoteConfig encodeYaml o c new st with
          | .error e => (s.subAgents, st, .error e)
          | .ok st' =>
            let (running, result) := applyRemoteConfigAgents o s.current new s.subAgents
            (running, st', result.map fun () => new)

/-- A failed state reported for an error, with the message prefix of its branch. -/
def failedState (prefixText : List Char) (display : AgentControlError ι → List Char)
    (e : AgentControlError ι) : ConfigState :=
  .failed (prefixText ++ display e)

/-- Models `handle_remote_config`: report `Applying`, validate-apply-store, then persist and
report the outcome. Returns the sub-agents, the repository, the states reported for the
message's hash, and the result. `display` is the `Display` text of an error. -/
def handleRemoteConfig (display : AgentControlError ι → List Char) (c : OpampRemoteConfig)
    (s : ControlState ι τ ϑ ν) :
    StartedSubAgents ι τ × DynamicConfigStore ι τ ϑ ν × List ConfigState ×
      Except (AgentControlError ι) (AgentControlDynamicConfig ι τ ϑ) :=
  if !o.reportApplying then (s.subAgents, s.store, [], .error .opampClient)
  else
    let (running, st, result) := validateApplyStoreRemoteConfig remoteConfigValidator
      dynamicConfigValidator decodeRemote encodeYaml decodeYaml o c s
    match result with
    | .error (.buildingSubagents errs) =>
      -- partially applied: the stored config is marked failed before reporting
      let state := failedState "Error applying Agent Control remote config for some agents: ".toList
        display (.buildingSubagents errs)
      match (if o.updateState then st.updateState state else none) with
      | none => (running, st, [.applying], .error .configRepository)
      | some st' =>
        if !o.reportFinal then (running, st', [.applying], .error .opampClient)
        else if !o.effectiveConfig then (running, st', [.applying, state], .error .opampClient)
        else (running, st', [.applying, state], .error (.buildingSubagents errs))
    | .error e =>
      let state := failedState "Error applying Agent Control remote config: ".toList display e
      if !o.reportFinal then (running, st, [.applying], .error .opampClient)
      else (running, st, [.applying, state], .error e)
    | .ok new =>
      match (if o.updateState then st.updateState .applied else none) with
      | none => (running, st, [.applying], .error .configRepository)
      | some st' =>
        if !o.reportFinal then (running, st', [.applying], .error .opampClient)
        else if !o.effectiveConfig then (running, st', [.applying, .applied], .error .opampClient)
        else (running, st', [.applying, .applied], .ok new)

/-- One `RemoteConfigReceived` event of `process_events`: the current dynamic configuration
is replaced only when the remote configuration was handled successfully. The effects are
the states reported for the message. -/
def processRemoteConfig (display : AgentControlError ι → List Char)
    (s : ControlState ι τ ϑ ν) (event : OpampRemoteConfig × Outcomes ι τ) :
    ControlState ι τ ϑ ν × List ConfigState :=
  let r := handleRemoteConfig remoteConfigValidator dynamicConfigValidator decodeRemote encodeYaml
    decodeYaml event.2 display event.1 s
  match r.2.2.2 with
  | .ok new => ({ subAgents := r.1, current := new, store := r.2.1 }, r.2.2.1)
  | .error _ => ({ subAgents := r.1, current := s.current, store := r.2.1 }, r.2.2.1)

end Handle

end AgentControl
