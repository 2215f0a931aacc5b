import AgentControl.SubAgent.RemoteConfigParser

/-!
# A sub-agent handling its remote configuration

`SubAgent::handle_remote_config` takes an OpAMP remote configuration and the
supervisor that is running (if any), and returns the supervisor that runs
afterwards. On the way it reports `ConfigState`s for the message's hash to OpAMP
and reads and writes the sub-agent's config repository: the stored remote
configuration (values, hash and state) and the local configuration it falls
back to.

The branches, in the source's order:

* a message whose hash is stored with a final state is a duplicate: its state is
  reported again and nothing else happens;
* a message that arrived failed is reported failed;
* otherwise `Applying` is reported and the message is parsed. A parse error is
  reported; values are assembled into an effective agent, stored, and applied
  to the running supervisor or used to build and start a new one; no values
  mean *reset to local*: the stored remote configuration is deleted and the
  local one, if any, is applied the same way.

Every outcome of a collaborator that can fail is decided by the environment in
`SubAgentOutcomes`; parsing and assembling are functions of their input and
enter as parameters. A supervisor is modelled by the effective agent it runs.
-/

namespace AgentControl

/-- What a sub-agent keeps across remote configurations: the effective agent of its running
supervisor, and what its config repository holds for it. -/
structure SubAgentState (α ν : Type) where
  supervisor : Option α
  remote : Option (RemoteConfig ν)
  localConfig : Option (YAMLConfig ν)

/-- What the environment decides for one remote configuration handled by a sub-agent. -/
structure SubAgentOutcomes (α : Type) where
  /-- `get_remote_config` can read the repository. -/
  getRemote : Bool
  /-- `store_remote` succeeds. -/
  storeRemote : Bool
  /-- `delete_remote` succeeds. -/
  deleteRemote : Bool
  /-- `load_local` succeeds. -/
  loadLocal : Bool
  /-- `build_supervisor` for an effective agent, with its error text. -/
  buildSupervisor : α → Except (List Char) Unit
  /-- `AgentSupervisorStarter::start`, with its error text. -/
  start : Except (List Char) Unit
  /-- `AgentSupervisor::apply`, with its error text. -/
  apply : Except (List Char) Unit
  /-- `update_state` can write the repository. -/
  updateState : Bool

variable {α ν : Type}

namespace SubAgent

section Handle

variable (parse : OpampRemoteConfig → Except RemoteConfigParserError (Option (RemoteConfig ν)))
  (assembleAgent : YAMLConfig ν → Except (List Char) α) (o : SubAgentOutcomes α)

/-- Models `report_and_persist_state`: report the state, then write it into the stored remote
configuration; `update_state` fails when nothing is stored, and its errors are only logged. -/
def reportAndPersistState (st : SubAgentState α ν) (state : ConfigState) :
    SubAgentState α ν × List ConfigState :=
  let st' := if o.updateState then { st with remote := st.remote.map fun rc => { rc with state } }
    else st
  (st', [state])

/-- Models `apply_config_to_existing_supervisor`: the supervisor is consumed by `apply`, and only
a successful one is kept. -/
def applyConfigToExistingSupervisor (st : SubAgentState α ν) (effectiveAgent : α) :
    SubAgentState α ν × List ConfigState :=
  match o.apply with
  | .ok () =>
    let r := reportAndPersistState o st .applied
    ({ r.1 with supervisor := some effectiveAgent }, r.2)
  | .error e =>
    let r := reportAndPersistState o st (.failed e)
    ({ r.1 with supervisor := none }, r.2)

/-- Models `start_new_supervisor_reporting_config_and_state`. -/
def startNewSupervisorReportingConfigAndState (st : SubAgentState α ν) (effectiveAgent : α) :
    SubAgentState α ν × List ConfigState :=
  match o.start with
  | .ok () =>
    let r := reportAndPersistState o st .applied
    ({ r.1 with supervisor := some effectiveAgent }, r.2)
  | .error e =>
    let r := reportAndPersistState o st (.failed e)
    ({ r.1 with supervisor := none }, r.2)

/-- Models `build_and_start_supervisor_from_effective_agent`. A build failure is reported and,
unlike the failures of `start` and `apply`, not persisted. -/
def buildAndStartSupervisorFromEffectiveAgent (st : SubAgentState α ν) (effectiveAgent : α) :
    SubAgentState α ν × List ConfigState :=
  match o.buildSupervisor effectiveAgent with
  | .ok () => startNewSupervisorReportingConfigAndState o st effectiveAgent
  | .error e =>
    ({ st with supervisor := none }, [.failed ("could not build the supervisor: ".toList ++ e)])

/-- Models `apply_or_build_and_start_supervisor`: assemble, store the remote configuration if
there is one, then apply to the running supervisor or build a new one. -/
def applyOrBuildAndStartSupervisor (st : SubAgentState α ν) (yamlConfig : YAMLConfig ν)
    (maybeRemoteConfig : Option (RemoteConfig ν)) : SubAgentState α ν × List ConfigState :=
  match assembleAgent yamlConfig with
  | .ok effectiveAgent =>
    let st' := match maybeRemoteConfig with
      | some rc => if o.storeRemote then { st with remote := some rc } else st
      | none => st
    match st'.supervisor with
    | some _ => applyConfigToExistingSupervisor o st' effectiveAgent
    | none => buildAndStartSupervisorFromEffectiveAgent o st' effectiveAgent
  | .error err =>
    match maybeRemoteConfig with
    -- `report_reset_to_broken_local`: the remote configuration is gone, so it was applied
    | none => ({ st with supervisor := none }, [.applied])
    | some _ => (st, [.failed ("invalid config: ".toList ++ err)])

/-- Models `stop_supervisor_and_report_no_config`. -/
def stopSupervisorAndReportNoConfig (st : SubAgentState α ν) : SubAgentState α ν × List ConfigState :=
  ({ st with supervisor := none }, [.applied])

/-- Models `reset_to_local_config`: delete the stored remote configuration (errors are only
logged), then apply the local one if it can be loaded. -/
def resetToLocalConfig (st : SubAgentState α ν) : SubAgentState α ν × List ConfigState :=
  let st' := if o.deleteRemote then { st with remote := none } else st
  match (if o.loadLocal then st'.localConfig else none) with
  | some localConfig => applyOrBuildAndStartSupervisor assembleAgent o st' localConfig none
  | none => stopSupervisorAndReportNoConfig st'

/-- The part of `handle_remote_config` after the duplicate check. -/
def handleNewRemoteConfig (c : OpampRemoteConfig) (st : SubAgentState α ν) :
    SubAgentState α ν × List ConfigState :=
  match c.state.errorMessage with
  -- `check_and_report_config_failed`: reported, not persisted
  | some errorMessage => (st, [.failed errorMessage])
  | none =>
    match parse c with
    | .ok (some remoteConfig) =>
      let r := applyOrBuildAndStartSupervisor assembleAgent o st remoteConfig.config (some remoteConfig)
      (r.1, .applying :: r.2)
    | .ok none =>
      let r := resetToLocalConfig assembleAgent o st
      (r.1, .applying :: r.2)
    | .error err => (st, [.applying, .failed err.toText])

/-- Models `SubAgent::handle_remote_config`. The effects are the states reported for the
message's hash, in order. -/
def handleRemoteConfig (c : OpampRemoteConfig) (st : SubAgentState α ν) :
    SubAgentState α ν × List ConfigState :=
  match (if o.getRemote then st.remote else none) with
  | some rc =>
    if c.hash = rc.hash ∧ rc.state.isApplying = false then (st, [rc.state])
    else handleNewRemoteConfig parse assembleAgent o c st
  | none => handleNewRemoteConfig parse assembleAgent o c st

end Handle

end SubAgent

end AgentControl
