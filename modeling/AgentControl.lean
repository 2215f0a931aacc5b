import AgentControl.Lib.Run
import AgentControl.Lib.Except
import AgentControl.Lib.Regex
import AgentControl.Opamp.RemoteConfig
import AgentControl.Opamp.Validators
import AgentControl.Values.Config
import AgentControl.SubAgent.RemoteConfigParser
import AgentControl.Control.Model
import AgentControl.Control.Reconcile
import AgentControl.SubAgent.Model
import AgentControl.SubAgent.Persist
import AgentControl.Safety.SignatureGate
import AgentControl.Safety.DenyList
import AgentControl.Lib.Path
import AgentControl.Filesystem.SafePath
import AgentControl.Lib.EState
import AgentControl.Filesystem.Rendered
import AgentControl.Filesystem.Effects
import AgentControl.Lib.Text
import AgentControl.AgentType.Variables
import AgentControl.AgentType.Templates
import AgentControl.Filesystem.Definition
import AgentControl.Filesystem.Containment
import AgentControl.Filesystem.Tracking
import AgentControl.Updater.BackoffGate
import AgentControl.Package.Manager
import AgentControl.Updater.OnHost
import AgentControl.Package.OciPackageManager
import AgentControl.Package.Lifecycle
import AgentControl.SubAgent.RestartPolicy
import AgentControl.AgentType.AgentTypeId
import AgentControl.K8s.GarbageCollector
import AgentControl.Control.DynamicConfig
import AgentControl.AgentType.VariableTree
import AgentControl.Lib.Map
import AgentControl.Checkers.Health
import AgentControl.HttpServer.Status
import AgentControl.Lib.Json
import AgentControl.Checkers.K8sHealth
import AgentControl.AgentType.ValueTemplates
import AgentControl.K8s.Objects
import AgentControl.AgentType.PackageVariables
