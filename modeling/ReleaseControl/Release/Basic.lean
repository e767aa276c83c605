import ReleaseControl.Codec.Record
import ReleaseControl.Digest
import ReleaseControl.Instant.Text

/-!
# Releases

Charts and the records that a chart's releases leave in storage.

* `Chart`, `Hook`, `Release`: the domain types.
* `Release.codec` and the codecs of its parts: how records are stored.
* `Release.digest`: the digest of a stored record.
-/

namespace ReleaseControl

/-! ## Charts -/

/-- What a chart says about itself. -/
structure ChartMetadata where
  name : String
  version : String
  appVersion : Option String := none
deriving Inhabited, DecidableEq

/-- A chart that has been fetched for a release. -/
structure Chart where
  metadata : ChartMetadata
deriving Inhabited, DecidableEq

/-! ## Hooks -/

/-- The moment in the life of a release that a hook is bound to. -/
inductive HookEvent where
  | preInstall
  | postInstall
  | preUpgrade
  | postUpgrade
  | preRollback
  | postRollback
  | preDelete
  | postDelete
  | test
deriving DecidableEq

namespace HookEvent

def all : List HookEvent :=
  [.preInstall, .postInstall, .preUpgrade, .postUpgrade, .preRollback, .postRollback, .preDelete,
   .postDelete, .test]

def name : HookEvent → String
  | .preInstall => "pre-install"
  | .postInstall => "post-install"
  | .preUpgrade => "pre-upgrade"
  | .postUpgrade => "post-upgrade"
  | .preRollback => "pre-rollback"
  | .postRollback => "post-rollback"
  | .preDelete => "pre-delete"
  | .postDelete => "post-delete"
  | .test => "test"

end HookEvent

/-- How a run of a hook ended, if it has. -/
inductive HookPhase where
  | unknown
  | running
  | succeeded
  | failed
deriving DecidableEq

namespace HookPhase

def all : List HookPhase := [.unknown, .running, .succeeded, .failed]

def name : HookPhase → String
  | .unknown => "Unknown"
  | .running => "Running"
  | .succeeded => "Succeeded"
  | .failed => "Failed"

end HookPhase

/-- The last run of a hook. -/
structure HookRun where
  startedAt : Option Instant := none
  completedAt : Option Instant := none
  phase : HookPhase
deriving DecidableEq

/-- A hook of a chart, as a release carries it. -/
structure Hook where
  name : String
  events : List HookEvent
  lastRun : Option HookRun := none
deriving DecidableEq

/-! ## Releases -/

/-- The state of a release record. -/
inductive ReleaseStatus where
  | unknown
  | deployed
  | uninstalled
  | superseded
  | failed
  | uninstalling
  | pendingInstall
  | pendingUpgrade
  | pendingRollback
deriving DecidableEq

namespace ReleaseStatus

def all : List ReleaseStatus :=
  [.unknown, .deployed, .uninstalled, .superseded, .failed, .uninstalling, .pendingInstall,
   .pendingUpgrade, .pendingRollback]

def name : ReleaseStatus → String
  | .unknown => "unknown"
  | .deployed => "deployed"
  | .uninstalled => "uninstalled"
  | .superseded => "superseded"
  | .failed => "failed"
  | .uninstalling => "uninstalling"
  | .pendingInstall => "pending-install"
  | .pendingUpgrade => "pending-upgrade"
  | .pendingRollback => "pending-rollback"

end ReleaseStatus

/-- A release record: one revision of a release, with the values it was made with. -/
structure Release where
  name : String
  ns : String
  version : Int32
  chart : ChartMetadata
  config : Json
  status : ReleaseStatus := .unknown
  firstDeployed : Option Instant := none
  lastDeployed : Option Instant := none
  deleted : Option Instant := none
  hooks : List Hook := []

/-! ## Codecs -/

def HookEvent.codec : Codec HookEvent := .enumeration HookEvent.all HookEvent.name

def HookPhase.codec : Codec HookPhase := .enumeration HookPhase.all HookPhase.name

def ReleaseStatus.codec : Codec ReleaseStatus := .enumeration ReleaseStatus.all ReleaseStatus.name

def ChartMetadata.record : Record ChartMetadata where
  name := "ChartMetadata"
  blank := default
  fields :=
    [.required "name" .string (·.name) fun v s => { s with name := v },
     .required "version" .string (·.version) fun v s => { s with version := v },
     .optional "appVersion" .string (·.appVersion) fun v s => { s with appVersion := v }]

def ChartMetadata.codec : Codec ChartMetadata := ChartMetadata.record.codec

def Chart.record : Record Chart where
  name := "Chart"
  blank := default
  fields :=
    [.required "metadata" ChartMetadata.codec (·.metadata) fun v s => { s with metadata := v }]

def Chart.codec : Codec Chart := Chart.record.codec

def HookRun.record : Record HookRun where
  name := "HookExecution"
  blank := { phase := .unknown }
  fields :=
    [.optional "startedAt" .instant (·.startedAt) fun v s => { s with startedAt := v },
     .optional "completedAt" .instant (·.completedAt) fun v s => { s with completedAt := v },
     .required "phase" HookPhase.codec (·.phase) fun v s => { s with phase := v }]

def HookRun.codec : Codec HookRun := HookRun.record.codec

def Hook.record : Record Hook where
  name := "Hook"
  blank := { name := "", events := [] }
  fields :=
    [.required "name" .string (·.name) fun v s => { s with name := v },
     .required "events" (.list HookEvent.codec) (·.events) fun v s => { s with events := v },
     .optional "lastRun" HookRun.codec (·.lastRun) fun v s => { s with lastRun := v }]

def Hook.codec : Codec Hook := Hook.record.codec

namespace Release

def record : Record Release where
  name := "Release"
  blank := { name := "", ns := "", version := 0, chart := default, config := .null }
  fields :=
    [.required "name" .string (·.name) fun v s => { s with name := v },
     .required "namespace" .string (·.ns) fun v s => { s with ns := v },
     .required "version" .int32 (·.version) fun v s => { s with version := v },
     .required "chart" ChartMetadata.codec (·.chart) fun v s => { s with chart := v },
     .required "config" .json (·.config) fun v s => { s with config := v },
     .required "status" ReleaseStatus.codec (·.status) fun v s => { s with status := v },
     .optional "firstDeployed" .instant (·.firstDeployed) fun v s => { s with firstDeployed := v },
     .optional "lastDeployed" .instant (·.lastDeployed) fun v s => { s with lastDeployed := v },
     .optional "deleted" .instant (·.deleted) fun v s => { s with deleted := v },
     .defaulted "hooks" (.list Hook.codec) [] (·.hooks) fun v s => { s with hooks := v }]

def codec : Codec Release := record.codec

/-- The text that stands for a record in storage. -/
def canonicalText (r : Release) : String := (codec.encode r).canonicalText

/-- The digest of a record: that of its canonical text. -/
def digest (r : Release) : String := (codec.encode r).digest

/-- The revision `version` of a release of a chart, made with the given values and not deployed
yet. -/
def draft (name ns : String) (version : Int32) (chart : Chart) (config : Json) : Release where
  name := name
  ns := ns
  version := version
  chart := chart.metadata
  config := config

end Release

end ReleaseControl
