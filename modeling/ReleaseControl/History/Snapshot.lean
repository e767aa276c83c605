import ReleaseControl.Release.Basic

/-!
# Snapshots

What the status of an object remembers of a release record.

* `Snapshot`: the remembered record, with its names.
* `Release.toSnapshot`: the snapshot of a record.
* `Release.testHooks`: the test hooks that have run, by name.
-/

namespace ReleaseControl

/-- What is remembered of the last run of a test hook. -/
structure TestHookStatus where
  lastStarted : Option String := none
  lastCompleted : Option String := none
  phase : Option String := none
deriving Inhabited, DecidableEq

/-- What is remembered of a release record. The test hooks are there once one of them has run. -/
structure Snapshot where
  digest : String
  name : String
  ns : String
  version : Int32
  status : String
  chartName : String
  chartVersion : String
  appVersion : Option String := none
  configDigest : String
  firstDeployed : Option String := none
  lastDeployed : Option String := none
  deleted : Option String := none
  testHooks : Option (Table String TestHookStatus) := none
deriving Inhabited, DecidableEq

def versionText (version : Int32) : String := String.ofList (intChars version.toInt)

namespace Snapshot

def fullReleaseName (s : Snapshot) : String :=
  s.ns ++ "/" ++ s.name ++ ".v" ++ versionText s.version

def versionedChartName (s : Snapshot) : String := s.chartName ++ "@" ++ s.chartVersion

def hasBeenTested (s : Snapshot) : Bool := s.testHooks.isSome

/-- Whether the snapshot is of the given revision of a release. -/
def targets (s : Snapshot) (name ns : String) (version : Int32) : Bool :=
  s.name == name && s.ns == ns && s.version == version

end Snapshot

/-! ## From records -/

namespace Release

/-- What is remembered of a run of a test hook. -/
def hookStatus (run : HookRun) : TestHookStatus where
  lastStarted := run.startedAt.map (·.statusText)
  lastCompleted := run.completedAt.map (·.statusText)
  phase := some run.phase.name

/-- The runs of hooks that are bound to tests, in the order of the hooks. -/
def testRuns (r : Release) : List (String × TestHookStatus) :=
  (r.hooks.filter fun h => h.events.contains .test).filterMap fun h =>
    h.lastRun.map fun run => (h.name, hookStatus run)

/-- The test hooks that have run, by name; none while none has. -/
def testHooks (r : Release) : Option (Table String TestHookStatus) :=
  let hooks := Table.ofList r.testRuns
  if hooks.isEmpty then none else some hooks

def toSnapshot (r : Release) : Snapshot where
  digest := r.digest
  name := r.name
  ns := r.ns
  version := r.version
  status := r.status.name
  chartName := r.chart.name
  chartVersion := r.chart.version
  appVersion := r.chart.appVersion
  configDigest := r.config.digest
  firstDeployed := r.firstDeployed.map (·.statusText)
  lastDeployed := r.lastDeployed.map (·.statusText)
  deleted := r.deleted.map (·.statusText)
  testHooks := r.testHooks

end Release

/-! ## Codecs -/

def TestHookStatus.record : Record TestHookStatus where
  name := "TestHookStatus"
  blank := default
  fields :=
    [.optional "lastStarted" .string (·.lastStarted) fun v s => { s with lastStarted := v },
     .optional "lastCompleted" .string (·.lastCompleted) fun v s => { s with lastCompleted := v },
     .optional "phase" .string (·.phase) fun v s => { s with phase := v }]

def TestHookStatus.codec : Codec TestHookStatus := TestHookStatus.record.codec

namespace Snapshot

def record : Record Snapshot where
  name := "Snapshot"
  blank := default
  fields :=
    [.required "digest" .string (·.digest) fun v s => { s with digest := v },
     .required "name" .string (·.name) fun v s => { s with name := v },
     .required "namespace" .string (·.ns) fun v s => { s with ns := v },
     .required "version" .int32 (·.version) fun v s => { s with version := v },
     .required "status" .string (·.status) fun v s => { s with status := v },
     .required "chartName" .string (·.chartName) fun v s => { s with chartName := v },
     .required "chartVersion" .string (·.chartVersion) fun v s => { s with chartVersion := v },
     .optional "appVersion" .string (·.appVersion) fun v s => { s with appVersion := v },
     .required "configDigest" .string (·.configDigest) fun v s => { s with configDigest := v },
     .optional "firstDeployed" .string (·.firstDeployed) fun v s => { s with firstDeployed := v },
     .optional "lastDeployed" .string (·.lastDeployed) fun v s => { s with lastDeployed := v },
     .optional "deleted" .string (·.deleted) fun v s => { s with deleted := v },
     .optional "testHooks" (.table TestHookStatus.codec) (·.testHooks)
       fun v s => { s with testHooks := v }]

def codec : Codec Snapshot := record.codec

end Snapshot

end ReleaseControl
