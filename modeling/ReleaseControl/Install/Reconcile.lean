import ReleaseControl.Engine.Program
import ReleaseControl.Event.Basic
import ReleaseControl.Metrics.Actions

/-!
# Installs

An install makes the first release of a chart for an object and folds what became of it into the
status of the object. The history is cleared first: an install begins a new lineage of releases.
What the engine wrote to storage is merged into the history whether or not it succeeded. Only a
failure that wrote to storage counts towards remediation; any other error is handed back, to be
tried again. A call panics where there is no room for its log or a failure cannot be counted.
Readiness is computed anew however the call ends.

* `Install.start`, `Install.fail`, `Install.succeed`: the object at the start and at the two ends.
* `Install.trace`: the run of the engine; `Install.settle`: what becomes of it.
* `Install.reconcile`: one call.
-/

namespace ReleaseControl

/-- What is to be installed: the object, with the chart and the values resolved for it. -/
structure Request where
  object : HelmRelease
  chart : Chart
  values : Json

/-- What an engine is given. -/
structure EngineInput where
  storageNamespace : String
  object : HelmRelease
  chart : Chart
  values : Json

/-- An engine: what it does with what it is given. -/
abbrev Engine := EngineInput → Program

/-- The clock during a call. -/
structure Readings where
  /-- The clock at the operations on storage. -/
  storage : Nat → Instant
  /-- The clock when the outcome is marked. -/
  released : Instant
  /-- The clock when the tests are marked as awaited. -/
  awaited : Instant
  /-- The clock when readiness is computed. -/
  summarized : Instant

/-- The token that cancels a call, as it is when the call starts. -/
structure CancelToken where
  cancelled : Bool := false
  /-- Whether a cancelled token is noticed before the engine starts. -/
  noticedFirst : Bool := false

/-- How a call ends. -/
inductive Outcome where
  | ok
  /-- An error without effect, handed back. -/
  | error (e : ActionError)
  /-- The call was dropped while the engine was waiting. -/
  | dropped
  | panicked (message : String)

/-- A notice, with the object as it was when the notice was given. -/
structure Emission where
  object : HelmRelease
  notice : Notice

/-- What a call leaves behind. -/
structure Call (σ : Type) where
  outcome : Outcome
  object : HelmRelease
  emissions : List Emission
  counters : Counters
  state : σ

/-- What kind of reconciler acts on releases. -/
inductive ReconcilerKind where
  /-- Makes releases. -/
  | release
  /-- Remedies failed releases. -/
  | remediate
  /-- Tests releases. -/
  | test
deriving DecidableEq

namespace ReconcilerKind

def name : ReconcilerKind → String
  | .release => "Release"
  | .remediate => "Remediate"
  | .test => "Test"

/-- Whether reconcilers of the kind write to the storage of releases. -/
def mutatesRelease : ReconcilerKind → Bool
  | .release | .remediate => true
  | .test => false

end ReconcilerKind

namespace Install

/-- The action in logs, events and counters. -/
def label : String := ReleaseAction.install.label

def kind : ReconcilerKind := .release

/-- The settings of an installer, for diagnostics. -/
def describe (s : Settings) : String :=
  "Install \x7b config: ControllerConfig \x7b log_buffer_size: "
    ++ String.ofList (Nat.toDigits 10 s.logCapacity.toNat) ++ ", event_reporter: "
    ++ visibleQuote s.eventReporter ++ " \x7d, .. \x7d"

/-! ## Objects during a call -/

/-- The object when the engine starts: the install noted, the history cleared. -/
def start (o : HelmRelease) : HelmRelease :=
  o.modifyStatus fun s => { s with lastAttempted := some .install, history := [] }

def engineInput (r : Request) : EngineInput where
  storageNamespace := r.object.storageNamespace
  object := start r.object
  chart := r.chart
  values := r.values

/-- What is told of a failed install. -/
def failureMessage (o : HelmRelease) (chart : Chart) (e : ActionError) : String :=
  "Helm install failed for release " ++ o.releaseNamespace ++ "/" ++ o.releaseName
    ++ " with chart " ++ chart.metadata.name ++ "@" ++ chart.metadata.version ++ ": "
    ++ trimBlank e.message

/-- What is told of a successful install. -/
def successMessage (cur : Snapshot) : String :=
  "Helm install succeeded for release " ++ cur.fullReleaseName ++ " with chart "
    ++ cur.versionedChartName

/-- What is told while tests are awaited. -/
def awaitingMessage (cur : Snapshot) : String :=
  "Release " ++ cur.fullReleaseName ++ " with chart " ++ cur.versionedChartName
    ++ " has not been tested yet"

def failedReason : String := "InstallFailed"

def succeededReason : String := "InstallSucceeded"

def awaitingReason : String := "AwaitingTests"

/-- A failed install marked in the object, which counts it among all failures already, and the
notice of it. -/
def fail (t : Readings) (r : Request) (log : LogBuffer) (e : ActionError) (o : HelmRelease) :
    Emission :=
  let message := failureMessage o r.chart e
  { object := o.mark t.released .released .false failedReason message
    notice :=
      { metadata := { revision := r.chart.metadata.version, token := r.values.digest }
        severity := .warning
        reason := failedReason
        message := log.extend message } }

/-- The object with a failed install counted towards remediation, if there is a number for it. -/
def remedied? (o : HelmRelease) : Option HelmRelease :=
  o.modifyStatus? o.install.remediationOrDefault.countFailure?

/-- The release that a successful install reports: the latest of the history, or the one that the
engine answered with. -/
def current (release : Release) (o : HelmRelease) : Snapshot :=
  o.statusOrNew.history.latest?.getD release.toSnapshot

/-- A successful install noted in the object, with the notice of it. -/
def succeed (t : Readings) (release : Release) (o : HelmRelease) : HelmRelease × Emission :=
  let cur := current release o
  let marked := o.mark t.released .released .true succeededReason (successMessage cur)
  let awaiting :=
    if marked.test.enable && !cur.hasBeenTested then
      marked.mark t.awaited .testSuccess .unknown awaitingReason (awaitingMessage cur)
    else marked
  let notice : Notice :=
    { metadata := { revision := cur.chartVersion, token := cur.configDigest }
      severity := .normal
      reason := succeededReason
      message := successMessage cur }
  (awaiting, ⟨awaiting, notice⟩)

/-! ## Calls -/

variable {σ : Type}

/-- What the engine does in a call: nothing when a cancelled token is noticed before it starts. -/
def program (engine : Engine) (token : CancelToken) (r : Request) : Program :=
  if token.cancelled && token.noticedFirst then .hang else engine (engineInput r)

def hasRoom (s : Settings) : Bool := (LogBuffer.new? s.logCapacity).isSome

/-- The run of the engine in a call. -/
def trace (s : Settings) (engine : Engine) (d : Driver σ) (t : Readings) (token : CancelToken)
    (r : Request) (state : σ) : Trace σ :=
  match LogBuffer.new? s.logCapacity with
  | none => { state := state, log := default, ending := .unstarted }
  | some log =>
    (program engine token r).run d t.storage
      { state := state, log := log, cancelled := token.cancelled }

/-- How a call ends when the engine has no result. -/
def interruption (trace : Trace σ) : Outcome :=
  match trace.ending with
  | .unstarted => .panicked LogBuffer.capacityMessage
  | .panicked message => .panicked message
  | _ => .dropped

/-- The object of a call whose engine has no result. -/
def interrupted (r : Request) (trace : Trace σ) : HelmRelease :=
  if trace.started then start r.object else r.object

/-- A call whose engine fails after a write. The failure counts among all failures before the notice
of it is given, and towards remediation afterwards. -/
def settleFailure (t : Readings) (r : Request) (counters : Counters) (trace : Trace σ)
    (e : ActionError) (merged : HelmRelease) : Call σ :=
  match merged.modifyStatus? HelmReleaseStatus.countFailure? with
  | none => ⟨.panicked overflowMessage, merged, [], counters, trace.state⟩
  | some counted =>
    let told := fail t r trace.log e counted
    match remedied? told.object with
    | none => ⟨.panicked overflowMessage, told.object, [told], counters, trace.state⟩
    | some object =>
      ⟨.ok, object, [told],
        (counters.countRemediationFailure label).countReconciliation label .failure, trace.state⟩

def settle (t : Readings) (r : Request) (counters : Counters) (trace : Trace σ) : Call σ :=
  match trace.result? with
  | none => ⟨interruption trace, interrupted r trace, [], counters, trace.state⟩
  | some result =>
    let observed := ObservedSet.ofReleases trace.reports
    let merged := (start r.object).mergeObserved observed
    match result with
    | .error e =>
      if observed.isEmpty then
        ⟨.error e, merged, [], counters.countReconciliation label .error, trace.state⟩
      else settleFailure t r counters trace e merged
    | .ok release =>
      let (object, emission) := succeed t release merged
      ⟨.ok, object, [emission], counters.countReconciliation label .success, trace.state⟩

/-- One call: the engine run, what became of it noted in the object, readiness computed anew. -/
def reconcile (s : Settings) (engine : Engine) (d : Driver σ) (t : Readings) (token : CancelToken)
    (r : Request) (counters : Counters) (state : σ) : Call σ :=
  let call := settle t r counters (trace s engine d t token r state)
  { call with object := call.object.summarize t.summarized }

end Install

end ReleaseControl
