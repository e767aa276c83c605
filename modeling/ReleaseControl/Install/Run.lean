import ReleaseControl.Install.Reconcile
import ReleaseControl.Object.Change

/-!
# Runs

Installs follow each other on an object: object, counters and storage pass from each call to the
next. A call may be dropped where it waits for its engine, as the engine has it, or where it gives
its notice. In a run on one object there are changes between the installs; in a sequence of calls,
what the object declares may change before each of them.

* `Standing`: what passes from step to step; `trail`: steps made one after the other.
* `Install.Arguments`, `Install.Attempt`: what a call is made with.
* `Install.run`: steps on one object; `Install.calls`: a sequence of calls.
-/

namespace ReleaseControl

variable {σ : Type}

/-- Where a run stands. -/
structure Standing (σ : Type) where
  object : HelmRelease
  counters : Counters
  state : σ

/-- What steps leave behind that are made one after the other, each from where the one before it has
come to. -/
def trail {α β γ : Type} (perform : α → β → γ) (after : γ → β) : List α → β → List γ
  | [], _ => []
  | step :: rest, w =>
    let done := perform step w
    done :: trail perform after rest (after done)

namespace Call

def standing (call : Call σ) : Standing σ := ⟨call.object, call.counters, call.state⟩

/-- A call dropped while it gives its notice: the object is as the notice shows it, with readiness
computed anew, and nothing more has been counted. A call without a notice goes through. -/
def dropAtNotice (now : Instant) (counters : Counters) (call : Call σ) : Call σ :=
  match call.emissions with
  | [] => call
  | e :: _ =>
    { call with outcome := .dropped, object := e.object.summarize now, counters := counters }

end Call

namespace Install

/-! ## Calls -/

/-- What a call is made with besides its object. -/
structure Arguments where
  chart : Chart
  values : Json
  engine : Engine
  readings : Readings
  token : CancelToken := {}
  /-- Whether the call is dropped while it gives its notice, if it comes to that. -/
  dropped : Bool := false

/-- What a call is made with, and what its object declares by then. -/
structure Attempt extends Arguments where
  metadata : ObjectMeta
  spec : HelmReleaseSpec

namespace Attempt

/-- The request of a call on an object with a status. -/
def request (a : Attempt) (status : Option HelmReleaseStatus) : Request where
  object := ⟨a.metadata, a.spec, status⟩
  chart := a.chart
  values := a.values

def reconciled (s : Settings) (d : Driver σ) (a : Attempt) (w : Standing σ) : Call σ :=
  reconcile s a.engine d a.readings a.token (a.request w.object.status) w.counters w.state

/-- One call, from where a run stands. -/
def call (s : Settings) (d : Driver σ) (a : Attempt) (w : Standing σ) : Call σ :=
  if a.dropped then (a.reconciled s d w).dropAtNotice a.readings.summarized w.counters
  else a.reconciled s d w

end Attempt

/-- The attempt on an object that declares what it did. -/
def Arguments.attempt (a : Arguments) (o : HelmRelease) : Attempt :=
  { a with metadata := o.metadata, spec := o.spec }

def calls (s : Settings) (d : Driver σ) : List Attempt → Standing σ → List (Call σ) :=
  trail (Attempt.call s d) Call.standing

/-- Where a sequence of calls has come to at its end. -/
def after (s : Settings) (d : Driver σ) (attempts : List Attempt) (w : Standing σ) : Standing σ :=
  attempts.foldl (fun w a => (a.call s d w).standing) w

/-! ## Steps on one object -/

/-- A step of a run. -/
inductive Step where
  | change (c : HelmRelease.Change)
  | install (a : Arguments)

/-- What a step leaves behind: the call, if it was one, and where the run stands. -/
structure Performed (σ : Type) where
  call? : Option (Call σ)
  after : Standing σ

def Step.perform (s : Settings) (d : Driver σ) : Step → Standing σ → Performed σ
  | .change c, w => ⟨none, { w with object := c.apply w.object }⟩
  | .install a, w =>
    let call := (a.attempt w.object).call s d w
    ⟨some call, call.standing⟩

/-- A run: what each of its steps leaves behind. -/
def run (s : Settings) (d : Driver σ) : List Step → Standing σ → List (Performed σ) :=
  trail (Step.perform s d) Performed.after

end Install

end ReleaseControl
