import ReleaseControl.LogBuffer
import ReleaseControl.Storage.Witness

/-!
# Engine runs

An engine carries out an action: it logs, works on witnessed storage, and ends. What it does next
may depend on what storage answers.

* `Program`: all that an engine may do from some moment on.
* `Program.run`: one run of a program on a driver, recorded as a `Trace`.
* `Trace.result?`: what the one who started the run gets to see, if it gets to see anything.
-/

namespace ReleaseControl

/-- Why an action has no result. -/
inductive ActionError where
  /-- The action was carried out and failed. -/
  | failed (cause : String)
  /-- The action was cancelled before it ended. -/
  | cancelled
  /-- Storage rejected an operation. -/
  | storage (error : StorageError)
deriving DecidableEq

def ActionError.message : ActionError → String
  | .failed cause => cause
  | .cancelled => "action cancelled"
  | .storage error => error.message

/-- What an engine does from some moment on. -/
inductive Program where
  /-- Ends with a release or an error. -/
  | finish (result : Except ActionError Release)
  /-- Waits for ever. -/
  | hang
  /-- Breaks off in a panic. -/
  | panic (message : String)
  /-- Logs a line. -/
  | log (line : String) (next : Program)
  /-- Performs an operation on witnessed storage. -/
  | storage (op : StorageOp) (next : op.Result → Program)
  /-- Reports a record as written. -/
  | report (release : Release) (next : Program)
  /-- Asks for the run to be cancelled, and goes on. -/
  | cancel (next : Program)

/-- How a run ends. -/
inductive Ending where
  /-- It has not started: there is no room for its log. -/
  | unstarted
  | finished (result : Except ActionError Release)
  | hung
  | panicked (message : String)

/-- What a run has left behind so far. -/
structure Progress (σ : Type) where
  /-- The state of storage. -/
  state : σ
  /-- How many operations have been performed on storage. -/
  operations : Nat := 0
  /-- The records reported as written, in order. -/
  reports : List Release := []
  /-- What has been logged. -/
  log : LogBuffer
  /-- Whether the run is to be cancelled. -/
  cancelled : Bool := false

/-- A run: how it ended, and what it left behind. -/
structure Trace (σ : Type) extends Progress σ where
  ending : Ending

variable {σ : Type}

/-- The run of a program. The clock shows `clock n` at the operation on storage that comes after
`n` others. -/
def Program.run (d : Driver σ) (clock : Nat → Instant) : Program → Progress σ → Trace σ
  | .finish result, p => { p with ending := .finished result }
  | .hang, p => { p with ending := .hung }
  | .panic message, p => { p with ending := .panicked message }
  | .log line next, p => next.run d clock { p with log := p.log.log line }
  | .storage op next, p =>
    let (result, state, reports) :=
      (d.witnessed (clock p.operations)).perform op (p.state, p.reports)
    (next result).run d clock
      { p with state := state, operations := p.operations + 1, reports := reports }
  | .report release next, p => next.run d clock { p with reports := p.reports ++ [release] }
  | .cancel next, p => next.run d clock { p with cancelled := true }

def Trace.started (t : Trace σ) : Bool :=
  match t.ending with
  | .unstarted => false
  | _ => true

/-- The result of a run. A run that ends keeps its result even if it is to be cancelled; one that
hangs is cancelled if it is to be, and else has none, like one that panics or has not started. -/
def Trace.result? (t : Trace σ) : Option (Except ActionError Release) :=
  match t.ending with
  | .finished result => some result
  | .hung => if t.cancelled then some (.error .cancelled) else none
  | .panicked _ | .unstarted => none

end ReleaseControl
