import ReleaseControl.Engine.Program

/-!
# Journals of engine runs

The journal of a run tells what an engine did, with what storage answered before a witness saw the
answer. A run that is dropped where it waits is the run of a program that hangs there, so what holds of
all programs holds of dropped runs too.

* `Entry.record?`, `Entry.writtenKey?`: the record that a step makes known, and the key it wrote to.
* **`run_reports`**: what a run reports are the records of its journal.
-/

namespace ReleaseControl

/-- A step of an engine. -/
inductive Entry where
  | logged (line : String)
  /-- An operation on storage at a time, with the answer of storage itself. -/
  | performed (now : Instant) (op : StorageOp) (result : op.Result)
  /-- A record reported as written without an operation on storage. -/
  | reported (release : Release)
  | cancelled

namespace Entry

/-- The record that a step makes known as written: of a create or an update that succeeded the
record it stored, of a delete that succeeded the record it removed, marked as deleted. -/
def record? : Entry → Option Release
  | .performed _ (.create _ r) (.ok _) => some r
  | .performed _ (.update _ r) (.ok _) => some r
  | .performed now (.delete _) (.ok r) => some (Release.deletedAt r now)
  | .reported r => some r
  | _ => none

/-- The step wrote: it is an operation that writes and succeeded, or the report of a write. -/
def Wrote (e : Entry) : Prop := e.record? ≠ none

/-- The key under which a step wrote to storage, if it did. -/
def writtenKey? : Entry → Option String
  | .performed _ (.create key _) (.ok _) => some key
  | .performed _ (.update key _) (.ok _) => some key
  | .performed _ (.delete key) (.ok _) => some key
  | _ => none

/-- The record that a step removed from a key, marked as deleted, if it did. -/
def removed? (key : String) : Entry → Option Release
  | .performed now (.delete k) (.ok r) => if k = key then some (Release.deletedAt r now) else none
  | _ => none

end Entry

/-- The records that a journal makes known as written, in order. -/
def written (journal : List Entry) : List Release := journal.filterMap Entry.record?

/-- The record that a journal last made known under a key. -/
def lastUnder? (key : String) (journal : List Entry) : Option Release :=
  (written journal).reverse.find? (·.key = key)

variable {σ : Type}

/-- What a program does on storage in a state, after a number of operations. -/
def Program.journal (d : Driver σ) (clock : Nat → Instant) : Program → σ → Nat → List Entry
  | .finish _, _, _ | .hang, _, _ | .panic _, _, _ => []
  | .log line next, s, n => .logged line :: next.journal d clock s n
  | .storage op next, s, n =>
    .performed (clock n) op (d.perform op s).1 ::
      (next (op.stamp (clock n) (d.perform op s).1)).journal d clock (d.perform op s).2 (n + 1)
  | .report r next, s, n => .reported r :: next.journal d clock s n
  | .cancel next, s, n => .cancelled :: next.journal d clock s n

/-! ## Records -/

@[simp] theorem written_nil : written [] = [] := rfl

@[simp] theorem written_append (j k : List Entry) : written (j ++ k) = written j ++ written k :=
  List.filterMap_append

theorem written_cons (e : Entry) (j : List Entry) : written (e :: j) = e.record?.toList ++ written j := by
  cases h : e.record? <;> simp [written, h]

theorem written_eq_nil {j : List Entry} : written j = [] ↔ ∀ e ∈ j, ¬ e.Wrote := by
  rw [written, List.filterMap_eq_nil_iff]
  exact forall_congr' fun e => imp_congr_right fun _ => Classical.not_not.symm

theorem written_ne_nil {j : List Entry} : written j ≠ [] ↔ ∃ e ∈ j, e.Wrote := by
  rw [ne_eq, written_eq_nil, Classical.not_forall]
  exact exists_congr fun e => by rw [Classical.not_imp, Classical.not_not]

theorem report?_stamp (now : Instant) (op : StorageOp) (result : op.Result) :
    op.report? (op.stamp now result) = (Entry.performed now op result).record? := by
  cases op <;> cases result <;> rfl

theorem witnessed_perform (d : Driver σ) (now : Instant) (op : StorageOp) (s : σ) (rs : List Release) :
    (d.witnessed now).perform op (s, rs) = (op.stamp now (d.perform op s).1, (d.perform op s).2,
      rs ++ (Entry.performed now op (d.perform op s).1).record?.toList) := by
  rw [← report?_stamp]
  rfl

/-- **What a run reports are the records of its journal**, after those reported before. -/
theorem run_reports (d : Driver σ) (clock : Nat → Instant) (p : Program) (progress : Progress σ) :
    (p.run d clock progress).reports =
      progress.reports ++ written (p.journal d clock progress.state progress.operations) := by
  induction p generalizing progress with
  | finish _ => simp [Program.run, Program.journal]
  | hang => simp [Program.run, Program.journal]
  | panic _ => simp [Program.run, Program.journal]
  | log line next ih => rw [Program.run, ih]; rfl
  | storage op next ih =>
    rw [Program.run, witnessed_perform]
    simp only [ih, Program.journal, written_cons, List.append_assoc]
  | report r next ih => rw [Program.run, ih, Program.journal, written_cons]; simp [Entry.record?]
  | cancel next ih => rw [Program.run, ih]; rfl

end ReleaseControl
