import Mathlib.Data.List.Infix
import ReleaseControl.Proofs.Engine.Journal

/-!
# Logs of engine runs

* `LogBuffer.Holds`: the buffer holds the last of some lines, as many as fit.
* **`run_log`**: the buffer of a run holds the last lines that its journal logs.
* `Program.muted`: a program that logs nothing; **`run_muted`**: its run is the same but for the log.
-/

namespace ReleaseControl

/-! ## Buffers -/

/-- The buffer holds the last of some lines: all of them if they fit, else as many as do. -/
structure LogBuffer.Holds (b : LogBuffer) (lines : List String) : Prop where
  last : b.lines <:+ lines
  length : b.lines.length = min b.capacity.toNat lines.length

namespace LogBuffer

variable {b : LogBuffer} {lines : List String}

theorem holds_nil (empty : b.lines = []) : b.Holds [] where
  last := by rw [empty]
  length := by rw [empty, List.length_nil, Nat.min_zero]

theorem Holds.eq_nil (h : b.Holds lines) (nothing : b.capacity = 0 ∨ lines = []) : b.lines = [] := by
  refine List.eq_nil_of_length_eq_zero (h.length.trans ?_)
  rcases nothing with room | rfl
  · rw [room, UInt64.toNat_zero, Nat.zero_min]
  · exact Nat.min_zero _

@[simp] theorem capacity_log (b : LogBuffer) (line : String) : (b.log line).capacity = b.capacity := by
  unfold log
  split_ifs <;> rfl

@[simp] theorem capacity_foldl_log (more : List String) (b : LogBuffer) :
    (more.foldl log b).capacity = b.capacity := by
  induction more generalizing b with
  | nil => rfl
  | cons line more ih => rw [List.foldl_cons, ih, capacity_log]

/-- **The step**: a full buffer drops the oldest line that it holds, and holds the new one. -/
theorem Holds.log (h : b.Holds lines) (line : String) : (b.log line).Holds (lines ++ [line]) := by
  have ⟨⟨older, split⟩, length⟩ := h
  have count : lines.length = older.length + b.lines.length := by rw [← split, List.length_append]
  unfold LogBuffer.log
  split_ifs with none full
  · -- nothing is ever held
    have nothing : b.lines = [] := h.eq_nil (.inl none)
    refine ⟨?_, ?_⟩
    · rw [nothing]
      exact List.nil_suffix
    · rw [nothing, none, UInt64.toNat_zero, Nat.zero_min, List.length_nil]
  · have room : b.capacity.toNat ≠ 0 := fun h => none (UInt64.toNat_inj.1 h)
    refine ⟨?_, ?_⟩
    · obtain ⟨oldest, rest, held⟩ : ∃ oldest rest, b.lines = oldest :: rest :=
        List.exists_cons_of_ne_nil fun empty => room (by rw [← full, empty, List.length_nil])
      refine ⟨older ++ [oldest], ?_⟩
      rw [← split, held]
      simp
    · simp only [List.length_append, List.length_tail, List.length_singleton]
      omega
  · -- what is held is all there was
    refine ⟨⟨older, ?_⟩, ?_⟩
    · rw [← split, List.append_assoc]
    · simp only [List.length_append, List.length_singleton]
      omega

/-- **The run**: a buffer that has been filled line by line holds the last lines. -/
theorem Holds.foldl_log (h : b.Holds lines) (more : List String) :
    (more.foldl LogBuffer.log b).Holds (lines ++ more) := by
  induction more generalizing b lines with
  | nil => rwa [List.append_nil]
  | cons line more ih =>
    rw [List.foldl_cons, List.append_cons]
    exact ih (h.log line)

theorem extend_of_nothing (h : b.Holds lines) (nothing : b.capacity = 0 ∨ lines = []) (message : String) :
    b.extend message = message := by
  rw [extend, isEmpty, h.eq_nil nothing, List.isEmpty_nil, if_pos rfl]

theorem extend_of_lines (h : b.Holds lines) (room : b.capacity ≠ 0) (any : lines ≠ [])
    (message : String) :
    ∃ older last, lines = older ++ last ∧ last.length = min b.capacity.toNat lines.length ∧
      b.extend message =
        message ++ "\n\nLast Helm logs:\n\n" ++ String.intercalate "\n" last := by
  obtain ⟨older, split⟩ := h.last
  refine ⟨older, b.lines, split.symm, h.length, ?_⟩
  have held : b.lines ≠ [] := by
    rw [← List.length_pos_iff, h.length, Nat.lt_min]
    exact ⟨Nat.pos_of_ne_zero fun none => room (UInt64.toNat_inj.1 none), List.length_pos_iff.2 any⟩
  rw [extend, isEmpty, List.isEmpty_eq_false_iff.2 held, if_neg Bool.false_ne_true, text]

end LogBuffer

/-! ## Runs -/

def Entry.line? : Entry → Option String
  | .logged line => some line
  | _ => none

def logged (journal : List Entry) : List String := journal.filterMap Entry.line?

variable {σ : Type}

theorem run_log_eq_foldl (d : Driver σ) (clock : Nat → Instant) (p : Program) (progress : Progress σ) :
    (p.run d clock progress).log =
      (logged (p.journal d clock progress.state progress.operations)).foldl LogBuffer.log progress.log := by
  induction p generalizing progress with
  | finish _ => rfl
  | hang => rfl
  | panic _ => rfl
  | log line next ih => rw [Program.run, ih]; rfl
  | storage op next ih =>
    rw [Program.run, witnessed_perform]
    exact ih _ _
  | report r next ih => rw [Program.run, ih]; rfl
  | cancel next ih => rw [Program.run, ih]; rfl

/-- **The buffer of a run holds the last lines** that its journal logs. -/
theorem run_log (d : Driver σ) (clock : Nat → Instant) (p : Program) {progress : Progress σ}
    (blank : progress.log.lines = []) : (p.run d clock progress).log.Holds
      (logged (p.journal d clock progress.state progress.operations)) := by
  rw [run_log_eq_foldl]
  exact (LogBuffer.holds_nil blank).foldl_log _

/-- The program that logs nothing, and else does what another one does. -/
def Program.muted : Program → Program
  | .finish result => .finish result
  | .hang => .hang
  | .panic message => .panic message
  | .log _ next => next.muted
  | .storage op next => .storage op fun result => (next result).muted
  | .report r next => .report r next.muted
  | .cancel next => .cancel next.muted

def Trace.withLog (t : Trace σ) (b : LogBuffer) : Trace σ := { t with log := b }

/-- **Nothing but the log of a run depends on what is logged**, or on the buffer. -/
theorem run_muted (d : Driver σ) (clock : Nat → Instant) (p : Program) (progress : Progress σ)
    (b : LogBuffer) : p.muted.run d clock { progress with log := b } =
      (p.run d clock progress).withLog b := by
  induction p generalizing progress with
  | finish result => rfl
  | hang => rfl
  | panic message => rfl
  | log line next ih => exact ih { progress with log := progress.log.log line }
  | storage op next ih =>
    let answer := (d.witnessed (clock progress.operations)).perform op (progress.state, progress.reports)
    exact ih answer.1
      { progress with
        state := answer.2.1
        operations := progress.operations + 1
        reports := answer.2.2 }
  | report r next ih => exact ih { progress with reports := progress.reports ++ [r] }
  | cancel next ih => exact ih { progress with cancelled := true }

end ReleaseControl
