import ReleaseControl.Proofs.Engine.Journal
import ReleaseControl.Storage.Records

/-!
# Runs that write nothing

* `Driver.Steady`: the driver changes its state only by writes that succeed.
* **`state_run`**: a run without a write, on a steady driver.
-/

namespace ReleaseControl

variable {σ : Type}

/-- An operation leaves the state alone unless it is a write that succeeds. -/
def Driver.Steady (d : Driver σ) : Prop :=
  ∀ op s, (d.perform op s).2 = s ∨ op.isWrite = true ∧ ∃ answer, (d.perform op s).1 = .ok answer

theorem steady_driver : Records.driver.Steady := by
  intro op t
  cases op with
  | get key =>
    left
    cases h : t.find? key <;> simp [Records.driver, Records.perform, h]
  | list name => exact .inl rfl
  | create key r =>
    by_cases h : t.contains key
    · left
      simp [Records.driver, Records.perform, h]
    · right
      exact ⟨rfl, (), by simp [Records.driver, Records.perform, h]⟩
  | update key r =>
    by_cases h : t.contains key
    · right
      exact ⟨rfl, (), by simp [Records.driver, Records.perform, h]⟩
    · left
      simp [Records.driver, Records.perform, h]
  | delete key =>
    cases h : t.find? key with
    | some r =>
      right
      exact ⟨rfl, r, by simp [Records.driver, Records.perform, h]⟩
    | none =>
      left
      simp [Records.driver, Records.perform, h]

theorem Driver.Steady.unchanged {d : Driver σ} (steady : d.Steady) {op : StorageOp} {s : σ}
    {now : Instant} (quiet : ¬ (Entry.performed now op (d.perform op s).1).Wrote) :
    (d.perform op s).2 = s := by
  rcases steady op s with same | ⟨writes, answer, ok⟩
  · exact same
  · rw [ok] at quiet
    cases op with
    | create key r => exact absurd (Option.some_ne_none _) quiet
    | update key r => exact absurd (Option.some_ne_none _) quiet
    | delete key => exact absurd (Option.some_ne_none _) quiet
    | get key => cases writes
    | list name => cases writes

/-- **A run without a write leaves the state of a steady driver as it was.** -/
theorem state_run {d : Driver σ} (steady : d.Steady) (clock : Nat → Instant) (p : Program)
    (progress : Progress σ)
    (quiet : ∀ e ∈ p.journal d clock progress.state progress.operations, ¬ e.Wrote) :
    (p.run d clock progress).state = progress.state := by
  -- on the program: each step but an operation on storage passes the state on as it is
  induction p generalizing progress with
  | finish result => rfl
  | hang => rfl
  | panic message => rfl
  | log line next ih => exact ih _ fun e he => quiet e (List.mem_cons_of_mem _ he)
  | report r next ih => exact ih _ fun e he => quiet e (List.mem_cons_of_mem _ he)
  | cancel next ih => exact ih _ fun e he => quiet e (List.mem_cons_of_mem _ he)
  | storage op next ih =>
    have unchanged := steady.unchanged (quiet _ List.mem_cons_self)
    rw [Program.run, witnessed_perform]
    refine (ih _ _ fun e he => quiet e (List.mem_cons_of_mem _ he)).trans ?_
    exact unchanged

end ReleaseControl
