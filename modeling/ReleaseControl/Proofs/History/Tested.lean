import ReleaseControl.History.Snapshot
import ReleaseControl.Proofs.Table.Sorting

/-!
# Tested releases

* `Hook.Tested`: the hook is bound to tests and has run.
* `testRuns_eq`: what a snapshot remembers follows from such hooks alone.
* **`tested_by_hooks`**: which releases are tested, and what is remembered of their tests.
-/

namespace ReleaseControl

/-- The hook is bound to tests and has run. -/
def Hook.Tested (h : Hook) : Prop := .test ∈ h.events ∧ h.lastRun ≠ none

instance : DecidablePred Hook.Tested := fun h =>
  inferInstanceAs (Decidable (.test ∈ h.events ∧ h.lastRun ≠ none))

namespace Release

variable {r : Release}

/-- The name of a hook with what is remembered of its last run. -/
def rememberedRun? (h : Hook) : Option (String × TestHookStatus) :=
  h.lastRun.map fun run => (h.name, hookStatus run)

theorem testRuns_eq (r : Release) : r.testRuns = (r.hooks.filter (·.Tested)).filterMap rememberedRun? := by
  rw [testRuns, List.filterMap_filter, List.filterMap_filter]
  refine List.filterMap_congr fun h _ => ?_
  -- a hook that has not run is not remembered, whether or not it is bound to tests
  by_cases bound : .test ∈ h.events <;> cases ran : h.lastRun <;>
    simp [rememberedRun?, Hook.Tested, bound, ran]

theorem lookup_runs (hooks : List Hook) (name : String) :
    (hooks.filterMap rememberedRun?).lookup name =
      (hooks.find? fun h => h.name = name ∧ h.lastRun ≠ none).bind fun h =>
        h.lastRun.map hookStatus := by
  induction hooks with
  | nil => rfl
  | cons h hooks ih =>
    cases ran : h.lastRun with
    | none => simp [rememberedRun?, ran, ih]
    | some run =>
      by_cases named : h.name = name
      · subst named
        simp [rememberedRun?, ran]
      · simp [rememberedRun?, ran, lookup_cons_eq, named, Ne.symm named, ih]

theorem testRuns_eq_nil_iff : r.testRuns = [] ↔ ∀ h ∈ r.hooks, ¬ h.Tested := by
  rw [testRuns_eq, List.filterMap_eq_nil_iff]
  refine ⟨fun nothing h hh tested => ?_, fun untested h hh => ?_⟩
  · have remembered := nothing h (List.mem_filter.2 ⟨hh, decide_eq_true tested⟩)
    exact tested.2 (Option.map_eq_none_iff.1 remembered)
  · obtain ⟨hooked, tested⟩ := List.mem_filter.1 hh
    exact absurd (of_decide_eq_true tested) (untested h hooked)

/-- **Tests are remembered exactly if a hook is tested.** -/
theorem testHooks_eq (r : Release) : r.testHooks =
    if ∃ h ∈ r.hooks, h.Tested then some (Table.ofList r.testRuns) else none := by
  have empty : (Table.ofList r.testRuns).isEmpty = true ↔ ¬ ∃ h ∈ r.hooks, h.Tested := by
    rw [Table.isEmpty, List.isEmpty_iff]
    refine sortEntries_eq_nil_iff.trans (testRuns_eq_nil_iff.trans ?_)
    simp
  simp only [testHooks, empty, ite_not]

/-- **Under a name the last tested hook is found.** -/
theorem find?_of_testHooks {tests : Table String TestHookStatus} (h : r.testHooks = some tests) (name : String) :
    tests.find? name = (r.hooks.reverse.find? fun h => h.name = name ∧ h.Tested).bind fun h =>
      h.lastRun.map hookStatus := by
  rw [testHooks_eq, Option.ite_none_right_eq_some, Option.some.injEq] at h
  obtain ⟨-, rfl⟩ := h
  have lookup : (Table.ofList r.testRuns).find? name = (sortEntries r.testRuns).lookup name := rfl
  rw [lookup, lookup_sortEntries, testRuns_eq, ← List.filterMap_reverse, ← List.filter_reverse, lookup_runs,
    List.find?_filter]
  refine congrArg (Option.bind · _) (congrArg (List.find? · _) (funext fun h => ?_))
  simp only [decide_eq_true_eq, decide_eq_decide]
  -- a tested hook has run
  exact ⟨fun ⟨tested, named, _⟩ => ⟨named, tested⟩, fun ⟨named, tested⟩ => ⟨tested, named, tested.2⟩⟩

theorem contains_iff_of_testHooks {tests : Table String TestHookStatus} (h : r.testHooks = some tests)
    (name : String) : tests.contains name = true ↔ ∃ h ∈ r.hooks, h.name = name ∧ h.Tested := by
  rw [Table.contains, find?_of_testHooks h]
  cases found : r.hooks.reverse.find? fun h => h.name = name ∧ h.Tested with
  | none =>
    have untested : ∀ h ∈ r.hooks, h.name = name → ¬ h.Tested := by simpa using found
    refine iff_of_false Bool.false_ne_true ?_
    rintro ⟨h, hooked, named, tested⟩
    exact untested h hooked named tested
  | some last =>
    have hooked := List.mem_reverse.1 (List.mem_of_find?_eq_some found)
    have tested : last.name = name ∧ last.Tested := by simpa using List.find?_some found
    refine iff_of_true ?_ ⟨last, hooked, tested⟩
    rw [Option.bind_some, Option.isSome_map]
    exact Option.isSome_iff_ne_none.2 tested.2.2

/-- **What is remembered of tests.** A release is tested exactly if one of its hooks is bound to tests and
has run. Then its snapshot remembers the names of just those hooks, and under a name the last of them in
the list, with the phase and the times of its run. No other hook has a part in the snapshot but for the
digest. -/
theorem tested_by_hooks (r : Release) :
    (r.toSnapshot.hasBeenTested = true ↔ ∃ h ∈ r.hooks, h.Tested) ∧
    (∀ tests, r.toSnapshot.testHooks = some tests →
      (∀ name, tests.contains name = true ↔ ∃ h ∈ r.hooks, h.name = name ∧ h.Tested) ∧
      ∀ before h after run, r.hooks = before ++ h :: after → .test ∈ h.events → h.lastRun = some run →
        (∀ other ∈ after, other.name = h.name → ¬ other.Tested) →
        tests.find? h.name = some
          { lastStarted := run.startedAt.map Instant.statusText
            lastCompleted := run.completedAt.map Instant.statusText
            phase := some run.phase.name }) ∧
    ∀ hooks, hooks.filter (·.Tested) = r.hooks.filter (·.Tested) →
      { r with hooks := hooks }.toSnapshot =
        { r.toSnapshot with digest := { r with hooks := hooks }.digest } := by
  refine ⟨?_, fun tests remembered => ⟨contains_iff_of_testHooks remembered, ?_⟩, fun hooks same => ?_⟩
  · have remembered : r.toSnapshot.testHooks = r.testHooks := rfl
    rw [Snapshot.hasBeenTested, remembered, testHooks_eq, Option.isSome_ite]
  · intro before h after run split bound ran last
    have tested : h.Tested := ⟨bound, ran ▸ Option.some_ne_none run⟩
    have found : (r.hooks.reverse.find? fun other => other.name = h.name ∧ other.Tested) = some h := by
      refine List.find?_eq_some_iff_append.2
        ⟨decide_eq_true ⟨rfl, tested⟩, after.reverse, before.reverse, by simp [split], fun other ho => ?_⟩
      have untested := last other (List.mem_reverse.1 ho)
      simpa only [Bool.not_eq_true', decide_eq_false_iff_not, not_and] using untested
    rw [find?_of_testHooks remembered, found, Option.bind_some, ran]
    rfl
  · have runs : { r with hooks := hooks }.testRuns = r.testRuns := by
      rw [testRuns_eq, testRuns_eq, same]
    have tests : { r with hooks := hooks }.testHooks = r.testHooks := by
      unfold testHooks
      rw [runs]
    rw [toSnapshot, tests]
    rfl

end Release

end ReleaseControl
