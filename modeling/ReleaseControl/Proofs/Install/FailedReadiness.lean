import ReleaseControl.Proofs.Install.Readiness
import ReleaseControl.Proofs.Install.Verdict

/-!
# Readiness after a failed install

A failure after a write marks the release as failed, and readiness follows unless something goes
before: a remediation, or a test result that counts. A test result left over from a release before is
not taken back, so an object whose tests once succeeded is still said to be ready.
-/

namespace ReleaseControl

namespace Install

variable {σ : Type}

/-- The failure has been marked in the object, which is otherwise as the request has it. -/
structure Failing (r : Request) (o : HelmRelease) : Prop where
  declared : o.SameDeclaration r.object
  released : o.Says .released .false failedReason
  keepsTests : o.Keeps r.object .testSuccess
  keepsRemediation : o.Keeps r.object .remediated

section Marking

variable (t : Readings) (r : Request) (log : LogBuffer) (e : ActionError) (rs : List Release)

theorem failing_told : Failing r (told t r log e (merged r rs)).object where
  declared := (sameDeclaration_told t r log e _).trans (sameDeclaration_merged r rs)
  released := says_told t r log e _
  keepsTests := (keeps_told t r (by decide) log e _).trans (keeps_merged r rs _)
  keepsRemediation := (keeps_told t r (by decide) log e _).trans (keeps_merged r rs _)

theorem failing_failed : Failing r (failed t r log e (merged r rs)) where
  declared := (sameDeclaration_failed t r log e _).trans (sameDeclaration_merged r rs)
  released := says_failed t r log e _
  keepsTests := (keeps_failed t r (by decide) log e _).trans (keeps_merged r rs _)
  keepsRemediation := (keeps_failed t r (by decide) log e _).trans (keeps_merged r rs _)

end Marking

variable {s : Settings} {d : Driver σ} {a : Attempt} {w : Standing σ}

/-- However the call ends, readiness is computed over an object in which the failure is marked. -/
theorem exists_failing_call (h : a.verdict s d w = .failed)
    (room : w.object.statusOrNew.failures ≠ Int64.maxValue) :
    ∃ o, Failing (a.request w.object.status) o ∧
      (a.call s d w).object = o.summarize a.readings.summarized := by
  obtain ⟨err, emissions, object⟩ := Attempt.settled_of_counted h room
  have atNotice : Failing (a.request w.object.status) (a.told s d w err).object := failing_told _ _ _ _ _
  have atEnd : Failing (a.request w.object.status) (a.failed s d w err) := failing_failed _ _ _ _ _
  rcases a.object_call s d w with hcall | ⟨e, he, hcall⟩
  · rcases object with object | object
    · exact ⟨_, atNotice, hcall.trans (congrArg _ object)⟩
    · exact ⟨_, atEnd, hcall.trans (congrArg _ object)⟩
  · rw [emissions] at he
    exact ⟨_, atNotice, hcall.trans (List.mem_singleton.1 he ▸ rfl)⟩

theorem released_call_of_failed (h : a.verdict s d w = .failed)
    (room : w.object.statusOrNew.failures ≠ Int64.maxValue) :
    ∃ c, (a.call s d w).object.conditions.get? .released = some c ∧ c.status = .false := by
  obtain ⟨o, ho, hcall⟩ := exists_failing_call h room
  obtain ⟨c, hc, hs, -⟩ := ho.released
  refine ⟨c, ?_, hs⟩
  rw [hcall, Conditions.get?_congr (o.keeps_summarize _ (by decide))]
  exact hc

theorem tests_call_of_failed (h : a.verdict s d w = .failed)
    (room : w.object.statusOrNew.failures ≠ Int64.maxValue) :
    (a.call s d w).object.conditions.get? .testSuccess = w.object.conditions.get? .testSuccess := by
  obtain ⟨o, ho, hcall⟩ := exists_failing_call h room
  rw [hcall]
  exact Conditions.get?_congr ((o.keeps_summarize _ (by decide)).trans ho.keepsTests)

/-- **Readiness after a failure with a write** that can be counted is there, and it holds in one case
only: there is no remediation, tests count, and the test result from before the call is a success. -/
theorem ready_after_failure (s : Settings) (d : Driver σ) (a : Attempt) (w : Standing σ)
    (h : a.verdict s d w = .failed) (room : w.object.statusOrNew.failures ≠ Int64.maxValue) :
    let call := a.call s d w
    ∃ ready, call.object.conditions.get? .ready = some ready ∧
      ready.observedGeneration = call.object.generation ∧
      (ready.status = .true ↔ w.object.conditions.get? .remediated = none ∧
        (a.request w.object.status).object.testsCount = true ∧
        ∃ tests, w.object.conditions.get? .testSuccess = some tests ∧ tests.status = .true) := by
  intro call
  have fresh : call.object.conditions.Fresh call.object.generation call.object.testsCount :=
    fresh_call s d a w
  have remediation : call.object.conditions.get? .remediated = w.object.conditions.get? .remediated :=
    remediated_call s d a w
  have tests : call.object.conditions.get? .testSuccess = w.object.conditions.get? .testSuccess :=
    tests_call_of_failed h room
  have counted : call.object.testsCount = (a.request w.object.status).object.testsCount :=
    (sameDeclaration_call s d a w).testsCount_eq
  rw [← remediation, ← tests, ← counted]
  -- readiness follows from the first source that is there, in the order of the rules
  cases hr : call.object.conditions.get? .remediated with
  | some c =>
    obtain ⟨ready, hready, hs, -, -, hg⟩ := fresh.remediated c hr
    refine ⟨ready, hready, hg, ?_⟩
    simp [hs]
  | none =>
    by_cases ht : call.object.testsCount = true ∧ call.object.conditions.get? .testSuccess ≠ none
    · obtain ⟨counts, present⟩ := ht
      obtain ⟨c, hc⟩ := Option.ne_none_iff_exists'.1 present
      obtain ⟨ready, hready, hs, -, -, hg⟩ := fresh.tested hr counts c hc
      refine ⟨ready, hready, hg, ?_⟩
      simp [hs, counts, hc]
    · have untested : call.object.testsCount = true → call.object.conditions.get? .testSuccess = none :=
        fun counts => by_contra fun present => ht ⟨counts, present⟩
      obtain ⟨c, hc, hfalse⟩ := released_call_of_failed h room
      obtain ⟨ready, hready, hs, -, -, hg⟩ := fresh.released hr untested c hc
      have unready : ready.status ≠ .true := by
        rw [hs, hfalse]
        decide
      refine ⟨ready, hready, hg, iff_of_false unready ?_⟩
      rintro ⟨-, counts, tests, present, -⟩
      rw [untested counts] at present
      cases present

/-! ### Failures on objects with conditions from before -/

theorem ready_after_failure_rolled_back :
    let call := (Sample.attempt Sample.engine).call {} Records.driver Sample.rolledBack
    (Sample.attempt Sample.engine).verdict {} Records.driver Sample.rolledBack = .failed ∧
      Sample.rolledBack.object.statusOrNew.failures ≠ Int64.maxValue ∧ ∃ ready,
        call.object.conditions.get? .ready = some ready ∧ ready.status ≠ .true := by
  intro call
  have room : Sample.rolledBack.object.statusOrNew.failures ≠ Int64.maxValue := by decide
  have failed : (Sample.attempt Sample.engine).verdict {} Records.driver Sample.rolledBack = .failed := rfl
  obtain ⟨ready, hready, -, holds⟩ :=
    ready_after_failure {} Records.driver (Sample.attempt Sample.engine) Sample.rolledBack failed room
  refine ⟨failed, room, ready, hready, fun h => ?_⟩
  obtain ⟨unremediated, -⟩ := holds.1 h
  cases unremediated

/-- The tests of a release before succeeded, and tests count: the object is said to be ready although
the install failed after a write. -/
theorem ready_after_orphaned_tests :
    let call := (Sample.attempt Sample.engine).call {} Records.driver Sample.tested
    (Sample.attempt Sample.engine).verdict {} Records.driver Sample.tested = .failed ∧
      call.object.conditions.isTrue .released = false ∧ call.object.conditions.isTrue .ready = true :=
  ⟨rfl, rfl, rfl⟩

end Install

end ReleaseControl
