import ReleaseControl.Proofs.Condition.Untimed
import ReleaseControl.Proofs.Object.Status

/-!
# Signals in any order

* `SourceMark`, `Signal`, `Arrival`: what comes in; `HelmRelease.receiveAll`: an object after all of it.
* `untimed_receiveAll`: readiness that is computed on the way leaves no trace.
* **`order_of_arrival`**: sequences with the same marks of each type end alike.
-/

namespace ReleaseControl

/-- A mark of a condition that comes in: readiness is never marked, only computed. -/
structure SourceMark extends Mark where
  reported : type ≠ .ready

inductive Signal where
  | mark (m : SourceMark)
  /-- Readiness is to be computed. -/
  | summarize

/-- A signal, with the time shown by the clock when it comes in. -/
structure Arrival where
  now : Instant
  signal : Signal

def Arrival.mark? (a : Arrival) : Option SourceMark :=
  match a.signal with
  | .mark m => some m
  | .summarize => none

def marks (arrivals : List Arrival) : List SourceMark := arrivals.filterMap Arrival.mark?

/-- The marks of each type are the same, in the same order: the sequences differ in how the marks of
one type stand to those of another. -/
def SameByType (ms ns : List SourceMark) : Prop :=
  ∀ type, ms.filter (·.type = type) = ns.filter (·.type = type)

namespace HelmRelease

def receive (o : HelmRelease) (a : Arrival) : HelmRelease :=
  match a.signal with
  | .mark m => o.mark a.now m.type m.status m.reason m.message
  | .summarize => o.summarize a.now

def receiveAll (o : HelmRelease) (arrivals : List Arrival) : HelmRelease := arrivals.foldl receive o

end HelmRelease

namespace Conditions

variable {cs ds : Conditions} {testsCount : Bool}

/-- The conditions after some marks, all of them made at one time. -/
def markAll (now : Instant) (generation : Int64) (ms : List SourceMark) (cs : Conditions) : Conditions :=
  ms.foldl (fun cs m => cs.set now (m.condition generation)) cs

theorem untimed_markAll_congr (h : cs.untimed = ds.untimed) (now : Instant) (generation : Int64)
    (ms : List SourceMark) : (markAll now generation ms cs).untimed = (markAll now generation ms ds).untimed := by
  induction ms generalizing cs ds with
  | nil => exact h
  | cons m ms ih => exact ih (untimed_set_congr h now now (m.condition generation))

theorem Early.markAll (h : Early testsCount cs ds) (now : Instant) (generation : Int64)
    (ms : List SourceMark) : Early testsCount (markAll now generation ms cs) (markAll now generation ms ds) := by
  induction ms generalizing cs ds with
  | nil => exact h
  | cons m ms ih => exact ih (h.set m.reported)

/-- **The conditions of a type follow from the marks of that type**: the first of them is set by each
mark in turn, and the others stay. -/
theorem ofType_markAll (now : Instant) (generation : Int64) (type : ConditionType) (ms : List SourceMark)
    (cs : Conditions) : (markAll now generation ms cs).untimed.ofType type =
      (ms.filter (·.type = type)).foldl (fun said m => (m.condition generation).untimed :: said.tail)
        (cs.untimed.ofType type) := by
  induction ms generalizing cs with
  | nil => rfl
  | cons m ms ih =>
    rw [markAll, List.foldl_cons, ← markAll, ih]
    by_cases hm : m.type = type
    · subst hm
      have first : (cs.set now (m.condition generation)).untimed.ofType m.type =
          (m.condition generation).untimed :: (cs.untimed.ofType m.type).tail :=
        ofType_untimed_set now (m.condition generation) cs
      simp only [List.filter_cons, decide_true, if_true, List.foldl_cons]
      rw [first]
    · have other : (cs.set now (m.condition generation)).ofType type = cs.ofType type :=
        ofType_set (Ne.symm hm) cs
      rw [ofType_untimed, other, ← ofType_untimed]
      simp [hm]

theorem alike_markAll {ms ns : List SourceMark} (h : SameByType ms ns) (now : Instant) (generation : Int64)
    (cs : Conditions) : Alike (markAll now generation ms cs) (markAll now generation ns cs) := by
  intro type
  rw [ofType_markAll, ofType_markAll, h type]

end Conditions

namespace HelmRelease

/-- **Readiness that is computed on the way leaves no trace**, nor do the times of the marks, once it
is computed at the end. -/
theorem untimed_receiveAll (o : HelmRelease) (arrivals : List Arrival) (now later : Instant) :
    ((o.receiveAll arrivals).summarize now).conditions.untimed =
      ((Conditions.markAll later o.generation (marks arrivals) o.conditions).summarize later
        o.generation o.testsCount).untimed := by
  induction arrivals generalizing o with
  | nil =>
    rw [conditions_summarize]
    exact Conditions.untimed_summarize_congr rfl now later _ _
  | cons a arrivals ih =>
    obtain ⟨time, signal⟩ := a
    cases signal with
    | mark m =>
      -- the mark is made at its own time, and at `later` on the other side
      have set_later : (o.receive ⟨time, .mark m⟩).conditions.untimed =
          (o.conditions.set later (m.condition o.generation)).untimed :=
        Conditions.untimed_set_congr rfl time later _
      refine (ih (o.receive ⟨time, .mark m⟩)).trans ?_
      exact Conditions.untimed_summarize_congr
        (Conditions.untimed_markAll_congr set_later later o.generation (marks arrivals)) later later _ _
    | summarize =>
      refine (ih (o.summarize time)).trans ?_
      have early := (Conditions.early_summarize time o.generation o.testsCount o.conditions).markAll
        later o.generation (marks arrivals)
      rw [conditions_summarize, ← Conditions.untimed_timeless]
      refine (congrArg Conditions.untimed (early.timeless_summarize later o.generation)).trans ?_
      exact Conditions.untimed_timeless _

/-- **Readiness does not depend on the order of arrival.** Two sequences with the same marks of each
type, readiness computed anywhere on the way and at the end of both, end with the same conditions of
each type, but for their times. If the marks come in the same order as well, the conditions stand in
the same places. -/
theorem order_of_arrival (o : HelmRelease) (xs ys : List Arrival) (now later : Instant)
    (same : SameByType (marks xs) (marks ys)) :
    let first := ((o.receiveAll xs).summarize now).conditions
    let second := ((o.receiveAll ys).summarize later).conditions
    (∀ type, first.untimed.ofType type = second.untimed.ofType type) ∧
      (marks xs = marks ys → first.untimed = second.untimed) := by
  intro first second
  have hfirst := untimed_receiveAll o xs now later
  have hsecond := untimed_receiveAll o ys later later
  refine ⟨fun type => ?_, fun order => ?_⟩
  · have alike := Conditions.alike_markAll same later o.generation o.conditions
    rw [hfirst, hsecond]
    exact alike.summarize later later o.generation o.testsCount type
  · rw [hfirst, hsecond, order]

/-! ### Test results that overtake a release

The outcomes of a release and of its tests come in by turns, once the release first and once the tests;
readiness is computed at different moments. -/

namespace Sample

def outcome (status : ConditionStatus) : SourceMark := ⟨⟨.released, status, "Outcome", ""⟩, nofun⟩

def tests (status : ConditionStatus) : SourceMark := ⟨⟨.testSuccess, status, "Tests", ""⟩, nofun⟩

def releaseFirst : List Arrival :=
  [⟨default, .mark (outcome .false)⟩, ⟨default, .mark (outcome .true)⟩, ⟨default, .summarize⟩,
    ⟨default, .mark (tests .unknown)⟩, ⟨default, .mark (tests .false)⟩]

def testsFirst : List Arrival :=
  [⟨default, .summarize⟩, ⟨default, .mark (tests .unknown)⟩, ⟨default, .mark (outcome .false)⟩,
    ⟨default, .summarize⟩, ⟨default, .mark (tests .false)⟩, ⟨default, .mark (outcome .true)⟩]

/-- An object whose tests count, with readiness left over from before. -/
def stale : HelmRelease where
  metadata := { name := some "podinfo", generation := some 3 }
  spec := { chart := { name := "podinfo" }, test := some { enable := true } }
  status := some { conditions := [{ type := .released, status := .true }, { type := .ready, status := .true }] }

end Sample

theorem order_of_arrival_overtaken :
    let first := ((Sample.stale.receiveAll Sample.releaseFirst).summarize default).conditions
    let second := ((Sample.stale.receiveAll Sample.testsFirst).summarize default).conditions
    SameByType (marks Sample.releaseFirst) (marks Sample.testsFirst) ∧
      (∀ type, first.untimed.ofType type = second.untimed.ofType type) ∧
      first.isTrue .released = true ∧ first.isTrue .ready = false := by
  intro first second
  have same : SameByType (marks Sample.releaseFirst) (marks Sample.testsFirst) := by
    intro type
    cases type <;> rfl
  exact ⟨same, (order_of_arrival Sample.stale Sample.releaseFirst Sample.testsFirst default default same).1,
    rfl, rfl⟩

end HelmRelease

end ReleaseControl
