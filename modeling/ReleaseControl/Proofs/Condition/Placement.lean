import ReleaseControl.Proofs.Condition.Freshness

/-!
# Where readiness goes

* `First`, `Source`: the first condition of a type, and the condition that readiness follows from,
  read off the set as a list; `readySource?_eq_some_iff`.
* **`summarize_in_place`**: the set before and after computing readiness, element by element.
-/

namespace ReleaseControl

namespace Conditions

/-- The condition is the first of a type in the set. -/
def First (cs : Conditions) (type : ConditionType) (c : Condition) : Prop :=
  ∃ front back, cs = front ++ c :: back ∧ c.type = type ∧ ∀ d ∈ front, d.type ≠ type

def Lacks (cs : Conditions) (type : ConditionType) : Prop := ∀ d ∈ cs, d.type ≠ type

/-- Readiness follows from a condition of the set, with a status: from the first remediation, else
from the first test result if tests count, else from the first outcome of a release action. -/
inductive Source (testsCount : Bool) (cs : Conditions) : ConditionStatus → Condition → Prop
  | remediated {c : Condition} (first : cs.First .remediated c) : Source testsCount cs .false c
  | tested {c : Condition} (unremediated : cs.Lacks .remediated) (counts : testsCount = true)
      (first : cs.First .testSuccess c) : Source testsCount cs c.status c
  | released {c : Condition} (unremediated : cs.Lacks .remediated)
      (untested : testsCount = true → cs.Lacks .testSuccess) (first : cs.First .released c) :
      Source testsCount cs c.status c

variable {now : Instant} {cs ds : Conditions} {c : Condition} {type : ConditionType}
  {testsCount : Bool} {status : ConditionStatus}

/-! ## Reading the set as a list -/

theorem get?_eq_some_iff : cs.get? type = some c ↔ cs.First type c := by
  rw [get?, List.find?_eq_some_iff_append]
  constructor
  · rintro ⟨ht, front, back, rfl, hf⟩
    refine ⟨front, back, rfl, by simpa using ht, fun d hd => ?_⟩
    simpa using hf d hd
  · rintro ⟨front, back, rfl, ht, hf⟩
    refine ⟨by simpa using ht, front, back, rfl, fun d hd => ?_⟩
    simpa using hf d hd

theorem get?_eq_none_iff : cs.get? type = none ↔ cs.Lacks type := by
  simp [get?, List.find?_eq_none, Lacks]

/-- **The source is the one that the rules give.** -/
theorem readySource?_eq_some_iff :
    cs.readySource? testsCount = some (status, c) ↔ cs.Source testsCount status c := by
  constructor
  · intro h
    unfold readySource? at h
    cases hr : cs.get? .remediated with
    | some r =>
      simp only [hr, Option.some.injEq, Prod.mk.injEq] at h
      obtain ⟨rfl, rfl⟩ := h
      exact .remediated (get?_eq_some_iff.1 hr)
    | none =>
      have unremediated := get?_eq_none_iff.1 hr
      cases ht : if testsCount then cs.get? .testSuccess else none with
      | some t =>
        simp only [hr, ht, Option.some.injEq, Prod.mk.injEq] at h
        obtain ⟨rfl, rfl⟩ := h
        obtain ⟨counts, ht⟩ := Option.ite_none_right_eq_some.1 ht
        exact .tested unremediated counts (get?_eq_some_iff.1 ht)
      | none =>
        simp only [hr, ht, Option.map_eq_some_iff, Prod.mk.injEq] at h
        obtain ⟨o, ho, rfl, rfl⟩ := h
        refine .released unremediated (fun counts => ?_) (get?_eq_some_iff.1 ho)
        rw [if_pos counts] at ht
        exact get?_eq_none_iff.1 ht
  · rintro (first | ⟨unremediated, counts, first⟩ | ⟨unremediated, untested, first⟩)
    · exact readySource?_of_remediated (get?_eq_some_iff.2 first)
    · subst counts
      exact readySource?_of_tested (get?_eq_none_iff.2 unremediated) (get?_eq_some_iff.2 first)
    · exact readySource?_of_released (get?_eq_none_iff.2 unremediated)
        (fun counts => get?_eq_none_iff.2 (untested counts)) (get?_eq_some_iff.2 first)

theorem source_congr (h : cs.filter (·.type ≠ .ready) = ds.filter (·.type ≠ .ready)) :
    cs.Source testsCount status c ↔ ds.Source testsCount status c := by
  -- the conditions of any other type are among those that agree
  have others : ∀ type, type ≠ .ready → cs.ofType type = ds.ofType type := by
    intro type ht
    have sub : ∀ es : Conditions, es.ofType type = ofType type (es.filter (·.type ≠ .ready)) := by
      intro es
      rw [ofType, ofType, List.filter_filter]
      refine List.filter_congr fun d _ => ?_
      by_cases hd : d.type = type <;> simp [hd, ht]
    rw [sub cs, sub ds, h]
  rw [← readySource?_eq_some_iff, ← readySource?_eq_some_iff, readySource?_congr testsCount others]

/-! ## Replacing -/

theorem replace_append {front back : Conditions} {old : Condition} (hf : ∀ d ∈ front, d.type ≠ c.type)
    (ho : old.type = c.type) : replace now c (front ++ old :: back) =
      front ++ { c with lastTransitionTime := transitionTime now old c } :: back := by
  induction front with
  | nil => simp [replace, ho]
  | cons d front ih =>
    have hd : d.type ≠ c.type := hf d List.mem_cons_self
    have hrest : ∀ e ∈ front, e.type ≠ c.type := fun e he => hf e (List.mem_cons_of_mem d he)
    simp [replace, hd, ih hrest]

theorem setFirst_append {front back : Conditions} {old : Condition} (hf : ∀ d ∈ front, d.type ≠ c.type)
    (ho : old.type = c.type) : setFirst now c (front ++ old :: back) =
      front ++ { c with lastTransitionTime := transitionTime now old c } :: back := by
  have first : (front ++ old :: back).get? c.type = some old :=
    get?_eq_some_iff.2 ⟨front, back, rfl, ho, hf⟩
  rw [setFirst, first, Option.isSome_some, if_pos rfl, replace_append hf ho]

theorem setFirst_of_lacks (h : cs.Lacks c.type) : cs.setFirst now c = timed now c :: cs := by
  simp [setFirst, get?_eq_none_iff.2 h]

/-- **Computing readiness, element by element.** Without a source the set stays as it is. With one,
the first readiness is replaced where it stands, or one is put at the front; what it says follows from
the source, which no readiness has a part in, and its transition time stays while the status does.
Once computed, readiness stays as it is. -/
theorem summarize_in_place (now later : Instant) (generation : Int64) (testsCount : Bool)
    (cs : Conditions) :
    let result := cs.summarize now generation testsCount
    ((∀ status source, ¬ cs.Source testsCount status source) → result = cs) ∧
    (∀ status source, cs.Source testsCount status source → ∃ ready,
      ready.type = .ready ∧ ready.status = status ∧ ready.reason = source.reason ∧
      ready.message = source.message ∧ ready.observedGeneration = generation ∧
      ((∃ front old back, cs = front ++ old :: back ∧ old.type = .ready ∧ Lacks front .ready ∧
          result = front ++ ready :: back ∧
          ready.lastTransitionTime =
            if old.status = status ∧ old.lastTransitionTime.isSome then old.lastTransitionTime
            else some now.statusText) ∨
        cs.Lacks .ready ∧ result = ready :: cs ∧ ready.lastTransitionTime = some now.statusText)) ∧
    (∀ ds : Conditions, cs.filter (·.type ≠ .ready) = ds.filter (·.type ≠ .ready) →
      ∀ status source, cs.Source testsCount status source ↔ ds.Source testsCount status source) ∧
    result.summarize later generation testsCount = result := by
  intro result
  refine ⟨fun unsupported => ?_, fun status source supported => ?_, fun ds agree status source => ?_, ?_⟩
  · have hn : cs.readySource? testsCount = none := by
      rw [Option.eq_none_iff_forall_not_mem]
      rintro ⟨status, source⟩ h
      exact unsupported status source (readySource?_eq_some_iff.1 h)
    exact summarize_of_none hn now generation
  · let computed := readiness generation status source
    have hresult : result = cs.setFirst now computed :=
      summarize_of_some (readySource?_eq_some_iff.2 supported) now generation
    cases h : cs.get? .ready with
    | some old =>
      obtain ⟨front, back, hcs, ho, hf⟩ := get?_eq_some_iff.1 h
      refine ⟨{ computed with lastTransitionTime := transitionTime now old computed },
        rfl, rfl, rfl, rfl, rfl, .inl ⟨front, old, back, hcs, ho, hf, ?_, rfl⟩⟩
      rw [hresult, hcs]
      exact setFirst_append hf ho
    | none =>
      have lacks : cs.Lacks .ready := get?_eq_none_iff.1 h
      refine ⟨timed now computed, rfl, rfl, rfl, rfl, rfl, .inr ⟨lacks, ?_, rfl⟩⟩
      rw [hresult]
      exact setFirst_of_lacks lacks
  · exact source_congr agree
  · exact summarize_summarize now later generation testsCount cs

/-! ### A set with a stale readiness in the middle -/

namespace Sample

def stale : Condition where
  type := .ready
  status := .true
  reason := "InstallSucceeded"

def failedTests : Condition where
  type := .testSuccess
  status := .false
  reason := "TestFailed"

/-- Released once, tested since, with readiness listed twice and computed before the tests. -/
def tested : Conditions :=
  [{ type := .released, status := .true }, stale, failedTests, { type := .ready, status := .unknown }]

end Sample

theorem summarize_in_place_tested :
    Source true Sample.tested .false Sample.failedTests ∧
      ∃ ready ∈ Sample.tested.summarize default 5 true, ready.type = .ready ∧ ready.status = .false ∧
        ready.reason = "TestFailed" ∧ ready.observedGeneration = 5 := by
  have supported : Source true Sample.tested .false Sample.failedTests := by
    refine .tested ?_ rfl ⟨Sample.tested.take 2, Sample.tested.drop 3, rfl, rfl, ?_⟩
    · unfold Lacks
      decide
    · decide
  obtain ⟨ready, ht, hs, hr, -, hg, placed⟩ :=
    (summarize_in_place default default 5 true Sample.tested).2.1 _ _ supported
  refine ⟨supported, ready, ?_, ht, hs, hr, hg⟩
  rcases placed with ⟨front, old, back, -, -, -, h, -⟩ | ⟨lacks, -⟩
  · rw [h]
    exact List.mem_append_right front List.mem_cons_self
  · exact absurd rfl (lacks Sample.stale (by decide))

end Conditions

end ReleaseControl
