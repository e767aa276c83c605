import ReleaseControl.Proofs.Condition.Placement

/-!
# Readiness computed early

* `timeless`: a set with the transition time of readiness left out; `timeless_setFirst_setFirst`.
* `Early`: a set in which readiness has been computed before other conditions were set; `Early.set`.
* **`Early.timeless_summarize`**: computed again, early readiness leaves no trace but its time.
-/

namespace ReleaseControl

namespace Conditions

variable {now later : Instant} {cs ds : Conditions} {c d : Condition} {type : ConditionType}
  {testsCount : Bool}

/-! ## Setting conditions of two types -/

theorem replace_comm (h : c.type ≠ d.type) (cs : Conditions) :
    replace now c (replace later d cs) = replace later d (replace now c cs) := by
  induction cs with
  | nil => rfl
  | cons e cs ih =>
    by_cases hc : e.type = c.type
    · have hd : e.type ≠ d.type := fun hd => h (hc.symm.trans hd)
      simp [replace, hc, h]
    · by_cases hd : e.type = d.type
      · simp [replace, hd, h.symm]
      · simp [replace, hc, hd, ih]

theorem replace_concat (h : (cs.get? c.type).isSome) (d : Condition) :
    replace now c (cs ++ [d]) = replace now c cs ++ [d] := by
  obtain ⟨old, hold⟩ := Option.isSome_iff_exists.1 h
  obtain ⟨front, back, rfl, ho, hf⟩ := get?_eq_some_iff.1 hold
  rw [List.append_assoc, List.cons_append, replace_append hf ho, replace_append hf ho,
    List.append_assoc, List.cons_append]

theorem set_setFirst (h : c.type ≠ d.type) (cs : Conditions) :
    (cs.setFirst later d).set now c = (cs.set now c).setFirst later d := by
  have hc : (cs.setFirst later d).get? c.type = cs.get? c.type := get?_congr (ofType_setFirst h cs)
  have hd : (cs.set now c).get? d.type = cs.get? d.type := get?_congr (ofType_set h.symm cs)
  rw [set, hc, setFirst.eq_1 later d (cs.set now c), hd, set, setFirst]
  by_cases hasC : (cs.get? c.type).isSome
  · by_cases hasD : (cs.get? d.type).isSome
    · simp only [hasC, hasD, if_true]
      exact replace_comm h cs
    · simp [hasC, hasD, replace, timed, h.symm]
  -- one condition goes to the end, where replacing the other does not reach
  · by_cases hasD : (cs.get? d.type).isSome
    · simp only [hasC, hasD, if_true, Bool.false_eq_true, if_false]
      exact (replace_concat hasD _).symm
    · simp [hasC, hasD]

/-! ## The time of readiness -/

/-- The set with the transition time of its first readiness left out. -/
def timeless : Conditions → Conditions
  | [] => []
  | c :: cs => if c.type = .ready then { c with lastTransitionTime := none } :: cs else c :: timeless cs

theorem timeless_append {front back : Conditions} (hf : Lacks front .ready) (hc : c.type = .ready)
    (time : Option String) : timeless (front ++ { c with lastTransitionTime := time } :: back) =
      front ++ { c with lastTransitionTime := none } :: back := by
  induction front with
  | nil => simp [timeless, hc]
  | cons d front ih =>
    have hd : d.type ≠ .ready := hf d List.mem_cons_self
    have hrest : Lacks front .ready := fun e he => hf e (List.mem_cons_of_mem d he)
    simp [timeless, hd, ih hrest]

theorem exists_setFirst_eq (cs : Conditions) : ∃ front back : Conditions, Lacks front .ready ∧
    ∀ now c, c.type = .ready →
      ∃ time, cs.setFirst now c = front ++ { c with lastTransitionTime := time } :: back := by
  cases h : cs.get? .ready with
  | some old =>
    obtain ⟨front, back, rfl, ho, hf⟩ := get?_eq_some_iff.1 h
    refine ⟨front, back, hf, fun now c hc => ⟨transitionTime now old c, ?_⟩⟩
    rw [← hc] at ho hf
    exact setFirst_append hf ho
  | none =>
    refine ⟨[], cs, by simp [Lacks], fun now c hc => ⟨(timed now c).lastTransitionTime, ?_⟩⟩
    have lacks : cs.Lacks c.type := by
      rw [hc]
      exact get?_eq_none_iff.1 h
    exact setFirst_of_lacks lacks

/-- **Readiness that is set twice** shows the first time only in its transition time. -/
theorem timeless_setFirst_setFirst (hc : c.type = .ready) (hd : d.type = .ready) (cs : Conditions) :
    timeless ((cs.setFirst later d).setFirst now c) = timeless (cs.setFirst now c) := by
  obtain ⟨front, back, hf, hset⟩ := exists_setFirst_eq cs
  obtain ⟨_, once⟩ := hset now c hc
  obtain ⟨time, early⟩ := hset later d hd
  have hfc : ∀ e ∈ front, e.type ≠ c.type := by rwa [hc]
  have hdc : ({ d with lastTransitionTime := time } : Condition).type = c.type := hd.trans hc.symm
  rw [once, early, setFirst_append hfc hdc, timeless_append hf hc, timeless_append hf hc]

/-! ## Early readiness -/

theorem isSome_readySource?_iff : (cs.readySource? testsCount).isSome ↔
    (cs.get? .remediated).isSome ∨ (testsCount = true ∧ (cs.get? .testSuccess).isSome) ∨
      (cs.get? .released).isSome := by
  unfold readySource?
  cases cs.get? .remediated with
  | some c => simp
  | none => cases testsCount <;> cases cs.get? .testSuccess <;> simp

theorem isSome_readySource?_set (c : Condition) (h : (cs.readySource? testsCount).isSome) :
    ((cs.set now c).readySource? testsCount).isSome := by
  have stays : ∀ type, (cs.get? type).isSome → ((cs.set now c).get? type).isSome := by
    intro type ht
    by_cases hc : type = c.type
    · rw [hc, get?_set]
      rfl
    · rwa [get?_congr (ofType_set hc cs)]
  rw [isSome_readySource?_iff] at h ⊢
  exact h.imp (stays _) (Or.imp (And.imp_right (stays _)) (stays _))

/-- The set `ds` is `cs`, or `cs` with readiness computed early: whatever it says, it has a source. -/
inductive Early (testsCount : Bool) (cs : Conditions) : Conditions → Prop
  | same : Early testsCount cs cs
  | computed (now : Instant) {ready : Condition} (type_eq : ready.type = .ready)
      (source : (cs.readySource? testsCount).isSome) : Early testsCount cs (cs.setFirst now ready)

theorem early_summarize (now : Instant) (generation : Int64) (testsCount : Bool) (cs : Conditions) :
    Early testsCount cs (cs.summarize now generation testsCount) := by
  cases h : cs.readySource? testsCount with
  | none =>
    rw [summarize_of_none h]
    exact .same
  | some source =>
    rw [summarize_of_some h]
    exact .computed now rfl (by rw [h]; rfl)

namespace Early

theorem set (h : Early testsCount cs ds) (hc : c.type ≠ .ready) :
    Early testsCount (cs.set now c) (ds.set now c) := by
  cases h with
  | same => exact .same
  | computed early type_eq source =>
    rw [set_setFirst (by rwa [type_eq])]
    exact .computed early type_eq (isSome_readySource?_set c source)

/-- **Computed again, early readiness leaves no trace** but the time at which it changed. -/
theorem timeless_summarize (h : Early testsCount cs ds) (now : Instant) (generation : Int64) :
    timeless (ds.summarize now generation testsCount) =
      timeless (cs.summarize now generation testsCount) := by
  cases h with
  | same => rfl
  | @computed early ready type_eq source =>
    obtain ⟨⟨status, c⟩, hs⟩ := Option.isSome_iff_exists.1 source
    have hs' : (cs.setFirst early ready).readySource? testsCount = some (status, c) := by
      rw [← hs]
      exact readySource?_congr testsCount fun type ht => ofType_setFirst (by rwa [type_eq]) cs
    rw [summarize_of_some hs, summarize_of_some hs']
    exact timeless_setFirst_setFirst rfl type_eq cs

end Early

end Conditions

end ReleaseControl
