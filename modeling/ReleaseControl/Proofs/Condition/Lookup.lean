import ReleaseControl.Condition.Ready

/-!
# Conditions by type

What setting a condition and computing readiness do to the conditions of each type. A set may list a type
more than once; only the first of a type is read and replaced.
-/

namespace ReleaseControl

namespace Conditions

def ofType (type : ConditionType) (cs : Conditions) : Conditions := cs.filter (·.type == type)

/-- What a condition becomes when it is set: the transition time of the one that it replaces counts,
if there is one. -/
def placed (now : Instant) (c : Condition) (cs : Conditions) : Condition :=
  match cs.get? c.type with
  | some old => { c with lastTransitionTime := transitionTime now old c }
  | none => timed now c

variable {now : Instant} {c old : Condition} {cs : Conditions} {type : ConditionType}

/-! ## Reading -/

theorem get?_eq_head? (type : ConditionType) (cs : Conditions) :
    cs.get? type = (cs.ofType type).head? := by
  rw [ofType, List.head?_filter]
  rfl

theorem get?_congr {ds : Conditions} (h : cs.ofType type = ds.ofType type) :
    cs.get? type = ds.get? type := by
  rw [get?_eq_head?, get?_eq_head?, h]

theorem get?_cons (d : Condition) (cs : Conditions) (type : ConditionType) :
    get? (d :: cs) type = if d.type = type then some d else cs.get? type := by
  by_cases h : d.type = type <;> simp [get?, h]

theorem ofType_cons (d : Condition) (cs : Conditions) (type : ConditionType) :
    ofType type (d :: cs) = if d.type = type then d :: cs.ofType type else cs.ofType type := by
  by_cases h : d.type = type <;> simp [ofType, h]

theorem ofType_append (cs ds : Conditions) (type : ConditionType) :
    ofType type (cs ++ ds) = cs.ofType type ++ ds.ofType type := by
  rw [ofType, List.filter_append]
  rfl

/-! ## Setting -/

@[simp] theorem transitionTime_isSome (now : Instant) (old c : Condition) :
    (transitionTime now old c).isSome := by
  unfold transitionTime
  split
  · next h => exact h.2
  · rfl

@[simp] theorem placed_status (now : Instant) (c : Condition) (cs : Conditions) :
    (placed now c cs).status = c.status := by unfold placed; split <;> rfl

@[simp] theorem placed_reason (now : Instant) (c : Condition) (cs : Conditions) :
    (placed now c cs).reason = c.reason := by unfold placed; split <;> rfl

@[simp] theorem placed_message (now : Instant) (c : Condition) (cs : Conditions) :
    (placed now c cs).message = c.message := by unfold placed; split <;> rfl

@[simp] theorem placed_observedGeneration (now : Instant) (c : Condition) (cs : Conditions) :
    (placed now c cs).observedGeneration = c.observedGeneration := by unfold placed; split <;> rfl

theorem placed_lastTransitionTime_isSome (now : Instant) (c : Condition) (cs : Conditions) :
    (placed now c cs).lastTransitionTime.isSome := by
  unfold placed
  split
  · exact transitionTime_isSome _ _ _
  · rfl

theorem timed_type (now : Instant) (c : Condition) : (timed now c).type = c.type := rfl

theorem ofType_replace (h : type ≠ c.type) (cs : Conditions) :
    (replace now c cs).ofType type = cs.ofType type := by
  induction cs with
  | nil => rfl
  | cons old cs ih =>
    rw [replace]
    split
    · next ho =>
      rw [ofType_cons, ofType_cons, if_neg h.symm, if_neg fun e => h (e.symm.trans ho)]
    · rw [ofType_cons, ofType_cons, ih]

theorem ofType_set (h : type ≠ c.type) (cs : Conditions) :
    (cs.set now c).ofType type = cs.ofType type := by
  unfold set
  split
  · exact ofType_replace h cs
  · have ht : ofType type [timed now c] = [] := by
      rw [ofType_cons, timed_type, if_neg h.symm]
      rfl
    rw [ofType_append, ht, List.append_nil]

theorem ofType_setFirst (h : type ≠ c.type) (cs : Conditions) :
    (cs.setFirst now c).ofType type = cs.ofType type := by
  unfold setFirst
  split
  · exact ofType_replace h cs
  · rw [ofType_cons, timed_type, if_neg h.symm]

theorem get?_replace (h : cs.get? c.type = some old) :
    (replace now c cs).get? c.type =
      some { c with lastTransitionTime := transitionTime now old c } := by
  induction cs with
  | nil => exact absurd h (by simp [get?])
  | cons d cs ih =>
    rw [get?_cons] at h
    rw [replace]
    by_cases hd : d.type = c.type
    · rw [if_pos hd, Option.some.injEq] at h
      rw [if_pos hd, get?_cons, if_pos rfl, h]
    · rw [if_neg hd] at h
      rw [if_neg hd, get?_cons, if_neg hd, ih h]

/-- **A condition that is set is found afterwards.** -/
theorem get?_set (now : Instant) (c : Condition) (cs : Conditions) :
    (cs.set now c).get? c.type = some (placed now c cs) := by
  unfold set placed
  cases h : cs.get? c.type with
  | some old => exact get?_replace h
  | none =>
    rw [get?] at h
    simp [get?, List.find?_append, h, timed]

/-- **A condition that is set at the front is found afterwards.** -/
theorem get?_setFirst (now : Instant) (c : Condition) (cs : Conditions) :
    (cs.setFirst now c).get? c.type = some (placed now c cs) := by
  unfold setFirst placed
  cases h : cs.get? c.type with
  | some old => exact get?_replace h
  | none => exact (get?_cons _ _ _).trans (if_pos rfl)

theorem replace_of_get? (h : cs.get? c.type = some old)
    (hold : { c with lastTransitionTime := transitionTime now old c } = old) :
    replace now c cs = cs := by
  induction cs with
  | nil => rfl
  | cons d cs ih =>
    rw [get?_cons] at h
    rw [replace]
    by_cases hd : d.type = c.type
    · rw [if_pos hd, Option.some.injEq] at h
      rw [if_pos hd, h, hold]
    · rw [if_neg hd] at h
      rw [if_neg hd, ih h]

theorem setFirst_of_get? (h : cs.get? c.type = some old) (ht : old.lastTransitionTime.isSome)
    (hold : { c with lastTransitionTime := old.lastTransitionTime } = old) :
    cs.setFirst now c = cs := by
  have hs : old.status = c.status := (congrArg Condition.status hold).symm
  rw [setFirst, h, Option.isSome_some, if_pos rfl]
  refine replace_of_get? h ?_
  rwa [transitionTime, if_pos ⟨hs, ht⟩]

/-! ## Readiness -/

theorem readySource?_congr {ds : Conditions} (testsCount : Bool)
    (h : ∀ type, type ≠ .ready → cs.ofType type = ds.ofType type) :
    cs.readySource? testsCount = ds.readySource? testsCount := by
  unfold readySource?
  rw [get?_congr (h .remediated (by decide)), get?_congr (h .testSuccess (by decide)),
    get?_congr (h .released (by decide))]

/-- **Computing readiness changes no other condition.** -/
theorem ofType_summarize (h : type ≠ .ready) (now : Instant) (generation : Int64) (testsCount : Bool)
    (cs : Conditions) : (cs.summarize now generation testsCount).ofType type = cs.ofType type := by
  unfold summarize
  split
  · rfl
  · exact ofType_setFirst h cs

end Conditions

end ReleaseControl
