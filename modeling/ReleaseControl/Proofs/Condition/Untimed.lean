import ReleaseControl.Proofs.Condition.Early

/-!
# Conditions without their times

What conditions say does not depend on when they were set: times go into transition times alone.

* `untimed`: a condition, and a set of them, with the transition times left out.
* `Alike`: two sets have the same conditions of each type, whatever their places and times.
-/

namespace ReleaseControl

def Condition.untimed (c : Condition) : Condition := { c with lastTransitionTime := none }

namespace Conditions

def untimed (cs : Conditions) : Conditions := cs.map Condition.untimed

variable {cs ds : Conditions} {c : Condition} {type : ConditionType} {testsCount : Bool}

@[simp] theorem untimed_cons (c : Condition) (cs : Conditions) :
    untimed (c :: cs) = c.untimed :: cs.untimed := rfl

@[simp] theorem untimed_append (cs ds : Conditions) :
    untimed (cs ++ ds) = cs.untimed ++ ds.untimed := List.map_append

@[simp] theorem untimed_untimed (cs : Conditions) : cs.untimed.untimed = cs.untimed := by
  induction cs with
  | nil => rfl
  | cons c cs ih => rw [untimed_cons, untimed_cons, ih]; rfl

/-! ## Reading -/

theorem get?_untimed (type : ConditionType) (cs : Conditions) :
    cs.untimed.get? type = (cs.get? type).map Condition.untimed := by
  rw [get?, untimed, List.find?_map]
  rfl

theorem ofType_untimed (type : ConditionType) (cs : Conditions) :
    cs.untimed.ofType type = (cs.ofType type).untimed := by
  rw [ofType, untimed, List.filter_map]
  rfl

theorem ofType_of_absent (h : ¬ (cs.get? type).isSome) : cs.ofType type = [] := by
  rw [get?_eq_head?] at h
  simpa using h

theorem readySource?_untimed (testsCount : Bool) (cs : Conditions) :
    cs.untimed.readySource? testsCount =
      (cs.readySource? testsCount).map fun source => (source.1, source.2.untimed) := by
  unfold readySource?
  rw [get?_untimed, get?_untimed, get?_untimed]
  cases cs.get? .remediated with
  | some c => rfl
  | none =>
    cases testsCount
    · cases cs.get? .released <;> rfl
    · cases cs.get? .testSuccess
      · cases cs.get? .released <;> rfl
      · rfl

/-! ## Changes at other times -/

theorem untimed_replace (now later : Instant) (c : Condition) (cs : Conditions) :
    (replace now c cs).untimed = (replace later c cs.untimed).untimed := by
  induction cs with
  | nil => rfl
  | cons old cs ih =>
    have type_eq : old.untimed.type = old.type := rfl
    rw [untimed_cons, replace, replace, type_eq]
    split
    · rw [untimed_cons, untimed_cons, untimed_untimed]
      rfl
    · rw [untimed_cons, untimed_cons, ih]
      rfl

/-- **Setting a condition** depends on times in the times alone. -/
theorem untimed_set (now later : Instant) (c : Condition) (cs : Conditions) :
    (cs.set now c).untimed = (cs.untimed.set later c).untimed := by
  rw [set, set, get?_untimed, Option.isSome_map]
  split
  · exact untimed_replace now later c cs
  · simp [Condition.untimed, timed]

theorem untimed_setFirst (now later : Instant) (c : Condition) (cs : Conditions) :
    (cs.setFirst now c).untimed = (cs.untimed.setFirst later c).untimed := by
  rw [setFirst, setFirst, get?_untimed, Option.isSome_map]
  split
  · exact untimed_replace now later c cs
  · simp [Condition.untimed, timed]

/-- **Computing readiness** depends on times in the times alone. -/
theorem untimed_summarize (now later : Instant) (generation : Int64) (testsCount : Bool)
    (cs : Conditions) : (cs.summarize now generation testsCount).untimed =
      (cs.untimed.summarize later generation testsCount).untimed := by
  have hs := readySource?_untimed testsCount cs
  cases h : cs.readySource? testsCount with
  | none =>
    rw [h] at hs
    rw [summarize_of_none h, summarize_of_none hs, untimed_untimed]
  | some source =>
    obtain ⟨status, c⟩ := source
    rw [h] at hs
    rw [summarize_of_some h, summarize_of_some hs]
    exact untimed_setFirst now later _ cs

theorem untimed_set_congr (h : cs.untimed = ds.untimed) (now later : Instant) (c : Condition) :
    (cs.set now c).untimed = (ds.set later c).untimed := by
  rw [untimed_set now now, h, ← untimed_set later now]

theorem untimed_summarize_congr (h : cs.untimed = ds.untimed) (now later : Instant)
    (generation : Int64) (testsCount : Bool) : (cs.summarize now generation testsCount).untimed =
      (ds.summarize later generation testsCount).untimed := by
  rw [untimed_summarize now now, h, ← untimed_summarize later now]

theorem untimed_timeless (cs : Conditions) : cs.timeless.untimed = cs.untimed := by
  induction cs with
  | nil => rfl
  | cons c cs ih =>
    rw [timeless]
    split
    · rfl
    · rw [untimed_cons, untimed_cons, ih]

/-! ## Type by type -/

theorem ofType_untimed_replace (h : (cs.get? c.type).isSome) (now : Instant) :
    (replace now c cs).untimed.ofType c.type = c.untimed :: (cs.untimed.ofType c.type).tail := by
  obtain ⟨old, hold⟩ := Option.isSome_iff_exists.1 h
  obtain ⟨front, back, rfl, ho, hf⟩ := get?_eq_some_iff.1 hold
  have none_before : ofType c.type front = [] := by
    rw [ofType, List.filter_eq_nil_iff]
    intro d hd
    simpa using hf d hd
  rw [replace_append hf ho, ofType_untimed, ofType_untimed, ofType_append, ofType_append, none_before,
    List.nil_append, List.nil_append, ofType_cons, ofType_cons, if_pos rfl, if_pos ho]
  rfl

theorem ofType_untimed_set (now : Instant) (c : Condition) (cs : Conditions) :
    (cs.set now c).untimed.ofType c.type = c.untimed :: (cs.untimed.ofType c.type).tail := by
  rw [set]
  split
  · next present => exact ofType_untimed_replace present now
  · next absent =>
    rw [ofType_untimed, ofType_untimed, ofType_append, ofType_of_absent absent, List.nil_append, ofType_cons,
      timed_type, if_pos rfl]
    rfl

theorem ofType_untimed_setFirst (now : Instant) (c : Condition) (cs : Conditions) :
    (cs.setFirst now c).untimed.ofType c.type = c.untimed :: (cs.untimed.ofType c.type).tail := by
  rw [setFirst]
  split
  · next present => exact ofType_untimed_replace present now
  · next absent =>
    rw [ofType_untimed, ofType_untimed, ofType_cons, timed_type, if_pos rfl, ofType_of_absent absent]
    rfl

theorem ofType_ready_summarize (now : Instant) (generation : Int64) (testsCount : Bool)
    (cs : Conditions) : (cs.summarize now generation testsCount).untimed.ofType .ready =
      match cs.untimed.readySource? testsCount with
      | none => cs.untimed.ofType .ready
      | some (status, source) =>
        readiness generation status source :: (cs.untimed.ofType .ready).tail := by
  rw [readySource?_untimed]
  cases h : cs.readySource? testsCount with
  | none => rw [summarize_of_none h]; rfl
  | some source =>
    rw [summarize_of_some h]
    exact ofType_untimed_setFirst now (readiness generation source.1 source.2) cs

/-- The sets have the same conditions of each type, but for places and times. -/
def Alike (cs ds : Conditions) : Prop := ∀ type, cs.untimed.ofType type = ds.untimed.ofType type

/-- **Sets that are alike stay alike** when readiness is computed. -/
theorem Alike.summarize (h : Alike cs ds) (now later : Instant) (generation : Int64)
    (testsCount : Bool) : Alike (cs.summarize now generation testsCount)
      (ds.summarize later generation testsCount) := by
  intro type
  by_cases ht : type = .ready
  · subst ht
    rw [ofType_ready_summarize, ofType_ready_summarize, h .ready,
      readySource?_congr testsCount fun type _ => h type]
  · rw [ofType_untimed, ofType_untimed, ofType_summarize ht, ofType_summarize ht, ← ofType_untimed,
      ← ofType_untimed, h type]

end Conditions

end ReleaseControl
