import ReleaseControl.Proofs.Condition.Placement
import ReleaseControl.Proofs.Object.Status

/-!
# Transition times

* `Marking.Moves`: the mark finds its type absent, without a time, or with another status.
* `Still`, `LastMove`: the marks of a type that move its time, read off a sequence.
* **`transition_times`**: the time of each type after any marks, and what one mark leaves alone.
-/

namespace ReleaseControl

/-- A mark of a condition, of any type, with the time shown by the clock when it is made. -/
structure Marking extends Mark where
  now : Instant

namespace Conditions

variable {now : Instant} {cs front back : Conditions} {c old : Condition}

/-! ## Setting, element by element -/

theorem placed_eq (now : Instant) (c : Condition) (cs : Conditions) :
    placed now c cs = { c with lastTransitionTime := (placed now c cs).lastTransitionTime } := by
  unfold placed
  split <;> rfl

theorem set_append (hf : ∀ d ∈ front, d.type ≠ c.type) (ho : old.type = c.type) :
    set now c (front ++ old :: back) = front ++ placed now c (front ++ old :: back) :: back := by
  have first : (front ++ old :: back).get? c.type = some old :=
    get?_eq_some_iff.2 ⟨front, back, rfl, ho, hf⟩
  rw [set, placed, first, Option.isSome_some, if_pos rfl, replace_append hf ho]

theorem set_of_lacks (h : cs.Lacks c.type) : cs.set now c = cs ++ [placed now c cs] := by
  simp [set, placed, get?_eq_none_iff.2 h]

end Conditions

namespace HelmRelease

def marked (o : HelmRelease) (m : Marking) : HelmRelease :=
  o.mark m.now m.type m.status m.reason m.message

/-- The object after some marks, made one after the other. -/
def markedAll (o : HelmRelease) (ms : List Marking) : HelmRelease := ms.foldl marked o

/-- The transition time of the condition of a type, if there is one and it has a time. -/
def transitionTime? (o : HelmRelease) (type : ConditionType) : Option String :=
  (o.conditions.get? type).bind (·.lastTransitionTime)

end HelmRelease

/-- The mark finds no condition of its type on the object, or one without a time, or one with another
status. -/
inductive Marking.Moves (m : Marking) (o : HelmRelease) : Prop
  | absent (none : o.conditions.get? m.type = none)
  | untimed {c : Condition} (found : o.conditions.get? m.type = some c)
      (none : c.lastTransitionTime = none)
  | changed {c : Condition} (found : o.conditions.get? m.type = some c) (other : c.status ≠ m.status)

namespace HelmRelease

variable {o : HelmRelease} {m n : Marking} {ms : List Marking} {type : ConditionType}

/-- No mark of a type among those made on an object moves its time: each is looked at on the object
as the marks before it have left it. -/
def Still (o : HelmRelease) (type : ConditionType) (ms : List Marking) : Prop :=
  ∀ before m after, ms = before ++ m :: after → m.type = type → ¬ m.Moves (o.markedAll before)

/-- The mark is the last of a type, among those made on an object, that moves its time. -/
def LastMove (o : HelmRelease) (type : ConditionType) (ms : List Marking) (m : Marking) : Prop :=
  ∃ before after, ms = before ++ m :: after ∧ m.type = type ∧ m.Moves (o.markedAll before) ∧
    ((o.markedAll before).marked m).Still type after

/-! ## One mark -/

theorem get?_conditions_marked (o : HelmRelease) (m : Marking) : (o.marked m).conditions.get? m.type =
    some (o.conditions.placed m.now (m.condition o.generation)) :=
  Conditions.get?_set m.now (m.condition o.generation) o.conditions

theorem transitionTime?_marked (o : HelmRelease) (m : Marking) : (o.marked m).transitionTime? m.type =
    (o.conditions.placed m.now (m.condition o.generation)).lastTransitionTime := by
  rw [transitionTime?, get?_conditions_marked, Option.bind_some]

theorem transitionTime?_marked_of_moves (h : m.Moves o) :
    (o.marked m).transitionTime? m.type = some m.now.statusText := by
  rw [transitionTime?_marked, Conditions.placed]
  cases h with
  | absent none => simp [Mark.condition, none, Conditions.timed]
  | untimed found none => simp [Mark.condition, found, Conditions.transitionTime, none]
  | changed found other => simp [Mark.condition, found, Conditions.transitionTime, other]

theorem transitionTime?_marked_of_not_moves (h : ¬ m.Moves o) :
    (o.marked m).transitionTime? m.type = o.transitionTime? m.type := by
  rw [transitionTime?_marked, Conditions.placed, transitionTime?]
  cases found : o.conditions.get? m.type with
  | none => exact absurd (.absent found) h
  | some c =>
    -- the mark finds a condition of its own status, with a time to keep
    have same : c.status = m.status := Decidable.of_not_not fun other => h (.changed found other)
    have has_time : c.lastTransitionTime.isSome :=
      Option.isSome_iff_ne_none.2 fun none => h (.untimed found none)
    simp [Mark.condition, found, Conditions.transitionTime, same, has_time]

theorem transitionTime?_marked_of_ne (h : type ≠ m.type) :
    (o.marked m).transitionTime? type = o.transitionTime? type := by
  have others : (o.marked m).conditions.ofType type = o.conditions.ofType type :=
    ofType_conditions_mark o h m.now m.status m.reason m.message
  rw [transitionTime?, transitionTime?, Conditions.get?_congr others]

/-! ## A sequence of marks -/

theorem Still.cons (hm : m.type = type → ¬ m.Moves o) (h : (o.marked m).Still type ms) :
    o.Still type (m :: ms) := by
  intro before n after split
  cases before with
  | nil =>
    obtain ⟨rfl, -⟩ := List.cons_eq_cons.1 split
    exact hm
  | cons b before =>
    obtain ⟨rfl, rest⟩ := List.cons_eq_cons.1 split
    exact h before n after rest

theorem LastMove.cons (m : Marking) (h : (o.marked m).LastMove type ms n) :
    o.LastMove type (m :: ms) n := by
  obtain ⟨before, after, rfl, ht, moves, still⟩ := h
  exact ⟨m :: before, after, rfl, ht, moves, still⟩

/-- **The time of a type is that of the last mark that moved it**, or the one it had before. -/
theorem transitionTime?_markedAll (type : ConditionType) (ms : List Marking) (o : HelmRelease) :
    (∃ m, o.LastMove type ms m ∧ (o.markedAll ms).transitionTime? type = some m.now.statusText) ∨
      o.Still type ms ∧ (o.markedAll ms).transitionTime? type = o.transitionTime? type := by
  induction ms generalizing o with
  | nil =>
    refine .inr ⟨fun before m after split => ?_, rfl⟩
    simp at split
  | cons m ms ih =>
    rcases ih (o.marked m) with ⟨n, last, time⟩ | ⟨still, time⟩
    · exact .inl ⟨n, last.cons m, time⟩
    -- nothing later moves the time, so the first mark decides
    by_cases ht : m.type = type
    · subst ht
      by_cases moves : m.Moves o
      · exact .inl ⟨m, ⟨[], ms, rfl, rfl, moves, still⟩,
          time.trans (transitionTime?_marked_of_moves moves)⟩
      · exact .inr ⟨still.cons fun _ => moves, time.trans (transitionTime?_marked_of_not_moves moves)⟩
    · exact .inr ⟨still.cons (absurd · ht), time.trans (transitionTime?_marked_of_ne (Ne.symm ht))⟩

/-! ## What a mark leaves alone -/

/-- **A mark replaces the first condition of its type** where it stands, or adds one at the end. -/
theorem conditions_marked (o : HelmRelease) (m : Marking) :
    let said : Condition :=
      { m.condition o.generation with lastTransitionTime := (o.marked m).transitionTime? m.type }
    (∃ front old back, o.conditions = front ++ old :: back ∧ old.type = m.type ∧
        Conditions.Lacks front m.type ∧ (o.marked m).conditions = front ++ said :: back) ∨
      o.conditions.Lacks m.type ∧ (o.marked m).conditions = o.conditions ++ [said] := by
  intro said
  have hset : (o.marked m).conditions = o.conditions.set m.now (m.condition o.generation) := rfl
  have hsaid : said = o.conditions.placed m.now (m.condition o.generation) := by
    rw [Conditions.placed_eq, ← transitionTime?_marked]
  rw [hset, hsaid]
  cases h : o.conditions.get? m.type with
  | some old =>
    obtain ⟨front, back, hcs, ho, hf⟩ := Conditions.get?_eq_some_iff.1 h
    refine .inl ⟨front, old, back, hcs, ho, hf, ?_⟩
    rw [hcs]
    exact Conditions.set_append hf ho
  | none =>
    have lacks : o.conditions.Lacks m.type := Conditions.get?_eq_none_iff.1 h
    exact .inr ⟨lacks, Conditions.set_of_lacks lacks⟩

/-- **Transition times record status changes.** After any marks, of any types and at any times of the
clock, the transition time of a type is the time of the last mark of the type that found it absent,
without a time or with another status; without such a mark it is the one it had at the start. Each
mark changes the first condition of its type, in its place, or adds one at the end if there is none;
nothing else about the object changes. -/
theorem transition_times (o : HelmRelease) :
    (∀ (ms : List Marking) (type : ConditionType),
      (∃ m, o.LastMove type ms m ∧ (o.markedAll ms).transitionTime? type = some m.now.statusText) ∨
        o.Still type ms ∧ (o.markedAll ms).transitionTime? type = o.transitionTime? type) ∧
    ∀ m : Marking,
      let said : Condition :=
        { m.condition o.generation with lastTransitionTime := (o.marked m).transitionTime? m.type }
      ((∃ front old back, o.conditions = front ++ old :: back ∧ old.type = m.type ∧
          Conditions.Lacks front m.type ∧ (o.marked m).conditions = front ++ said :: back) ∨
        o.conditions.Lacks m.type ∧ (o.marked m).conditions = o.conditions ++ [said]) ∧
      (o.marked m).SameDeclaration o ∧
      (o.marked m).statusOrNew = { o.statusOrNew with conditions := (o.marked m).conditions } :=
  ⟨fun ms type => transitionTime?_markedAll type ms o,
    fun m => ⟨conditions_marked o m, sameDeclaration_mark o m.now m.type m.status m.reason m.message,
      statusOrNew_mark o m.now m.type m.status m.reason m.message⟩⟩

end HelmRelease

end ReleaseControl
