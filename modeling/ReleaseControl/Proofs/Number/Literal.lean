import Mathlib.Data.List.TakeWhile
import ReleaseControl.Json.Text
import ReleaseControl.Proofs.Number.Digits
import ReleaseControl.Proofs.Number.Nearest

/-!
# Number literals

* `NumberLiteral`: the parts of a number, without the sign; `NumberLiteral.chars`: their text.
* **`takeNumber?_literal`**: a number is taken apart into the parts that it was put together from.
* **`takeNumber?_intChars`**, **`takeNumber?_double`**: whole numbers and doubles read back.
-/

namespace ReleaseControl

namespace Json

/-! ## Literals -/

/-- The parts of a number, without its sign. -/
structure NumberLiteral where
  whole : List Char
  fraction : List Char := []
  exponent : Option Int := none

namespace NumberLiteral

/-- The digits after the point, with the point, if there are any. -/
def pointChars (l : NumberLiteral) : List Char :=
  if l.fraction = [] then [] else '.' :: l.fraction

/-- The exponent with its mark, if there is one. -/
def exponentChars (l : NumberLiteral) : List Char :=
  match l.exponent with
  | some e => 'e' :: Double.exponentChars e
  | none => []

def chars (l : NumberLiteral) : List Char := l.whole ++ (l.pointChars ++ l.exponentChars)

/-- The parts make a number: digits before and after the point, and no zero in front of others. -/
structure Valid (l : NumberLiteral) : Prop where
  whole : ∀ c ∈ l.whole, c.isDigit
  ne_nil : l.whole ≠ []
  front : l.whole.head? = some '0' → l.whole.length = 1
  fraction : ∀ c ∈ l.fraction, c.isDigit

end NumberLiteral

/-- What comes next does not go on with a number. -/
def EndsNumber (rest : List Char) : Prop :=
  ∀ c ∈ rest.head?, c.isDigit = false ∧ c ≠ '.' ∧ c ≠ 'e' ∧ c ≠ 'E'

def signed (negative : Bool) (s : List Char) : List Char := if negative then '-' :: s else s

theorem endsNumber_nil : EndsNumber [] := fun _ h => absurd h (by simp)

theorem EndsNumber.stopsDigits {rest : List Char} (h : EndsNumber rest) : StopsDigits rest :=
  fun c hc => (h c hc).1

/-! ## Reading the parts -/

variable {rest : List Char}

theorem takeFraction?_point {digits : List Char} (hd : ∀ c ∈ digits, c.isDigit) (hn : digits ≠ [])
    (h : StopsDigits rest) : takeFraction? ('.' :: (digits ++ rest)) = some (digits, rest) := by
  rw [takeFraction?, spanDigits_append hd h]
  cases digits with
  | nil => exact absurd rfl hn
  | cons d digits => rfl

theorem takeFraction?_none (h : ∀ c ∈ rest.head?, c ≠ '.') : takeFraction? rest = some ([], rest) := by
  unfold takeFraction?
  split
  · next s => exact absurd rfl (h '.' rfl)
  · rfl

theorem takeExponent?_none (h : ∀ c ∈ rest.head?, c ≠ 'e' ∧ c ≠ 'E') :
    takeExponent? rest = some (none, rest) := by
  cases rest with
  | nil => rfl
  | cons c rest =>
    have hc : ¬ (c = 'e' ∨ c = 'E') := not_or.2 (h c rfl)
    unfold takeExponent?
    exact if_neg hc

theorem takeExponent?_chars (e : Int) (h : StopsDigits rest) :
    takeExponent? ('e' :: (Double.exponentChars e ++ rest)) = some (some e, rest) := by
  have digits := spanDigits_append (fun c hc => isDigit_of_mem_toDigits (n := e.natAbs) hc) h
  have value := digitsValue_toDigits e.natAbs
  rw [Double.exponentChars]
  cases ht : Nat.toDigits 10 e.natAbs with
  | nil => exact absurd ht Nat.toDigits_ne_nil
  | cons d ds =>
    rw [ht] at digits value
    unfold takeExponent?
    by_cases he : e < 0
    · simp only [if_pos he, List.cons_append, true_or, if_true]
      rw [← List.cons_append, digits]
      simp only [value]
      congr 3
      omega
    · simp only [if_neg he, List.cons_append, true_or, if_true]
      rw [← List.cons_append, digits]
      simp only [value]
      congr 3
      simp
      omega

namespace NumberLiteral

variable {l : NumberLiteral}

theorem takeExponent?_chars (h : EndsNumber rest) :
    takeExponent? (l.exponentChars ++ rest) = some (l.exponent, rest) := by
  rw [exponentChars]
  cases l.exponent with
  | none => exact takeExponent?_none fun c hc => (h c hc).2.2
  | some e => exact Json.takeExponent?_chars e h.stopsDigits

theorem head?_exponentChars (h : EndsNumber rest) :
    ∀ c ∈ (l.exponentChars ++ rest).head?, c.isDigit = false ∧ c ≠ '.' := by
  rw [exponentChars]
  cases l.exponent with
  | none => exact fun c hc => ⟨(h c hc).1, (h c hc).2.1⟩
  | some e =>
    intro c hc
    rw [← Option.some.inj hc]
    decide

theorem takeFraction?_chars (hl : l.Valid) (h : EndsNumber rest) :
    takeFraction? (l.pointChars ++ (l.exponentChars ++ rest)) =
      some (l.fraction, l.exponentChars ++ rest) := by
  have after := head?_exponentChars (l := l) h
  rw [pointChars]
  split
  · next hf =>
    rw [hf]
    exact takeFraction?_none fun c hc => (after c hc).2
  · next hf => exact takeFraction?_point hl.fraction hf fun c hc => (after c hc).1

theorem stopsDigits_pointChars (h : EndsNumber rest) :
    StopsDigits (l.pointChars ++ (l.exponentChars ++ rest)) := by
  rw [pointChars]
  split
  · exact fun c hc => (head?_exponentChars h c hc).1
  · exact stopsDigits_cons (by decide) _

end NumberLiteral

/-- A number behind its sign, and what follows it. -/
def takeUnsigned? (negative : Bool) (s : List Char) : Option (Json × List Char) := do
  let (whole, s) := spanDigits s
  if whole.isEmpty ∨ (whole.head? = some '0' ∧ whole.length ≠ 1) then none
  else
    let (fraction, s) ← takeFraction? s
    let (exp, s) ← takeExponent? s
    let number ← numberOf? negative whole fraction exp
    return (number, s)

theorem takeNumber?_cons {c : Char} (h : c ≠ '-') (s : List Char) :
    takeNumber? (c :: s) = takeUnsigned? false (c :: s) := by
  unfold takeNumber? takeUnsigned?
  split
  next heq =>
    split at heq
    · next hs => exact absurd (List.cons.inj hs).1 h
    · cases heq
      rfl

theorem takeUnsigned?_literal {l : NumberLiteral} (hl : l.Valid) (negative : Bool)
    (h : EndsNumber rest) : takeUnsigned? negative (l.chars ++ rest) =
      (numberOf? negative l.whole l.fraction l.exponent).map fun v => (v, rest) := by
  have front : ¬ (l.whole.isEmpty = true ∨ (l.whole.head? = some '0' ∧ l.whole.length ≠ 1)) := by
    rw [not_or, List.isEmpty_iff]
    exact ⟨hl.ne_nil, fun hz => hz.2 (hl.front hz.1)⟩
  rw [NumberLiteral.chars, List.append_assoc, List.append_assoc]
  simp only [takeUnsigned?, spanDigits_append hl.whole (l.stopsDigits_pointChars h), if_neg front,
    NumberLiteral.takeFraction?_chars hl h, NumberLiteral.takeExponent?_chars h,
    Option.bind_eq_bind, Option.bind_some]
  cases numberOf? negative l.whole l.fraction l.exponent <;> rfl

/-- **A number is taken apart into the parts that it was put together from.** -/
theorem takeNumber?_literal {l : NumberLiteral} (hl : l.Valid) (negative : Bool) (h : EndsNumber rest) :
    takeNumber? (signed negative l.chars ++ rest) =
      (numberOf? negative l.whole l.fraction l.exponent).map fun v => (v, rest) := by
  cases negative with
  | true => exact takeUnsigned?_literal hl true h
  | false =>
    -- a digit comes first, so no sign is taken off
    obtain ⟨c, w, hw⟩ := List.exists_cons_of_ne_nil hl.ne_nil
    have hc : c ≠ '-' := by
      rintro rfl
      exact absurd (hl.whole '-' (hw ▸ List.mem_cons_self)) (by decide)
    rw [← takeUnsigned?_literal hl false h, signed, if_neg (by decide), NumberLiteral.chars, hw]
    exact takeNumber?_cons hc _

/-! ## Whole numbers -/

/-- The literal of a whole number without its sign. -/
def natLiteral (n : Nat) : NumberLiteral := { whole := Nat.toDigits 10 n }

theorem valid_natLiteral (n : Nat) : (natLiteral n).Valid where
  whole _ hc := isDigit_of_mem_toDigits hc
  ne_nil := Nat.toDigits_ne_nil
  front hz := by
    rcases Nat.eq_zero_or_pos n with rfl | hn
    · rfl
    · exact absurd hz (head?_toDigits hn)
  fraction _ hc := absurd hc List.not_mem_nil

theorem intChars_eq (n : Int) : intChars n = signed (n < 0) (natLiteral n.natAbs).chars := by
  have text : (natLiteral n.natAbs).chars = Nat.toDigits 10 n.natAbs := List.append_nil _
  rw [text, intChars, signed]
  by_cases hn : n < 0 <;> simp [hn]

theorem wholeOf?_toDigits (n : Whole) :
    wholeOf? (n.value < 0) (Nat.toDigits 10 n.value.natAbs) = some n := by
  simp only [wholeOf?, digitsValue_toDigits, decide_eq_true_eq]
  split
  · next negative =>
    have value : -(n.value.natAbs : Int) = n.value := by omega
    rw [if_neg (by omega), value, Whole.ofInt?_value]
  · next natural =>
    have value : (n.value.natAbs : Int) = n.value := by omega
    rw [value, Whole.ofInt?_value]

/-- **A whole number of 64 bits reads back.** -/
theorem takeNumber?_intChars (n : Whole) (h : EndsNumber rest) :
    takeNumber? (intChars n.value ++ rest) = some (.int n, rest) := by
  have number : numberOf? (n.value < 0) (natLiteral n.value.natAbs).whole [] none = some (.int n) := by
    rw [numberOf?, if_pos ⟨rfl, rfl⟩, natLiteral, wholeOf?_toDigits]
  rw [intChars_eq, takeNumber?_literal (valid_natLiteral _) _ h]
  exact congrArg (Option.map fun v => (v, rest)) number

/-! ## Doubles -/

/-- The literal reads as a double, up to the sign. -/
structure NumberLiteral.ReadsAs (l : NumberLiteral) (x : Double) : Prop where
  valid : l.Valid
  marked : l.fraction ≠ [] ∨ l.exponent.isSome
  nearest : Double.nearestDecimal (digitsValue (l.whole ++ l.fraction))
    (l.exponent.getD 0 - l.fraction.length) = x.magnitude

theorem numberOf?_double {l : NumberLiteral} {x : Double} (h : l.ReadsAs x) :
    numberOf? x.negative l.whole l.fraction l.exponent = some (.double x) := by
  have decimal : Double.ofDecimal? x.negative (digitsValue (l.whole ++ l.fraction))
      (l.exponent.getD 0 - l.fraction.length) = some x := by
    simp only [Double.ofDecimal?, h.nearest]
    exact dif_pos x.isFinite
  have marked : ¬ (l.fraction.isEmpty = true ∧ l.exponent.isNone = true) := by
    rintro ⟨fraction, exponent⟩
    rcases h.marked with hf | he
    · exact hf (List.isEmpty_iff.1 fraction)
    · exact absurd he (by simpa using exponent)
  rw [numberOf?, if_neg marked]
  exact congrArg (Option.map Json.double) decimal

/-- A literal lays out some digits with a point behind the first `point` of them: it stands for the
same number, with zeros added at most. -/
structure LaysOut (l : NumberLiteral) (digits : List Char) (point : Int) : Prop where
  valid : l.Valid
  marked : l.fraction ≠ [] ∨ l.exponent.isSome
  value : ∃ k : Nat, digitsValue (l.whole ++ l.fraction) = digitsValue digits * 10 ^ k ∧
    l.exponent.getD 0 - l.fraction.length = point - digits.length - k

section LaysOut

variable {digits : List Char} (hd : ∀ c ∈ digits, c.isDigit) (hn : digits ≠ []) {point : Int}

theorem isDigit_of_mem_zeros {n : Nat} {c : Char} (h : c ∈ List.replicate n '0') : c.isDigit :=
  (List.mem_replicate.1 h).2 ▸ rfl

include hd hn

theorem laysOut_front (h : point ≤ 0) : LaysOut
    { whole := ['0'], fraction := List.replicate (-point).toNat '0' ++ digits } digits point where
  valid :=
    { whole := by simp
      ne_nil := by simp
      front := by simp
      fraction := fun c hc => (List.mem_append.1 hc).elim isDigit_of_mem_zeros (hd c) }
  marked := .inl (by simp [hn])
  value := by
    refine ⟨0, by simp, ?_⟩
    simp only [List.length_append, List.length_replicate, Option.getD_none]
    omega

theorem laysOut_behind (hz : digits.head? ≠ some '0') (h : (digits.length : Int) ≤ point) : LaysOut
    { whole := digits ++ List.replicate (point.toNat - digits.length) '0', fraction := ['0'] }
    digits point where
  valid :=
    { whole := fun c hc => (List.mem_append.1 hc).elim (hd c) isDigit_of_mem_zeros
      ne_nil := by simp [hn]
      front := by
        rw [List.head?_append_of_ne_nil _ hn]
        exact fun h => absurd h hz
      fraction := by simp }
  marked := .inl (by simp)
  value := by
    refine ⟨point.toNat - digits.length + 1, ?_, ?_⟩
    · rw [List.append_assoc, ← List.replicate_succ', digitsValue_append_zeros]
    · simp only [List.length_singleton, Option.getD_none]
      omega

omit hn in
theorem laysOut_between (hz : digits.head? ≠ some '0') (h0 : 0 < point)
    (h : point < digits.length) : LaysOut
    { whole := digits.take point.toNat, fraction := digits.drop point.toNat } digits point where
  valid :=
    { whole := fun c hc => hd c (List.mem_of_mem_take hc)
      ne_nil := by
        rw [ne_eq, ← List.length_eq_zero_iff, List.length_take]
        omega
      front := by
        rw [List.head?_take, if_neg (by omega)]
        exact fun h => absurd h hz
      fraction := fun c hc => hd c (List.mem_of_mem_drop hc) }
  marked := .inl (by
    rw [ne_eq, List.drop_eq_nil_iff]
    omega)
  value := by
    refine ⟨0, by simp, ?_⟩
    simp only [List.length_drop, Option.getD_none]
    omega

omit hn in
theorem laysOut_exponent {d : Char} {ds : List Char} (h : digits = d :: ds) : LaysOut
    { whole := [d], fraction := ds, exponent := some (point - 1) } digits point where
  valid :=
    { whole := fun c hc => hd c (h ▸ List.mem_singleton.1 hc ▸ List.mem_cons_self)
      ne_nil := by simp
      front := by simp
      fraction := fun c hc => hd c (h ▸ List.mem_cons_of_mem _ hc) }
  marked := .inr rfl
  value := by
    refine ⟨0, by simp [h], ?_⟩
    simp only [h, List.length_cons, Option.getD_some]
    push_cast
    omega

/-- **Laid out digits are a literal.** -/
theorem exists_laysOut (hz : digits.head? ≠ some '0') (point : Int) :
    ∃ l : NumberLiteral, Double.layout digits point = l.chars ∧ LaysOut l digits point := by
  by_cases plain : -5 < point ∧ point ≤ 16
  · by_cases small : point ≤ 0
    · refine ⟨_, ?_, laysOut_front hd hn small⟩
      simp [Double.layout, plain, small, NumberLiteral.chars, NumberLiteral.pointChars,
        NumberLiteral.exponentChars, hn]
    by_cases long : (digits.length : Int) ≤ point
    · refine ⟨_, ?_, laysOut_behind hd hn hz long⟩
      simp [Double.layout, plain, small, long, NumberLiteral.chars, NumberLiteral.pointChars,
        NumberLiteral.exponentChars]
    · refine ⟨_, ?_, laysOut_between hd hz (not_le.1 small) (not_le.1 long)⟩
      have behind : ¬ digits.length ≤ point.toNat := by omega
      simp [Double.layout, plain, small, long, NumberLiteral.chars, NumberLiteral.pointChars,
        NumberLiteral.exponentChars, behind]
  · obtain ⟨d, ds, rfl⟩ := List.exists_cons_of_ne_nil hn
    refine ⟨_, ?_, laysOut_exponent hd rfl⟩
    cases ds <;> simp [Double.layout, plain, NumberLiteral.chars, NumberLiteral.pointChars,
      NumberLiteral.exponentChars]

end LaysOut

theorem exists_stripZeros (digits : List Char) (e : Int) :
    ∃ (front : List Char) (k : Nat), digits = front ++ List.replicate k '0' ∧
      Double.stripZeros digits e = (front, e + k) := by
  have split := List.takeWhile_append_dropWhile (p := (· == '0')) (l := digits.reverse)
  have zeros : digits.reverse.takeWhile (· == '0') =
      List.replicate (digits.reverse.takeWhile (· == '0')).length '0' :=
    List.eq_replicate_of_mem fun c hc => by simpa using List.mem_takeWhile_imp hc
  have whole : digits = (digits.reverse.dropWhile (· == '0')).reverse ++
      List.replicate (digits.reverse.takeWhile (· == '0')).length '0' := by
    rw [← List.reverse_replicate, ← zeros, ← List.reverse_append, split, List.reverse_reverse]
  refine ⟨_, _, whole, ?_⟩
  have length := congrArg List.length split
  rw [List.length_append, List.length_reverse] at length
  rw [Double.stripZeros]
  congr 2
  omega

/-- The digits of a double, without the zeros at their end: they read back to it, and no zero comes
first. -/
theorem exists_shortest_digits (x : Double) (hm : x.magnitude ≠ 0) : ∃ digits e,
    Double.stripZeros (Nat.toDigits 10 x.shortest.1) x.shortest.2 = (digits, e) ∧
      (∀ c ∈ digits, c.isDigit) ∧ digits.head? ≠ some '0' ∧ 0 < digitsValue digits ∧
      Double.nearestDecimal (digitsValue digits) e = x.magnitude := by
  have shortest := x.nearestDecimal_shortest hm
  have positive : 0 < x.shortest.1 := by
    rw [Nat.pos_iff_ne_zero]
    intro h0
    rw [h0, Double.nearestDecimal, if_pos (.inl rfl)] at shortest
    exact hm shortest.symm
  obtain ⟨front, k, split, strip⟩ := exists_stripZeros (Nat.toDigits 10 x.shortest.1) x.shortest.2
  have value : digitsValue front * 10 ^ k = x.shortest.1 := by
    rw [← digitsValue_append_zeros, ← split, digitsValue_toDigits]
  have hfront : 0 < digitsValue front := Nat.pos_of_mul_pos_right (value ▸ positive)
  refine ⟨front, x.shortest.2 + k, strip, ?_, ?_, hfront, ?_⟩
  · exact fun c hc =>
      isDigit_of_mem_toDigits (n := x.shortest.1) (split ▸ List.mem_append_left _ hc)
  · have hne : front ≠ [] := by
      rintro rfl
      exact absurd hfront (by decide)
    have front_zero := head?_toDigits positive
    rwa [split, List.head?_append_of_ne_nil front hne] at front_zero
  · rw [← Double.nearestDecimal_mul_pow hfront k, value, add_sub_cancel_right, shortest]

theorem LaysOut.readsAs {l : NumberLiteral} {digits : List Char} {point : Int} {x : Double}
    (h : LaysOut l digits point) (hpos : 0 < digitsValue digits)
    (hx : Double.nearestDecimal (digitsValue digits) (point - digits.length) = x.magnitude) :
    l.ReadsAs x where
  valid := h.valid
  marked := h.marked
  nearest := by
    obtain ⟨k, value, exponent⟩ := h.value
    rw [value, exponent, Double.nearestDecimal_mul_pow hpos, hx]

/-- **The text of a double is a literal** that reads as it. -/
theorem exists_double_literal (x : Double) : ∃ l : NumberLiteral,
    x.chars = signed x.negative l.chars ∧ l.ReadsAs x := by
  suffices ∃ l : NumberLiteral, x.magnitudeChars = l.chars ∧ l.ReadsAs x by
    obtain ⟨l, text, reads⟩ := this
    exact ⟨l, by rw [Double.chars, text, signed], reads⟩
  by_cases hm : x.magnitude = 0
  · refine ⟨{ whole := ['0'], fraction := ['0'] }, ?_, ?_⟩
    · rw [Double.magnitudeChars, if_pos hm]
      rfl
    · refine ⟨⟨by simp, by simp, by simp, by simp⟩, .inl (by simp), ?_⟩
      rw [hm]
      decide
  · obtain ⟨digits, e, strip, hd, hz, hpos, nearest⟩ := exists_shortest_digits x hm
    have hn : digits ≠ [] := by
      rintro rfl
      exact absurd hpos (by decide)
    obtain ⟨l, text, laysOut⟩ := exists_laysOut hd hn hz (digits.length + e)
    refine ⟨l, ?_, laysOut.readsAs hpos (by rw [add_sub_cancel_left, nearest])⟩
    rw [← text, Double.magnitudeChars, if_neg hm]
    simp only [strip]

/-- **A double reads back.** -/
theorem takeNumber?_double (x : Double) (h : EndsNumber rest) :
    takeNumber? (x.chars ++ rest) = some (.double x, rest) := by
  obtain ⟨l, text, reads⟩ := exists_double_literal x
  rw [text, takeNumber?_literal reads.valid _ h, numberOf?_double reads]
  rfl

/-! ## How numbers begin -/

theorem exists_signed_cons {l : NumberLiteral} (hl : l.Valid) (negative : Bool) :
    ∃ c s, signed negative l.chars = c :: s ∧ (c = '-' ∨ c.isDigit) := by
  cases negative with
  | true => exact ⟨'-', l.chars, rfl, .inl rfl⟩
  | false =>
    obtain ⟨c, w, hw⟩ := List.exists_cons_of_ne_nil hl.ne_nil
    refine ⟨c, w ++ (l.pointChars ++ l.exponentChars), ?_, .inr (hl.whole c (hw ▸ List.mem_cons_self))⟩
    rw [signed, if_neg (by decide), NumberLiteral.chars, hw, List.cons_append]

theorem exists_intChars_cons (n : Int) : ∃ c s, intChars n = c :: s ∧ (c = '-' ∨ c.isDigit) := by
  rw [intChars_eq]
  exact exists_signed_cons (valid_natLiteral _) _

theorem exists_double_cons (x : Double) : ∃ c s, x.chars = c :: s ∧ (c = '-' ∨ c.isDigit) := by
  obtain ⟨l, text, reads⟩ := exists_double_literal x
  rw [text]
  exact exists_signed_cons reads.valid _

end Json

end ReleaseControl
