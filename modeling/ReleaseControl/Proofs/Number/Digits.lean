import Mathlib.Data.List.Basic
import Mathlib.Tactic.IntervalCases
import ReleaseControl.Json.Reader

/-!
# Decimal digits

* `isDigit_of_mem_toDigits`, `head?_toDigits`: decimal text has digits only, and no zero in front.
* `digitsValue_toDigits`, `digitsValue_append`: the value of digits.
-/

namespace ReleaseControl

/-! ## Decimal text -/

theorem isDigit_of_mem_toDigits {c : Char} {n : Nat} (h : c ∈ Nat.toDigits 10 n) : c.isDigit :=
  Nat.isDigit_of_mem_toDigits (by decide) (by decide) h

theorem head?_toDigits {n : Nat} (h : 0 < n) : (Nat.toDigits 10 n).head? ≠ some '0' := by
  induction n using Nat.strongRecOn with
  | _ n ih =>
    by_cases hn : n < 10
    · rw [Nat.toDigits_of_lt_base hn]
      interval_cases n <;> decide
    · have front := ih (n / 10) (by omega) (by omega)
      rw [Nat.toDigits_of_base_le (by decide) (by omega),
        List.head?_append_of_ne_nil _ Nat.toDigits_ne_nil]
      exact front

namespace Json

/-! ## The value of digits -/

theorem digitsValue_eq (l : List Char) : digitsValue l = Nat.ofDigitChars 10 l 0 := rfl

@[simp] theorem digitsValue_toDigits (n : Nat) : digitsValue (Nat.toDigits 10 n) = n :=
  Nat.ofDigitChars_ten_toDigits

theorem digitsValue_append (l m : List Char) :
    digitsValue (l ++ m) = digitsValue l * 10 ^ m.length + digitsValue m := by
  rw [digitsValue_eq, Nat.ofDigitChars_append, Nat.ofDigitChars_eq_ofDigitChars_zero, Nat.mul_comm]
  rfl

theorem digitsValue_zeros (n : Nat) : digitsValue (List.replicate n '0') = 0 := by
  rw [digitsValue_eq, Nat.ofDigitChars_replicate_zero, Nat.mul_zero]

@[simp] theorem digitsValue_zeros_append (n : Nat) (l : List Char) :
    digitsValue (List.replicate n '0' ++ l) = digitsValue l := by
  rw [digitsValue_append, digitsValue_zeros, Nat.zero_mul, Nat.zero_add]

@[simp] theorem digitsValue_zero_cons (l : List Char) : digitsValue ('0' :: l) = digitsValue l :=
  digitsValue_zeros_append 1 l

@[simp] theorem digitsValue_append_zeros (l : List Char) (n : Nat) :
    digitsValue (l ++ List.replicate n '0') = digitsValue l * 10 ^ n := by
  rw [digitsValue_append, digitsValue_zeros, List.length_replicate, Nat.add_zero]

/-! ## Runs of digits -/

def StopsDigits (rest : List Char) : Prop := ∀ c ∈ rest.head?, c.isDigit = false

theorem stopsDigits_nil : StopsDigits [] := fun _ h => absurd h (by simp)

theorem stopsDigits_cons {c : Char} (h : c.isDigit = false) (rest : List Char) :
    StopsDigits (c :: rest) := fun _ hc => Option.some.inj hc ▸ h

theorem StopsDigits.takeWhile {rest : List Char} (h : StopsDigits rest) :
    rest.takeWhile Char.isDigit = [] := by
  cases rest with
  | nil => rfl
  | cons c rest => exact List.takeWhile_cons_of_neg (by simp [h c rfl])

theorem StopsDigits.dropWhile {rest : List Char} (h : StopsDigits rest) :
    rest.dropWhile Char.isDigit = rest := by
  cases rest with
  | nil => rfl
  | cons c rest => exact List.dropWhile_cons_of_neg (by simp [h c rfl])

/-- **A run of digits is taken whole**, up to where no digit comes next. -/
theorem spanDigits_append {l rest : List Char} (hl : ∀ c ∈ l, c.isDigit) (h : StopsDigits rest) :
    spanDigits (l ++ rest) = (l, rest) := by
  rw [spanDigits, List.takeWhile_append_of_pos hl, List.dropWhile_append_of_pos hl, h.takeWhile,
    h.dropWhile, List.append_nil]

end Json

end ReleaseControl
