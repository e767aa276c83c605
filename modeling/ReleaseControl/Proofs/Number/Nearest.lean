import Mathlib.Data.Int.Log
import Mathlib.Data.Rat.Floor
import ReleaseControl.Number.Decimal

/-!
# Doubles nearest to decimals

* `nearestMagnitude_mul`, **`nearestDecimal_mul_pow`**: another way to write the same number.
* **`nearestDecimal_exact`**: the exact decimal of a double reads back.
* **`nearestDecimal_shortest`**: so do the digits that it prints with.
-/

namespace ReleaseControl

/-! ## Rounding a quotient -/

theorem roundHalfEven_mul (num den : Nat) {c : Nat} (hc : 0 < c) :
    roundHalfEven (num * c) (den * c) = roundHalfEven num den := by
  have below : 2 * (num % den * c) < den * c ↔ 2 * (num % den) < den := by
    rw [← Nat.mul_assoc, Nat.mul_lt_mul_right hc]
  have above : den * c < 2 * (num % den * c) ↔ den < 2 * (num % den) := by
    rw [← Nat.mul_assoc, Nat.mul_lt_mul_right hc]
  simp only [roundHalfEven, Nat.mul_div_mul_right _ _ hc, Nat.mul_mod_mul_right, below, above]

theorem roundHalfEven_mul_self (n : Nat) {den : Nat} (hd : 0 < den) :
    roundHalfEven (n * den) den = n := by
  simp [roundHalfEven, Nat.mul_div_cancel _ hd, hd]

theorem roundHalfEven_cases (num den : Nat) :
    roundHalfEven num den = num / den ∨ roundHalfEven num den = num / den + 1 := by
  simp only [roundHalfEven]
  split
  · exact .inl rfl
  · split
    · exact .inr rfl
    · omega

/-! ## Powers below a quotient -/

theorem powLe_iff {base : Nat} (hb : 0 < base) (k : Int) (num : Nat) {den : Nat} (hd : 0 < den) :
    powLe base k num den = true ↔ (base : ℚ) ^ k ≤ (num : ℚ) / den := by
  have hd' : (0 : ℚ) < den := by exact_mod_cast hd
  rw [powLe, le_div_iff₀ hd']
  split
  · next hk =>
    obtain ⟨n, rfl⟩ := Int.eq_ofNat_of_zero_le hk
    rw [decide_eq_true_iff, Nat.mul_comm]
    simp only [Int.toNat_natCast, zpow_natCast]
    exact_mod_cast Iff.rfl
  · next hk =>
    obtain ⟨n, hn⟩ := Int.eq_ofNat_of_zero_le (show 0 ≤ -k by omega)
    obtain rfl : k = -(n : Int) := by omega
    have hp : (0 : ℚ) < (base : ℚ) ^ n := by positivity
    rw [decide_eq_true_iff, zpow_neg, zpow_natCast, inv_mul_le_iff₀ hp, mul_comm]
    simp only [neg_neg, Int.toNat_natCast]
    exact_mod_cast Iff.rfl

theorem le_log_div {num den : Nat} (hn : 0 < num) (hd : 0 < den) :
    (num.log2 : Int) - den.log2 - 1 ≤ Int.log 2 ((num : ℚ) / den) := by
  have hd' : (0 : ℚ) < den := by exact_mod_cast hd
  have hn' : (0 : ℚ) < num := by exact_mod_cast hn
  rw [← Int.zpow_le_iff_le_log (by decide) (div_pos hn' hd'), le_div_iff₀ hd']
  have h1 : (2 : ℚ) ^ num.log2 ≤ num := by exact_mod_cast Nat.log2_self_le hn.ne'
  have h2 : (den : ℚ) ≤ 2 ^ (den.log2 + 1) := by exact_mod_cast Nat.lt_log2_self.le
  calc ((2 : ℕ) : ℚ) ^ ((num.log2 : Int) - den.log2 - 1) * den
      ≤ 2 ^ ((num.log2 : Int) - den.log2 - 1) * 2 ^ (den.log2 + 1) := by
        push_cast
        exact mul_le_mul_of_nonneg_left h2 (zpow_nonneg (by norm_num) _)
    _ = 2 ^ num.log2 := by
        rw [← zpow_natCast 2 (den.log2 + 1), ← zpow_natCast 2 num.log2, ← zpow_add₀ two_ne_zero]
        congr 1
        push_cast
        omega
    _ ≤ num := h1

theorem log_div_lt {num den : Nat} (hn : 0 < num) (hd : 0 < den) :
    Int.log 2 ((num : ℚ) / den) < (num.log2 : Int) - den.log2 + 1 := by
  have hd' : (0 : ℚ) < den := by exact_mod_cast hd
  have hn' : (0 : ℚ) < num := by exact_mod_cast hn
  rw [← Int.lt_zpow_iff_log_lt (by decide) (div_pos hn' hd'), div_lt_iff₀ hd']
  have h1 : (num : ℚ) < 2 ^ (num.log2 + 1) := by exact_mod_cast Nat.lt_log2_self
  have h2 : (2 : ℚ) ^ den.log2 ≤ den := by exact_mod_cast Nat.log2_self_le hd.ne'
  calc (num : ℚ) < 2 ^ (num.log2 + 1) := h1
    _ = 2 ^ ((num.log2 : Int) - den.log2 + 1) * 2 ^ den.log2 := by
        rw [← zpow_natCast 2 (num.log2 + 1), ← zpow_natCast 2 den.log2, ← zpow_add₀ two_ne_zero]
        congr 1
        push_cast
        omega
    _ ≤ ((2 : ℕ) : ℚ) ^ ((num.log2 : Int) - den.log2 + 1) * den := by
        push_cast
        exact mul_le_mul_of_nonneg_left h2 (zpow_nonneg (by norm_num) _)

/-- **The largest power of two below a quotient** is found from the lengths of its parts: the one that
they give, or the one before it. -/
theorem binaryOrder_eq_log {num den : Nat} (hn : 0 < num) (hd : 0 < den) :
    binaryOrder num den = Int.log 2 ((num : ℚ) / den) := by
  have hq : (0 : ℚ) < (num : ℚ) / den := div_pos (by exact_mod_cast hn) (by exact_mod_cast hd)
  have lower := le_log_div hn hd
  have upper := log_div_lt hn hd
  have exact := powLe_iff (by decide : 0 < 2) ((num.log2 : Int) - den.log2) num hd
  rw [Int.zpow_le_iff_le_log (by decide) hq] at exact
  simp only [binaryOrder]
  split
  · next h => have := exact.1 h; omega
  · next h => have := mt exact.2 h; omega

namespace Double

/-! ## Other ways to write a number -/

theorem nearestMagnitude_mul {num den c : Nat} (hn : 0 < num) (hd : 0 < den) (hc : 0 < c) :
    nearestMagnitude (num * c) (den * c) = nearestMagnitude num den := by
  have hc' : (c : ℚ) ≠ 0 := by exact_mod_cast hc.ne'
  have order : binaryOrder (num * c) (den * c) = binaryOrder num den := by
    rw [binaryOrder_eq_log (Nat.mul_pos hn hc) (Nat.mul_pos hd hc), binaryOrder_eq_log hn hd]
    push_cast
    rw [mul_div_mul_right _ _ hc']
  simp only [nearestMagnitude, order, Nat.mul_right_comm _ c, roundHalfEven_mul _ _ hc]

theorem decimalLength_mul_ten {n : Nat} (hn : 0 < n) : decimalLength (n * 10) = decimalLength n + 1 := by
  rw [decimalLength, Nat.toDigits_of_base_le (by decide) (by omega), List.length_append,
    Nat.mul_div_cancel _ (by decide)]
  rfl

theorem nearestDecimal_mul_ten {n : Nat} (hn : 0 < n) (e : Int) :
    nearestDecimal (n * 10) (e - 1) = nearestDecimal n e := by
  have hlen : (decimalLength (n * 10) : Int) + (e - 1) = decimalLength n + e := by
    rw [decimalLength_mul_ten hn]
    push_cast
    omega
  have hzero : n * 10 = 0 ↔ n = 0 := by omega
  simp only [nearestDecimal, hlen, hzero, Nat.pow_eq]
  congr 2
  obtain he | rfl | he : 1 ≤ e ∨ e = 0 ∨ e < 0 := by omega
  · rw [if_pos (by omega), if_pos (by omega), show e.toNat = (e - 1).toNat + 1 by omega, pow_succ',
      mul_assoc]
  · have := nearestMagnitude_mul hn one_pos (c := 10) (by decide)
    simpa using this
  · rw [if_neg (by omega), if_neg (by omega), show (-(e - 1)).toNat = (-e).toNat + 1 by omega,
      pow_succ, nearestMagnitude_mul hn (Nat.pow_pos (by decide)) (by decide)]

/-- **Zeros at the end of the digits** can be moved into the power of ten. -/
theorem nearestDecimal_mul_pow {n : Nat} (hn : 0 < n) (k : Nat) (e : Int) :
    nearestDecimal (n * 10 ^ k) (e - k) = nearestDecimal n e := by
  induction k with
  | zero => simp
  | succ k ih =>
    have next : e - (k + 1 : Nat) = e - k - 1 := by
      push_cast
      omega
    rw [next, pow_succ, ← mul_assoc, nearestDecimal_mul_ten (by positivity), ih]

theorem decimalLength_le_iff {n k : Nat} (hk : 0 < k) : decimalLength n ≤ k ↔ n < 10 ^ k :=
  Nat.length_toDigits_le_iff (by decide) hk

/-! ## Significand and exponent -/

variable (x : Double)

theorem exponent_eq : x.exponent = (max (x.magnitude / 2 ^ 52) 1 : Nat) - 1075 := rfl

theorem le_exponent : -1074 ≤ x.exponent := by
  rw [exponent_eq]
  omega

theorem exponent_le : x.exponent ≤ 971 := by
  have := x.isFinite
  rw [Nat.pow_eq] at this
  rw [exponent_eq]
  omega

theorem significand_lt : x.significand < 2 ^ 53 := by
  rw [significand, Nat.pow_eq]
  split <;> omega

/-- The order number of a magnitude counts the significands below it. -/
theorem magnitude_eq : (x.exponent + 1074).toNat * 2 ^ 52 + x.significand = x.magnitude := by
  rw [exponent_eq, significand, Nat.pow_eq]
  split <;> omega

/-- A significand that does not use all its bits belongs to the smallest exponent. -/
theorem exponent_eq_of_lt (h : x.significand < 2 ^ 52) : x.exponent = -1074 := by
  rw [significand, Nat.pow_eq] at h
  rw [exponent_eq]
  split at h <;> omega

theorem significand_pos (hx : x.magnitude ≠ 0) : 0 < x.significand := by
  rw [significand, Nat.pow_eq]
  split <;> omega

theorem ratio_pos (hx : x.magnitude ≠ 0) : 0 < x.ratio.1 ∧ 0 < x.ratio.2 := by
  have := x.significand_pos hx
  rw [ratio]
  split
  · exact ⟨Nat.mul_pos this (Nat.pow_pos (by decide)), one_pos⟩
  · exact ⟨this, Nat.pow_pos (by decide)⟩

theorem ratio_eq : (x.ratio.1 : ℚ) / x.ratio.2 = x.significand * 2 ^ x.exponent := by
  rw [ratio]
  split
  · next h =>
    obtain ⟨n, hn⟩ := Int.eq_ofNat_of_zero_le h
    simp [hn]
  · next h =>
    obtain ⟨n, hn⟩ := Int.eq_ofNat_of_zero_le (show 0 ≤ -x.exponent by omega)
    have : x.exponent = -(n : Int) := by omega
    simp [this, div_eq_mul_inv]

theorem log_ratio (hx : x.magnitude ≠ 0) :
    Int.log 2 ((x.ratio.1 : ℚ) / x.ratio.2) = Nat.log 2 x.significand + x.exponent := by
  have hpos : (0 : ℚ) < x.significand := by exact_mod_cast x.significand_pos hx
  have hq : (0 : ℚ) < x.significand * 2 ^ x.exponent := mul_pos hpos (zpow_pos (by norm_num) _)
  have two : (1 : Nat) < 2 := by decide
  have h1 : (2 : ℚ) ^ Nat.log 2 x.significand ≤ x.significand := by
    exact_mod_cast Nat.pow_log_le_self 2 (x.significand_pos hx).ne'
  have h2 : (x.significand : ℚ) < 2 ^ (Nat.log 2 x.significand + 1) := by
    exact_mod_cast Nat.lt_pow_succ_log_self two _
  rw [ratio_eq]
  refine le_antisymm ?_ ?_
  · rw [← Int.lt_add_one_iff, ← Int.lt_zpow_iff_log_lt two hq]
    push_cast
    rw [add_right_comm, zpow_add₀ two_ne_zero]
    exact mul_lt_mul_of_pos_right (by exact_mod_cast h2) (zpow_pos (by norm_num) _)
  · rw [← Int.zpow_le_iff_le_log two hq]
    push_cast
    rw [zpow_add₀ two_ne_zero]
    exact mul_le_mul_of_nonneg_right (by exact_mod_cast h1) (zpow_nonneg (by norm_num) _)

/-- **A double is nearest to itself.** -/
theorem nearestMagnitude_ratio (hx : x.magnitude ≠ 0) :
    nearestMagnitude x.ratio.1 x.ratio.2 = x.magnitude := by
  obtain ⟨hn, hd⟩ := x.ratio_pos hx
  have hlog : Nat.log 2 x.significand < 53 := Nat.log_lt_of_lt_pow (x.significand_pos hx).ne' x.significand_lt
  have hq : max (binaryOrder x.ratio.1 x.ratio.2 - 52) (-1074) = x.exponent := by
    rw [binaryOrder_eq_log hn hd, log_ratio x hx]
    have := x.le_exponent
    by_cases h : x.significand < 2 ^ 52
    · have := Nat.log_lt_of_lt_pow (x.significand_pos hx).ne' h
      have := x.exponent_eq_of_lt h
      omega
    · have : 52 ≤ Nat.log 2 x.significand := Nat.le_log_of_pow_le (by decide) (by omega)
      omega
  simp only [nearestMagnitude, hq]
  rw [Nat.pow_eq, Nat.pow_eq, Nat.pow_eq]
  conv_rhs => rw [← x.magnitude_eq]
  congr 1
  rw [ratio]
  split
  · rw [Nat.pow_eq, one_mul, roundHalfEven_mul_self _ (Nat.pow_pos (by decide))]
  · rw [Nat.pow_eq, roundHalfEven_mul_self _ (Nat.pow_pos (by decide))]

/-! ## Decimals of a double -/

/-- Between the bounds that are decided by length alone, the quotient decides. -/
theorem nearestDecimal_of_bounds {n : Nat} {e : Int} (hn : 0 < n)
    (low : -330 ≤ decimalLength n + e) (high : decimalLength n + e ≤ 310) :
    nearestDecimal n e =
      if 0 ≤ e then nearestMagnitude (n * 10 ^ e.toNat) 1
      else nearestMagnitude n (10 ^ (-e).toNat) := by
  rw [nearestDecimal, if_neg (by omega), if_neg (by omega)]
  rfl

theorem exact_pos (hx : x.magnitude ≠ 0) : 0 < x.exact.1 := by
  rw [exact]
  split <;> exact Nat.mul_pos (x.significand_pos hx) (Nat.pow_pos (by decide))

/-- The exact decimal of a double is no longer than the largest decimals that are looked at. -/
theorem exact_le : decimalLength x.exact.1 + x.exact.2 ≤ 310 := by
  have hhigh := x.exponent_le
  rw [exact]
  split
  · next h =>
    have small : x.significand * 2 ^ x.exponent.toNat < 10 ^ 310 :=
      calc x.significand * 2 ^ x.exponent.toNat
          ≤ 2 ^ 53 * 2 ^ 971 := Nat.mul_le_mul x.significand_lt.le
            (Nat.pow_le_pow_right (by decide) (by omega))
        _ < 10 ^ 310 := by decide +kernel
    have := (decimalLength_le_iff (by decide)).2 small
    simp only [Nat.pow_eq]
    omega
  · next h =>
    have small : x.significand * 5 ^ (-x.exponent).toNat < 10 ^ (310 + (-x.exponent).toNat) :=
      calc x.significand * 5 ^ (-x.exponent).toNat
          ≤ 2 ^ 53 * 10 ^ (-x.exponent).toNat :=
            Nat.mul_le_mul x.significand_lt.le (Nat.pow_le_pow_left (by decide) _)
        _ < 10 ^ 310 * 10 ^ (-x.exponent).toNat :=
            Nat.mul_lt_mul_of_pos_right (by decide +kernel) (Nat.pow_pos (by decide))
        _ = 10 ^ (310 + (-x.exponent).toNat) := (pow_add _ _ _).symm
    have := (decimalLength_le_iff (by omega)).2 small
    simp only [Nat.pow_eq]
    omega

theorem le_exact (hx : x.magnitude ≠ 0) : -330 ≤ decimalLength x.exact.1 + x.exact.2 := by
  have hlow := x.le_exponent
  have hs := x.significand_pos hx
  rw [exact]
  split
  · next h => omega
  · next h =>
    obtain ⟨n, hn⟩ := Int.eq_ofNat_of_zero_le (show 0 ≤ -x.exponent by omega)
    have large : 325 < n → n - 325 < decimalLength (x.significand * 5 ^ n) := by
      intro hn
      refine not_le.1 fun hle => not_lt.2 ?_ ((decimalLength_le_iff (by omega)).1 hle)
      calc 10 ^ (n - 325) = 2 ^ (n - 325) * 5 ^ (n - 325) := Nat.mul_pow 2 5 _
        _ ≤ 5 ^ 325 * 5 ^ (n - 325) := Nat.mul_le_mul_right _
            ((Nat.pow_le_pow_right (by decide) (by omega : n - 325 ≤ 749)).trans (by decide +kernel))
        _ = 5 ^ n := by rw [← pow_add, Nat.add_sub_cancel' hn.le]
        _ ≤ x.significand * 5 ^ n := Nat.le_mul_of_pos_left _ hs
    simp only [Nat.pow_eq, hn, Int.toNat_natCast]
    omega

/-- **The exact decimal of a double reads back to it.** -/
theorem nearestDecimal_exact (hx : x.magnitude ≠ 0) :
    nearestDecimal x.exact.1 x.exact.2 = x.magnitude := by
  have self := nearestMagnitude_ratio x hx
  rw [nearestDecimal_of_bounds (x.exact_pos hx) (x.le_exact hx) x.exact_le]
  rw [ratio] at self
  rw [exact]
  split at self
  · next h =>
    rw [if_pos h]
    simpa using self
  · next h =>
    -- the power of two below is put over a power of ten by the powers of five above
    have tens : 10 ^ (-x.exponent).toNat = 2 ^ (-x.exponent).toNat * 5 ^ (-x.exponent).toNat :=
      Nat.mul_pow 2 5 _
    rw [Nat.pow_eq] at self
    rw [if_neg h, if_neg h, Nat.pow_eq, tens, nearestMagnitude_mul (x.significand_pos hx)
      (Nat.pow_pos (by decide)) (Nat.pow_pos (by decide)), self]

theorem readsBack_iff {digits : Nat} {e : Int} :
    x.readsBack digits e = true ↔ nearestDecimal digits e = x.magnitude := decide_eq_true_iff

theorem readsBack_of_neighbour? {e : Int} {digits : Nat} (h : x.neighbour? e = some digits) :
    nearestDecimal digits e = x.magnitude := by
  rw [← readsBack_iff]
  unfold neighbour? at h
  simp only at h
  split at h
  · next hlow hhigh =>
    rw [Option.some.injEq] at h
    rcases roundHalfEven_cases (inUnits x.ratio.1 x.ratio.2 e).1 (inUnits x.ratio.1 x.ratio.2 e).2
      with hr | hr
    · rw [← h, hr, hlow]
    · rw [← h, hr, hhigh]
  · next hlow _ => exact Option.some.inj h ▸ hlow
  · next _ hhigh => exact Option.some.inj h ▸ hhigh
  · cases h

/-- **The digits that a double prints with read back to it.** -/
theorem nearestDecimal_shortest (hx : x.magnitude ≠ 0) :
    nearestDecimal x.shortest.1 x.shortest.2 = x.magnitude := by
  rw [shortest]
  cases h : (List.range' 1 17).findSome? x.withDigits? with
  | none => exact x.nearestDecimal_exact hx
  | some p =>
    obtain ⟨count, -, hc⟩ := List.exists_of_findSome?_eq_some h
    obtain ⟨digits, hd, rfl⟩ := Option.map_eq_some_iff.1 hc
    exact x.readsBack_of_neighbour? hd

end Double

end ReleaseControl
