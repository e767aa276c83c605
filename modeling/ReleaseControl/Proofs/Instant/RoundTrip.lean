import Mathlib.Data.Nat.Digits.Defs
import ReleaseControl.Instant.Text
import ReleaseControl.Proofs.Number.Digits

/-!
# Time stamps read back

* `takeDigits_padded`: a padded number reads back.
* `takeYear_yearChars`, `takePart_padded`, `takeNano_fractionChars`: so do the parts of a time stamp.
* **`ofText_recordText`**: the text of an instant reads back.
-/

namespace ReleaseControl

namespace Instant

variable {width n : Nat} {rest : List Char}

/-! ## Padded numbers -/

theorem isDigit_of_mem_padded {c : Char} (h : c ∈ padded width n) : c.isDigit := by
  rcases List.mem_append.1 h with h | h
  · rw [List.eq_of_mem_replicate h]
    rfl
  · exact isDigit_of_mem_toDigits h

theorem padded_ne_nil (width n : Nat) : padded width n ≠ [] :=
  List.append_ne_nil_of_right_ne_nil _ Nat.toDigits_ne_nil

@[simp] theorem digitsValue_padded (width n : Nat) : Json.digitsValue (padded width n) = n := by
  rw [padded, Json.digitsValue_zeros_append, Json.digitsValue_toDigits]

theorem length_padded (hw : 0 < width) (h : n < 10 ^ width) : (padded width n).length = width := by
  have := Nat.toDigits_length 10 n width hw h
  rw [padded, List.length_append, List.length_replicate]
  omega

theorem isBlank_of_isDigit {c : Char} (h : c.isDigit) : isBlank c = false := by
  have range : 48 ≤ c.toNat ∧ c.toNat ≤ 57 := by
    simpa [Char.isDigit, UInt32.le_iff_toNat_le] using h
  simp only [isBlank, Bool.or_eq_false_iff, Bool.and_eq_false_iff, decide_eq_false_iff_not,
    beq_eq_false_iff_ne]
  omega

theorem dropBlank_cons {c : Char} (h : isBlank c = false) (rest : List Char) :
    dropBlank (c :: rest) = c :: rest :=
  List.dropWhile_cons_of_neg (by simp [h])

theorem dropBlank_padded : dropBlank (padded width n ++ rest) = padded width n ++ rest := by
  obtain ⟨c, l, h⟩ := List.exists_cons_of_ne_nil (padded_ne_nil width n)
  have digit : c.isDigit := isDigit_of_mem_padded (h ▸ List.mem_cons_self)
  rw [h, List.cons_append, dropBlank_cons (isBlank_of_isDigit digit)]

/-- A padded number reads back if no digit comes next within the width that is read. -/
theorem takeDigits_padded {limit : Nat} (h : n < 0x8000000000000000)
    (fits : (padded width n).length ≤ limit)
    (stops : Json.StopsDigits (rest.take (limit - (padded width n).length))) :
    takeDigits limit (padded width n ++ rest) = .ok (n, rest) := by
  have digits : ((padded width n ++ rest).take limit).takeWhile Char.isDigit = padded width n := by
    rw [List.take_append, List.take_of_length_le fits,
      List.takeWhile_append_of_pos fun _ => isDigit_of_mem_padded, stops.takeWhile, List.append_nil]
  rw [takeDigits]
  simp only [digits, digitsValue_padded]
  rw [if_neg, if_neg, if_neg (by omega), List.drop_left]
  · simpa using padded_ne_nil width n
  · simpa using fun h => absurd h (padded_ne_nil width n)

theorem takeDigits_filled (h : n < 0x8000000000000000) (hw : 0 < width) (hn : n < 10 ^ width)
    (rest : List Char) : takeDigits width (padded width n ++ rest) = .ok (n, rest) :=
  takeDigits_padded h (length_padded hw hn).le (by
    rw [length_padded hw hn, Nat.sub_self, List.take_zero]
    exact Json.stopsDigits_nil)

/-! ## The parts of a time stamp -/

theorem takePart_padded {low high : Nat} (hlow : low ≤ n) (hhigh : n ≤ high) (h : n < 100)
    (rest : List Char) : takePart low high (padded 2 n ++ rest) = .ok (n, rest) := by
  rw [takePart, dropBlank_padded, takeDigits_filled (by omega) (by decide) h]
  exact if_pos ⟨hlow, hhigh⟩

theorem takeMark_cons {mark : Char} (h : isBlank mark = false) (rest : List Char) :
    takeMark mark (mark :: rest) = .ok rest := by
  rw [takeMark, dropBlank_cons h]
  exact if_pos rfl

/-- A year of more or less than four digits has a sign and is read up to its last digit. -/
theorem takeDigits_year (hn : n < 0x8000000000000000) (rest : List Char) :
    takeDigits (padded 4 n ++ '-' :: rest).length (padded 4 n ++ '-' :: rest) =
      .ok (n, '-' :: rest) := by
  refine takeDigits_padded hn (by simp) ?_
  rw [List.length_append, Nat.add_sub_cancel_left, List.take_length]
  exact Json.stopsDigits_cons (by decide) _

theorem takeYear_yearChars {year : Int} (h : firstYear ≤ year ∧ year ≤ lastYear)
    (rest : List Char) : takeYear (yearChars year ++ '-' :: rest) = .ok (year, '-' :: rest) := by
  unfold firstYear lastYear at h
  have inRange : -0x80000000 ≤ year ∧ year < 0x80000000 := by omega
  unfold yearChars
  split
  · next plain =>
    have read : takeDigits 4 (padded 4 year.toNat ++ '-' :: rest) = .ok (year.toNat, '-' :: rest) :=
      takeDigits_filled (by omega) (by decide) (by omega) _
    obtain ⟨c, l, hc⟩ := List.exists_cons_of_ne_nil (padded_ne_nil 4 year.toNat)
    have digit : c.isDigit := isDigit_of_mem_padded (hc ▸ List.mem_cons_self)
    rw [takeYear, dropBlank_padded]
    rw [hc, List.cons_append] at read ⊢
    split
    · next heq => exact absurd digit ((List.cons.inj heq).1 ▸ by decide)
    · next heq => exact absurd digit ((List.cons.inj heq).1 ▸ by decide)
    · simp only [read, Except.map, Int.toNat_of_nonneg plain.1]
      exact if_pos inRange
  · have read := takeDigits_year (n := year.natAbs) (by omega) rest
    split
    · have signed : -(year.natAbs : Int) = year := by omega
      rw [takeYear, List.cons_append, dropBlank_cons (by decide)]
      simp only [read, Except.map, signed]
      exact if_pos inRange
    · have signed : (year.natAbs : Int) = year := by omega
      rw [takeYear, List.cons_append, dropBlank_cons (by decide)]
      simp only [read, Except.map, signed]
      exact if_pos inRange

theorem takeNano_padded (hw : 0 < width ∧ width ≤ 9) (hn : n < 10 ^ width) (rest : List Char) :
    takeNano ('.' :: (padded width n ++ 'Z' :: rest)) = .ok (n * 10 ^ (9 - width), 'Z' :: rest) := by
  have small : n < 10 ^ 9 := hn.trans_le (Nat.pow_le_pow_right (by decide) hw.2)
  have length := length_padded hw.1 hn
  have read : takeDigits 9 (padded width n ++ 'Z' :: rest) = .ok (n, 'Z' :: rest) := by
    refine takeDigits_padded (by omega) (length.trans_le hw.2) ?_
    exact fun c hc => by
      cases h : 9 - (padded width n).length <;> rw [h] at hc <;> simp at hc
      exact hc ▸ by decide
  rw [takeNano]
  simp only [read, bind, Except.bind, List.length_append, length, Nat.add_sub_cancel]
  rfl

theorem takeNano_fractionChars (h : n < 1000000000) (rest : List Char) :
    takeNano (fractionChars n ++ 'Z' :: rest) = .ok (n, 'Z' :: rest) := by
  unfold fractionChars
  split
  · next zero =>
    rw [zero]
    rfl
  split
  · rw [List.cons_append, takeNano_padded (by decide) (by omega)]
    congr
    omega
  split
  · rw [List.cons_append, takeNano_padded (by decide) (by omega)]
    congr
    omega
  · rw [List.cons_append, takeNano_padded (by decide) (by omega), Nat.sub_self, Nat.pow_zero,
      Nat.mul_one]

/-! ## Instants -/

@[simp] theorem part_val {size : Nat} (pos : 0 < size) (x : Fin size) : part pos x.val = x :=
  Fin.ext (Nat.mod_eq_of_lt x.isLt)

theorem ofLocal?_zero (t : Instant) : ofLocal? t 0 = some t := by
  obtain ⟨date, hour, minute, second, nano⟩ := t
  have late : ¬ (1440 : Int) ≤ hour * 60 + minute := by omega
  have early : ¬ (hour * 60 + minute : Int) < 0 := by omega
  have rest : ((hour * 60 + minute : Int) % 1440).toNat = hour * 60 + minute := by omega
  have hours : Fin.ofNat 24 ((hour * 60 + minute : Nat) / 60) = hour := Fin.ext (by simp; omega)
  have minutes : Fin.ofNat 60 (hour * 60 + minute : Nat) = minute := Fin.ext (by simp)
  simp only [ofLocal?, Int.sub_zero, if_neg early, if_neg late, rest, hours, minutes]
  rfl

/-- **The text of an instant reads back.** -/
theorem ofText_recordText (t : Instant) : ofText t.recordText = .ok t := by
  obtain ⟨years, months, days⟩ := t.date.isDate
  have lastDay : t.date.day ≤ 31 :=
    days.2.trans (by unfold daysInMonth; split <;> split <;> omega)
  have month := takePart_padded months.1 months.2 (by omega)
  have day := takePart_padded days.1 lastDay (by omega)
  have hour := takePart_padded (Nat.zero_le t.hour) (Nat.le_of_lt_succ t.hour.isLt) (by omega)
  have minute := takePart_padded (Nat.zero_le t.minute) (Nat.le_of_lt_succ t.minute.isLt) (by omega)
  have second := takePart_padded (Nat.zero_le t.second) (Nat.le_of_lt_succ t.second.isLt) (by omega)
  have dash : ∀ rest, takeMark '-' ('-' :: rest) = .ok rest := takeMark_cons (by decide)
  have colon : ∀ rest, takeMark ':' (':' :: rest) = .ok rest := takeMark_cons (by decide)
  have shown : Date.of? t.date.year t.date.month t.date.day = some t.date := dif_pos t.date.isDate
  have mark (rest : List Char) : takeTimeMark ('T' :: rest) = .ok rest := rfl
  have zone : takeOffset (dropBlank ['Z']) = .ok (0, []) := rfl
  rw [ofText, recordText, String.toList_ofList, secondChars, ofChars]
  simp only [List.append_assoc, List.cons_append, takeYear_yearChars years, bind,
    Except.bind, dash, month, day, mark, hour, colon, minute, second,
    takeNano_fractionChars t.nano.isLt, zone, shown, part_val, ofLocal?_zero]
  rfl

end Instant

end ReleaseControl
