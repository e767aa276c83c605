import ReleaseControl.Proofs.Json.Keys
import ReleaseControl.Proofs.Number.Literal

/-!
# Reading what is written

* `Reads`: what so much fuel gives back; `Reads.array_succ`, `Reads.object_succ`, `Reads.value_succ`,
  `Reads.items_succ` and `Reads.entries_succ` are one step of the reader each.
* **`read?_text`**: the text of a value reads back.
-/

namespace ReleaseControl

namespace Json

variable {rest : List Char}

/-! ## String literals -/

theorem hexUnit?_hexDigit : ∀ n < 32, hexUnit? '0' '0' (hexDigit (n / 16)) (hexDigit n) = some n := by
  decide

theorem takeChar?_escapeChar (c : Char) (rest : List Char) :
    takeChar? (escapeChar c ++ rest) = some (c, rest) := by
  unfold escapeChar
  split
  iterate 7 rfl
  next hquote hback _ _ _ _ _ =>
    split
    · next control =>
      have low : ¬ (0xD800 ≤ c.toNat ∧ c.toNat < 0xDC00) := by omega
      have high : ¬ (0xDC00 ≤ c.toNat ∧ c.toNat < 0xE000) := by omega
      simp only [List.cons_append, List.nil_append, takeChar?, hexUnit?_hexDigit c.toNat control,
        Option.bind_eq_bind, Option.bind_some, unitChar?, if_neg low, if_neg high, Char.ofNat_toNat]
    · next control =>
      have plain : ¬ (c.toNat < 0x20 ∨ c = '"' ∨ c = '\\') := by
        rw [not_or, not_or]
        exact ⟨control, hquote, hback⟩
      rw [List.singleton_append]
      unfold takeChar?
      split
      · next heq => exact absurd (List.cons.inj heq).1 hback
      · next heq => exact absurd (List.cons.inj heq).1 hback
      · next heq =>
        cases heq
        exact if_neg plain
      · next heq => cases heq

theorem escapeChar_append_ne (c : Char) (rest s : List Char) : escapeChar c ++ rest ≠ '"' :: s := by
  unfold escapeChar
  split
  iterate 7 exact fun h => absurd (List.cons.inj h).1 (by decide)
  next hquote _ _ _ _ _ _ =>
    split
    · exact fun h => absurd (List.cons.inj h).1 (by decide)
    · exact fun h => hquote (List.cons.inj h).1

theorem takeString?_escapeChar (c : Char) (rest : List Char) :
    takeString? (escapeChar c ++ rest) = (takeString? rest).map fun (cs, rest) => (c :: cs, rest) := by
  have char := takeChar?_escapeChar c rest
  rw [takeString?.eq_2 _ (fun s => escapeChar_append_ne c rest s)]
  split
  · next h =>
    rw [char] at h
    cases h
    rfl
  · next h => cases char.symm.trans h

theorem takeString?_flatMap (cs rest : List Char) :
    takeString? (cs.flatMap escapeChar ++ '"' :: rest) = some (cs, rest) := by
  induction cs with
  | nil => rw [List.flatMap_nil, List.nil_append, takeString?]
  | cons c cs ih =>
    rw [List.flatMap_cons, List.append_assoc, takeString?_escapeChar, ih]
    rfl

theorem quoteChars_append (s : String) (rest : List Char) :
    quoteChars s ++ rest = '"' :: (s.toList.flatMap escapeChar ++ '"' :: rest) := by
  rw [quoteChars, List.cons_append, List.append_assoc, List.singleton_append]

/-! ## Values -/

theorem skipSpace_cons {c : Char} (h : c ≠ ' ' ∧ c ≠ '\t' ∧ c ≠ '\n' ∧ c ≠ '\r') (s : List Char) :
    skipSpace (c :: s) = c :: s :=
  List.dropWhile_cons_of_neg (by simpa [not_or, and_assoc] using h)

/-- How a value may begin. -/
def Begins (c : Char) : Prop :=
  (c = '-' ∨ c.isDigit) ∨ c = 'n' ∨ c = 't' ∨ c = 'f' ∨ c = '"' ∨ c = '[' ∨ c = '{'

theorem exists_chars_cons (v : Json) : ∃ c s, v.chars = c :: s ∧ Begins c := by
  cases v with
  | null => exact ⟨'n', _, rfl, by simp [Begins]⟩
  | bool b => cases b <;> exact ⟨_, _, rfl, by simp [Begins]⟩
  | int n =>
    obtain ⟨c, s, h, hc⟩ := exists_intChars_cons n.value
    exact ⟨c, s, h, .inl hc⟩
  | double x =>
    obtain ⟨c, s, h, hc⟩ := exists_double_cons x
    exact ⟨c, s, h, .inl hc⟩
  | str s => exact ⟨'"', _, rfl, by simp [Begins]⟩
  | arr items => exact ⟨'[', _, rfl, by simp [Begins]⟩
  | obj entries => exact ⟨'{', _, rfl, by simp [Begins]⟩

theorem Begins.ne {c : Char} (h : Begins c) :
    c ≠ ' ' ∧ c ≠ '\t' ∧ c ≠ '\n' ∧ c ≠ '\r' ∧ c ≠ ']' := by
  refine ⟨?_, ?_, ?_, ?_, ?_⟩ <;> rintro rfl <;> revert h <;> unfold Begins <;> decide

theorem takeValue?_number {c : Char} (hc : c = '-' ∨ c.isDigit) (fuel : Nat) (s : List Char) :
    takeValue? (fuel + 1) (c :: s) = takeNumber? (c :: s) := by
  have begins : Begins c := .inl hc
  have other : c ≠ 'n' ∧ c ≠ 't' ∧ c ≠ 'f' ∧ c ≠ '"' ∧ c ≠ '[' ∧ c ≠ '{' := by
    refine ⟨?_, ?_, ?_, ?_, ?_, ?_⟩ <;> rintro rfl <;> revert hc <;> decide
  obtain ⟨h1, h2, h3, h4, -⟩ := begins.ne
  rw [takeValue?, skipSpace_cons ⟨h1, h2, h3, h4⟩]
  split
  · next heq => exact absurd (List.cons.inj heq).1 other.1
  · next heq => exact absurd (List.cons.inj heq).1 other.2.1
  · next heq => exact absurd (List.cons.inj heq).1 other.2.2.1
  · next heq => exact absurd (List.cons.inj heq).1 other.2.2.2.1
  · next heq => exact absurd (List.cons.inj heq).1 other.2.2.2.2.1
  · next heq => exact absurd (List.cons.inj heq).1 other.2.2.2.2.2
  · rfl

theorem endsNumber_cons {c : Char} (h : c.isDigit = false ∧ c ≠ '.' ∧ c ≠ 'e' ∧ c ≠ 'E')
    (s : List Char) : EndsNumber (c :: s) := fun _ hd => Option.some.inj hd ▸ h

theorem endsNumber_comma (s : List Char) : EndsNumber (',' :: s) := endsNumber_cons (by decide) s

theorem endsNumber_bracket (s : List Char) : EndsNumber (']' :: s) := endsNumber_cons (by decide) s

theorem endsNumber_brace (s : List Char) : EndsNumber ('}' :: s) := endsNumber_cons (by decide) s

/-! ### One step of the reader -/

/-- With so much fuel the reader gives back every value whose text is no longer than that, and so for
the items of arrays and the entries of objects up to their closing brackets. -/
structure Reads (fuel : Nat) : Prop where
  value : ∀ (v : Json) (rest : List Char), v.chars.length ≤ fuel → EndsNumber rest →
    takeValue? fuel (v.chars ++ rest) = some (v, rest)
  items : ∀ (items : List Json) (rest : List Char), items ≠ [] →
    (itemsChars items).length ≤ fuel →
      takeItems? fuel (itemsChars items ++ rest) = some (items, rest)
  entries : ∀ (entries : List (String × Json)) (rest : List Char), entries ≠ [] →
    (entriesChars entries).length ≤ fuel →
      takeEntries? fuel (entriesChars entries ++ rest) = some (entries, rest)

theorem itemsChars_cons (v : Json) (items : List Json) :
    itemsChars (v :: items) = v.chars ++ (if items = [] then [']'] else ',' :: itemsChars items) := by
  cases items <;> simp [itemsChars]

theorem entriesChars_cons (k : String) (v : Json) (entries : List (String × Json)) :
    entriesChars ((k, v) :: entries) = quoteChars k ++
      ':' :: (v.chars ++ (if entries = [] then ['}'] else ',' :: entriesChars entries)) := by
  cases entries <;> simp [entriesChars]

theorem length_chars_pos (v : Json) : 0 < v.chars.length := by
  obtain ⟨c, s, h, -⟩ := exists_chars_cons v
  rw [h]
  exact Nat.succ_pos _

theorem reads_zero : Reads 0 where
  value v _ h := absurd h (by have := length_chars_pos v; omega)
  items items _ hne h := by
    obtain ⟨v, items, rfl⟩ := List.exists_cons_of_ne_nil hne
    rw [itemsChars_cons, List.length_append] at h
    exact absurd h (by have := length_chars_pos v; omega)
  entries entries _ hne h := by
    obtain ⟨⟨k, v⟩, entries, rfl⟩ := List.exists_cons_of_ne_nil hne
    rw [entriesChars_cons, quoteChars] at h
    exact absurd h (by simp)

variable {fuel : Nat}

theorem Reads.array_succ (ih : Reads fuel) (items : List Json) (rest : List Char)
    (hf : (arr items).chars.length ≤ fuel + 1) :
    takeValue? (fuel + 1) ((arr items).chars ++ rest) = some (.arr items, rest) := by
  rw [chars, List.cons_append, takeValue?, skipSpace_cons (by decide)]
  cases items with
  | nil => rfl
  | cons v items =>
    have read := ih.items (v :: items) rest (List.cons_ne_nil _ _) (by simpa [chars] using hf)
    -- no item begins with the bracket that closes the array
    obtain ⟨c, s, hc, begins⟩ := exists_chars_cons v
    obtain ⟨h1, h2, h3, h4, h5⟩ := begins.ne
    rw [itemsChars_cons, hc, List.cons_append, List.cons_append] at read ⊢
    simp only [skipSpace_cons ⟨h1, h2, h3, h4⟩]
    split
    · next heq => exact absurd (List.cons.inj heq).1 h5
    · rw [read]
      rfl

theorem Reads.object_succ (ih : Reads fuel) (entries : List (String × Json)) (rest : List Char)
    (hf : (obj entries).chars.length ≤ fuel + 1) :
    takeValue? (fuel + 1) ((obj entries).chars ++ rest) = some (.obj entries, rest) := by
  rw [chars, List.cons_append, takeValue?, skipSpace_cons (by decide)]
  cases entries with
  | nil => rfl
  | cons e entries =>
    obtain ⟨k, v⟩ := e
    have read := ih.entries ((k, v) :: entries) rest (List.cons_ne_nil _ _)
      (by simpa [chars] using hf)
    rw [entriesChars_cons, List.append_assoc, quoteChars_append] at read ⊢
    simp only [skipSpace_cons (c := '"') (by decide)]
    split
    · next heq => exact absurd (List.cons.inj heq).1 (by decide)
    · rw [read]
      rfl

theorem Reads.value_succ (ih : Reads fuel) (v : Json) (rest : List Char)
    (hf : v.chars.length ≤ fuel + 1) (hr : EndsNumber rest) :
    takeValue? (fuel + 1) (v.chars ++ rest) = some (v, rest) := by
  cases v with
  | null =>
    rw [chars, takeValue?]
    rfl
  | bool b =>
    cases b <;> rw [chars, takeValue?] <;> rfl
  | int n =>
    obtain ⟨c, s, hc, hd⟩ := exists_intChars_cons n.value
    rw [chars, ← takeNumber?_intChars n hr, hc]
    exact takeValue?_number hd _ _
  | double x =>
    obtain ⟨c, s, hc, hd⟩ := exists_double_cons x
    rw [chars, ← takeNumber?_double x hr, hc]
    exact takeValue?_number hd _ _
  | str s =>
    rw [chars, quoteChars_append, takeValue?, skipSpace_cons (by decide)]
    simp only [takeString?_flatMap, Option.map_some, String.ofList_toList]
  | arr items => exact ih.array_succ items rest hf
  | obj entries => exact ih.object_succ entries rest hf

theorem Reads.items_succ (ih : Reads fuel) (items : List Json) (rest : List Char) (hne : items ≠ [])
    (hf : (itemsChars items).length ≤ fuel + 1) :
    takeItems? (fuel + 1) (itemsChars items ++ rest) = some (items, rest) := by
  obtain ⟨v, items, rfl⟩ := List.exists_cons_of_ne_nil hne
  rw [itemsChars_cons, List.length_append] at hf
  rw [itemsChars_cons, List.append_assoc, takeItems?]
  split at hf
  · next last =>
    rw [last, if_pos rfl, List.singleton_append,
      ih.value v _ (by simpa using hf) (endsNumber_bracket _)]
    simp only [Option.bind_eq_bind, Option.bind_some, skipSpace_cons (c := ']') (by decide)]
    rfl
  · next more =>
    have others := ih.items items rest more
      (by simp only [List.length_cons] at hf; have := length_chars_pos v; omega)
    rw [if_neg more, List.cons_append,
      ih.value v _ (by simp only [List.length_cons] at hf; omega) (endsNumber_comma _)]
    simp only [Option.bind_eq_bind, Option.bind_some, skipSpace_cons (c := ',') (by decide), others]
    rfl

theorem Reads.entries_succ (ih : Reads fuel) (entries : List (String × Json)) (rest : List Char)
    (hne : entries ≠ [])
    (hf : (entriesChars entries).length ≤ fuel + 1) :
    takeEntries? (fuel + 1) (entriesChars entries ++ rest) = some (entries, rest) := by
  obtain ⟨⟨k, v⟩, entries, rfl⟩ := List.exists_cons_of_ne_nil hne
  rw [entriesChars_cons] at hf
  simp only [quoteChars, List.length_append, List.length_cons] at hf
  rw [entriesChars_cons, List.append_assoc, quoteChars_append, takeEntries?,
    skipSpace_cons (by decide)]
  simp only [takeString?_flatMap, Option.bind_eq_bind, Option.bind_some, List.cons_append,
    skipSpace_cons (c := ':') (by decide), List.append_assoc, String.ofList_toList]
  split at hf
  · next last =>
    rw [last, if_pos rfl, List.singleton_append,
      ih.value v _ (by omega) (endsNumber_brace _)]
    simp only [Option.bind_some, skipSpace_cons (c := '}') (by decide)]
    rfl
  · next more =>
    rw [List.length_cons] at hf
    have others := ih.entries entries rest more (by omega)
    rw [if_neg more, List.cons_append, ih.value v _ (by omega) (endsNumber_comma _)]
    simp only [Option.bind_some, skipSpace_cons (c := ',') (by decide), others]
    rfl

/-- **The reader gives back what is written**, however deep it is nested: every level and every item
uses up a unit of fuel and at least one character. -/
theorem reads (fuel : Nat) : Reads fuel := by
  induction fuel with
  | zero => exact reads_zero
  | succ fuel ih => exact ⟨ih.value_succ, ih.items_succ, ih.entries_succ⟩

/-- **The text of a value reads back.** -/
theorem read?_text (v : Json) : read? v.text = some v := by
  have read := (reads (2 * v.chars.length + 2)).value v [] (by omega) endsNumber_nil
  rw [List.append_nil] at read
  rw [read?, text, String.toList_ofList]
  simp only [read]
  rfl

end Json

end ReleaseControl
