/-!
# Tables

Finite maps, kept as their entries in strictly increasing order of the keys. Two tables with the
same entries are equal. Text is ordered by its code points, which is the order of UTF-8 bytes as
well.

* `KeyOrder`: keys in order.
* `insertEntry`, `sortEntries`: the operations on plain lists of entries.
* `Table.insert`, `Table.erase`, `Table.find?`: the map operations, with **`find?_insert`** and
  **`find?_erase`**.
-/

namespace ReleaseControl

variable {κ α : Type}

theorem lookup_cons_eq [DecidableEq κ] (k key : κ) (value : α) (entries : List (κ × α)) :
    ((key, value) :: entries).lookup k = if k = key then some value else entries.lookup k := by
  by_cases h : k = key
  · simp [h]
  · simp [List.lookup_cons, h, beq_eq_false_iff_ne.2 h]

variable [LT κ]

/-- Any two keys that differ are in order. -/
class KeyOrder (κ : Type) [LT κ] : Prop where
  trans {a b c : κ} : a < b → b < c → a < c
  lt_of_not_lt {a b : κ} : ¬ a < b → a ≠ b → b < a

instance : KeyOrder String where
  trans := Std.lt_trans
  lt_of_not_lt h ne := Std.lt_of_le_of_ne (Std.not_lt.1 h) ne.symm

instance : KeyOrder (List String) where
  trans := Std.lt_trans
  lt_of_not_lt h ne := Std.lt_of_le_of_ne (Std.not_lt.1 h) ne.symm

def SortedByKey (entries : List (κ × α)) : Prop := entries.Pairwise fun a b => a.1 < b.1

instance [DecidableLT κ] (entries : List (κ × α)) : Decidable (SortedByKey entries) := by
  unfold SortedByKey; infer_instance

/-! ## Lists of entries -/

section Entries

variable [DecidableLT κ] [DecidableEq κ]

/-- An entry put into a list of entries sorted by key, in place of one of the same key. -/
def insertEntry (key : κ) (value : α) : List (κ × α) → List (κ × α)
  | [] => [(key, value)]
  | (k, v) :: rest =>
    if key < k then (key, value) :: (k, v) :: rest
    else if key = k then (key, value) :: rest
    else (k, v) :: insertEntry key value rest

/-- The entries sorted by key, the last of several equal keys kept. -/
def sortEntries (entries : List (κ × α)) : List (κ × α) :=
  entries.foldl (fun sorted e => insertEntry e.1 e.2 sorted) []

theorem mem_insertEntry {key : κ} {value : α} {entries : List (κ × α)} {e : κ × α}
    (h : e ∈ insertEntry key value entries) : e = (key, value) ∨ e ∈ entries := by
  induction entries with
  | nil => simpa [insertEntry] using h
  | cons a rest ih =>
    obtain ⟨k, v⟩ := a
    unfold insertEntry at h
    split at h
    · simpa using h
    · split at h
      · rcases List.mem_cons.1 h with h | h
        · exact .inl h
        · exact .inr (List.mem_cons_of_mem _ h)
      · rcases List.mem_cons.1 h with h | h
        · exact .inr (h ▸ List.mem_cons_self)
        · exact (ih h).imp_right (List.mem_cons_of_mem _)

theorem lookup_insertEntry (key k : κ) (value : α) (entries : List (κ × α)) :
    (insertEntry key value entries).lookup k =
      if k = key then some value else entries.lookup k := by
  induction entries with
  | nil => simp [insertEntry, lookup_cons_eq]
  | cons a rest ih =>
    obtain ⟨k', v⟩ := a
    unfold insertEntry
    split
    · simp [lookup_cons_eq]
    · split
      · next eq => subst eq; by_cases h : k = key <;> simp [lookup_cons_eq, h]
      · next ne =>
        by_cases h : k = k'
        · subst h; simp [Ne.symm ne]
        · simp [lookup_cons_eq, h, ih]

variable [KeyOrder κ]

theorem SortedByKey.insertEntry {entries : List (κ × α)} (h : SortedByKey entries) (key : κ)
    (value : α) : SortedByKey (insertEntry key value entries) := by
  induction entries with
  | nil => exact List.pairwise_singleton _ _
  | cons a rest ih =>
    obtain ⟨k, v⟩ := a
    have ⟨hk, hrest⟩ := List.pairwise_cons.1 h
    unfold ReleaseControl.insertEntry
    split
    · next lt =>
      refine List.pairwise_cons.2 ⟨fun e he => ?_, h⟩
      rcases List.mem_cons.1 he with rfl | he
      · exact lt
      · exact KeyOrder.trans lt (hk e he)
    · next notLt =>
      split
      · next eq =>
        subst eq
        exact List.pairwise_cons.2 ⟨hk, hrest⟩
      · next ne =>
        refine List.pairwise_cons.2 ⟨fun e he => ?_, ih hrest⟩
        rcases mem_insertEntry he with rfl | he
        · exact KeyOrder.lt_of_not_lt notLt ne
        · exact hk e he

theorem sortedByKey_sortEntries (entries : List (κ × α)) : SortedByKey (sortEntries entries) := by
  suffices ∀ sorted : List (κ × α), SortedByKey sorted →
      SortedByKey (entries.foldl (fun sorted e => insertEntry e.1 e.2 sorted) sorted) from
    this [] List.Pairwise.nil
  induction entries with
  | nil => exact fun _ h => h
  | cons e rest ih => exact fun sorted h => ih _ (h.insertEntry e.1 e.2)

end Entries

/-! ## Tables -/

/-- A finite map, its entries in strictly increasing order of the keys. -/
structure Table (κ α : Type) [LT κ] where
  entries : List (κ × α)
  sorted : SortedByKey entries

namespace Table

@[ext] theorem ext {s t : Table κ α} (h : s.entries = t.entries) : s = t := by
  cases s; cases t; congr

instance [DecidableEq κ] [DecidableEq α] : DecidableEq (Table κ α) := fun _ _ =>
  decidable_of_iff _ ⟨ext, congrArg entries⟩

def empty : Table κ α := ⟨[], List.Pairwise.nil⟩

instance : Inhabited (Table κ α) := ⟨empty⟩

/-- The values, in the order of their keys. -/
def values (t : Table κ α) : List α := t.entries.map (·.2)

def isEmpty (t : Table κ α) : Bool := t.entries.isEmpty

variable [DecidableEq κ]

def find? (t : Table κ α) (key : κ) : Option α := t.entries.lookup key

def contains (t : Table κ α) (key : κ) : Bool := (t.find? key).isSome

def erase (t : Table κ α) (key : κ) : Table κ α :=
  ⟨t.entries.filter (·.1 ≠ key), t.sorted.filter _⟩

/-- Erasing removes the value of its own key only. -/
theorem find?_erase (t : Table κ α) (key k : κ) :
    (t.erase key).find? k = if k = key then none else t.find? k := by
  suffices ∀ entries : List (κ × α), (entries.filter (·.1 ≠ key)).lookup k =
      if k = key then none else entries.lookup k from this t.entries
  intro entries
  induction entries with
  | nil => simp
  | cons a rest ih =>
    obtain ⟨k', v⟩ := a
    by_cases h' : k' = key
    · rw [List.filter_cons_of_neg (by simpa using h'), ih, lookup_cons_eq]
      subst h'
      by_cases h : k = k' <;> simp [h]
    · rw [List.filter_cons_of_pos (by simpa using h'), lookup_cons_eq, lookup_cons_eq, ih]
      by_cases h : k = key
      · subst h; simp [Ne.symm h']
      · simp [h]

variable [DecidableLT κ] [KeyOrder κ]

/-- The table of a list of entries, the last of several equal keys kept. -/
def ofList (entries : List (κ × α)) : Table κ α :=
  ⟨sortEntries entries, sortedByKey_sortEntries entries⟩

/-- The table with a value put under a key. -/
def insert (t : Table κ α) (key : κ) (value : α) : Table κ α :=
  ⟨insertEntry key value t.entries, t.sorted.insertEntry key value⟩

/-- Inserting changes the value of its own key only. -/
theorem find?_insert (t : Table κ α) (key k : κ) (value : α) :
    (t.insert key value).find? k = if k = key then some value else t.find? k :=
  lookup_insertEntry key k value t.entries

end Table

end ReleaseControl
