import Mathlib.Data.List.Induction
import Mathlib.Data.List.Perm.Basic
import ReleaseControl.Table

/-!
# Sorted entries

* **`perm_sortEntries`**: sorting distinct keys reorders the entries.
* **`sortEntries_eq_iff`**: the sorted entries do not depend on the order from before.
* **`lookup_sortEntries`**: sorting keeps the last of several entries of one key.
-/

namespace ReleaseControl

variable {α β : Type} {l m : List (String × α)}

def DistinctKeys (entries : List (String × α)) : Prop := (entries.map Prod.fst).Nodup

theorem DistinctKeys.perm (h : l.Perm m) (hl : DistinctKeys l) : DistinctKeys m :=
  (h.map Prod.fst).nodup_iff.1 hl

theorem SortedByKey.distinctKeys (h : SortedByKey l) : DistinctKeys l := by
  rw [DistinctKeys, List.Nodup, List.pairwise_map]
  refine h.imp fun {a b} hlt (heq : a.1 = b.1) => ?_
  rw [heq] at hlt
  exact String.lt_irrefl _ hlt

/-- Entries with other values under the same keys. -/
def mapValues (f : α → β) (entries : List (String × α)) : List (String × β) :=
  entries.map fun (k, v) => (k, f v)

theorem mapValues_eq_self {f : α → α} (h : ∀ e ∈ l, f e.2 = e.2) : mapValues f l = l := by
  refine (List.map_congr_left fun e he => ?_).trans (List.map_id l)
  exact Prod.ext rfl (h e he)

theorem keys_mapValues (f : α → β) (l : List (String × α)) :
    (mapValues f l).map Prod.fst = l.map Prod.fst := by
  rw [mapValues, List.map_map]
  rfl

theorem DistinctKeys.mapValues (hl : DistinctKeys l) (f : α → β) : DistinctKeys (mapValues f l) := by
  rw [DistinctKeys, keys_mapValues]
  exact hl

theorem exists_perm_of_perm_map {f : α → β} {l : List β} {m : List α} (h : l.Perm (m.map f)) :
    ∃ k : List α, k.Perm m ∧ k.map f = l := by
  have comp := congrFun (congrFun (List.eq_map_comp_perm f) l) m
  obtain ⟨k, hk, perm⟩ := comp.mpr h
  exact ⟨k, perm, hk.symm⟩

/-! ## Sorting -/

theorem perm_insertEntry {key : String} {value : α} (h : key ∉ l.map Prod.fst) :
    (insertEntry key value l).Perm ((key, value) :: l) := by
  induction l with
  | nil => exact .refl _
  | cons e l ih =>
    obtain ⟨k, v⟩ := e
    rw [List.map_cons, List.mem_cons, not_or] at h
    rw [insertEntry, if_neg h.1]
    split
    · exact .refl _
    · exact ((ih h.2).cons _).trans (.swap _ _ _)

theorem sortEntries_concat (l : List (String × α)) (e : String × α) :
    sortEntries (l ++ [e]) = insertEntry e.1 e.2 (sortEntries l) := by
  rw [sortEntries, List.foldl_append]
  rfl

theorem insertEntry_ne_nil (key : String) (value : α) (l : List (String × α)) :
    insertEntry key value l ≠ [] := by
  unfold insertEntry
  split
  · exact List.cons_ne_nil _ _
  · split
    · exact List.cons_ne_nil _ _
    · split <;> exact List.cons_ne_nil _ _

theorem sortEntries_eq_nil_iff : sortEntries l = [] ↔ l = [] := by
  refine ⟨fun sorted => ?_, fun empty => by rw [empty]; rfl⟩
  cases l using List.reverseRecOn with
  | nil => rfl
  | append_singleton l e =>
    rw [sortEntries_concat] at sorted
    exact absurd sorted (insertEntry_ne_nil _ _ _)

theorem mem_of_mem_sortEntries {e : String × α} (h : e ∈ sortEntries l) : e ∈ l := by
  induction l using List.reverseRecOn with
  | nil => exact h
  | append_singleton l f ih =>
    rw [sortEntries_concat] at h
    rcases mem_insertEntry h with rfl | h
    · exact List.mem_append_right l List.mem_cons_self
    · exact List.mem_append_left _ (ih h)

/-- **Sorting distinct keys reorders the entries.** -/
theorem perm_sortEntries (hl : DistinctKeys l) : (sortEntries l).Perm l := by
  induction l using List.reverseRecOn with
  | nil => exact .refl _
  | append_singleton l e ih =>
    rw [DistinctKeys, List.map_append] at hl
    have hkeys := List.nodup_append.1 hl
    have sorted := ih hkeys.1
    have fresh : e.1 ∉ (sortEntries l).map Prod.fst := fun hm =>
      hkeys.2.2 _ ((sorted.map Prod.fst).mem_iff.1 hm) _ (List.mem_singleton_self _) rfl
    rw [sortEntries_concat]
    exact (perm_insertEntry fresh).trans ((sorted.cons e).trans (List.perm_append_singleton e l).symm)

theorem SortedByKey.eq_of_perm (hl : SortedByKey l) (hm : SortedByKey m) (h : l.Perm m) : l = m :=
  h.eq_of_pairwise (fun _ _ _ _ hab hba => absurd (String.lt_trans hab hba) (String.lt_irrefl _)) hl hm

/-- **Entries with distinct keys sort to the same list just if one is a reordering of the other.** -/
theorem sortEntries_eq_iff (hl : DistinctKeys l) (hm : DistinctKeys m) :
    sortEntries l = sortEntries m ↔ l.Perm m := by
  refine ⟨fun h => (perm_sortEntries hl).symm.trans (h ▸ perm_sortEntries hm), fun h => ?_⟩
  exact (sortedByKey_sortEntries l).eq_of_perm (sortedByKey_sortEntries m)
    ((perm_sortEntries hl).trans (h.trans (perm_sortEntries hm).symm))

theorem sortEntries_of_sorted (h : SortedByKey l) : sortEntries l = l :=
  (sortedByKey_sortEntries l).eq_of_perm h (perm_sortEntries h.distinctKeys)

/-! ## Looking up -/

theorem lookup_eq_some_iff (hl : DistinctKeys l) {key : String} {value : α} :
    l.lookup key = some value ↔ (key, value) ∈ l := by
  induction l with
  | nil => simp
  | cons e l ih =>
    obtain ⟨k, v⟩ := e
    have hkeys := List.nodup_cons.1 hl
    rw [lookup_cons_eq, List.mem_cons, Prod.mk.injEq]
    by_cases h : key = k
    · subst h
      have fresh : (key, value) ∉ l := fun hm =>
        hkeys.1 (List.mem_map.2 ⟨(key, value), hm, rfl⟩)
      rw [if_pos rfl, Option.some.injEq]
      simp [fresh, eq_comm]
    · rw [if_neg h, ih hkeys.2]
      simp [h]

theorem lookup_perm (hl : DistinctKeys l) (h : l.Perm m) (key : String) :
    m.lookup key = l.lookup key := by
  ext value
  rw [lookup_eq_some_iff hl, lookup_eq_some_iff (hl.perm h), h.mem_iff]

/-- **Of several entries of one key the last is kept.** -/
theorem lookup_sortEntries (l : List (String × α)) (key : String) :
    (sortEntries l).lookup key = l.reverse.lookup key := by
  induction l using List.reverseRecOn with
  | nil => rfl
  | append_singleton l e ih =>
    rw [sortEntries_concat, lookup_insertEntry, ih, List.reverse_append, List.reverse_singleton,
      List.singleton_append, lookup_cons_eq]

theorem lookup_mapValues (f : α → β) (l : List (String × α)) (key : String) :
    (mapValues f l).lookup key = (l.lookup key).map f := by
  induction l with
  | nil => rfl
  | cons e l ih =>
    obtain ⟨k, v⟩ := e
    have cons : mapValues f ((k, v) :: l) = (k, f v) :: mapValues f l := rfl
    rw [cons, lookup_cons_eq, lookup_cons_eq, ih]
    split <;> rfl

end ReleaseControl
