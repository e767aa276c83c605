import Mathlib.Data.List.Basic
import Mathlib.Data.List.Induction
import ReleaseControl.Proofs.Storage.Key

/-!
# The last record of each revision

* `lastWritten`: one snapshot for each revision, in the order in which the revisions were first written,
  of the record last written for it.
* **`snapshots_ofReleases`**: an observed set holds that.
* **`mergeInto_nil`**: merged into an empty history it is kept as it is.
-/

namespace ReleaseControl

/-- The snapshots of the last record of each revision, in the order in which the revisions first
occur. -/
def lastWritten (rs : List Release) : History :=
  (rs.map Release.revision).eraseDups.filterMap fun v =>
    (rs.reverse.find? (·.revision = v)).map Release.toSnapshot

/-! ## First occurrences -/

section EraseDups

variable {α : Type} [BEq α] [LawfulBEq α]

theorem eraseDups_concat (l : List α) (a : α) :
    (l ++ [a]).eraseDups = if a ∈ l then l.eraseDups else l.eraseDups ++ [a] := by
  rw [List.eraseDups_append]
  by_cases h : a ∈ l <;> simp [List.removeAll, List.eraseDups_cons, h]

theorem nodup_eraseDups (l : List α) : l.eraseDups.Nodup := by
  induction l using List.reverseRecOn with
  | nil => exact List.nodup_nil
  | append_singleton l a ih =>
    rw [eraseDups_concat]
    split
    · exact ih
    · next h =>
      refine List.nodup_append.2 ⟨ih, List.nodup_cons.2 ⟨List.not_mem_nil, List.nodup_nil⟩, ?_⟩
      intro x hx y hy hxy
      rw [List.mem_singleton.1 hy] at hxy
      exact h (hxy ▸ List.mem_eraseDups.1 hx)

end EraseDups

/-! ## Recording -/

theorem recordSnapshot_of_notMem {s : Snapshot} {l : List Snapshot}
    (h : s.revision ∉ l.map Snapshot.revision) : recordSnapshot s l = l ++ [s] := by
  induction l with
  | nil => rfl
  | cons e l ih =>
    rw [List.map_cons, List.mem_cons, not_or] at h
    rw [recordSnapshot, if_neg (fun he => h.1 (Snapshot.key_eq_iff.1 he).symm), ih h.2,
      List.cons_append]

theorem recordSnapshot_of_mem {s : Snapshot} {l : List Snapshot} (hl : (l.map Snapshot.revision).Nodup)
    (h : s.revision ∈ l.map Snapshot.revision) :
    recordSnapshot s l = l.map fun e => if e.revision = s.revision then s else e := by
  induction l with
  | nil => exact absurd h List.not_mem_nil
  | cons e l ih =>
    rw [List.map_cons, List.nodup_cons] at hl
    rw [recordSnapshot, List.map_cons]
    by_cases he : e.revision = s.revision
    · rw [if_pos (Snapshot.key_eq_iff.2 he), if_pos he]
      -- no later snapshot has the revision of the one replaced
      have : ∀ x ∈ l, (if x.revision = s.revision then s else x) = x := fun x hx =>
        if_neg fun hxs : x.revision = s.revision =>
          hl.1 (he.trans hxs.symm ▸ List.mem_map_of_mem hx)
      rw [List.map_congr_left this, List.map_id']
    · rw [if_neg (fun hk => he (Snapshot.key_eq_iff.1 hk)), if_neg he]
      rw [List.map_cons, List.mem_cons] at h
      rw [ih hl.2 (h.resolve_left fun hs => he hs.symm)]

/-! ## The last record of each revision -/

theorem find?_revision_isSome {rs : List Release} {v : String × Int32}
    (h : v ∈ rs.map Release.revision) : ∃ r ∈ rs, r.revision = v ∧
      rs.reverse.find? (·.revision = v) = some r := by
  obtain ⟨q, hq, hv⟩ := List.mem_map.1 h
  obtain ⟨r, hr⟩ : ∃ r, rs.reverse.find? (·.revision = v) = some r :=
    Option.isSome_iff_exists.1 (List.find?_isSome.2 ⟨q, by simpa using hq, by simpa using hv⟩)
  exact ⟨r, List.mem_reverse.1 (List.mem_of_find?_eq_some hr), by simpa using List.find?_some hr, hr⟩

/-- **No revision is lost or listed twice.** -/
theorem map_revision_lastWritten (rs : List Release) :
    (lastWritten rs).map Snapshot.revision = (rs.map Release.revision).eraseDups := by
  rw [lastWritten, List.map_filterMap]
  refine (List.filterMap_congr fun v hv => ?_).trans List.filterMap_some
  obtain ⟨r, -, hr, hf⟩ := find?_revision_isSome (List.mem_eraseDups.1 hv)
  rw [hf]
  simp [hr]

theorem nodup_revision_lastWritten (rs : List Release) :
    ((lastWritten rs).map Snapshot.revision).Nodup := by
  rw [map_revision_lastWritten]
  exact nodup_eraseDups _

theorem mem_lastWritten {rs : List Release} {s : Snapshot} (h : s ∈ lastWritten rs) :
    ∃ r ∈ rs, s = r.toSnapshot ∧ rs.reverse.find? (·.revision = r.revision) = some r := by
  obtain ⟨v, -, hv⟩ := List.mem_filterMap.1 h
  obtain ⟨r, hr, rfl⟩ := Option.map_eq_some_iff.1 hv
  have hrev : r.revision = v := by simpa using List.find?_some hr
  exact ⟨r, List.mem_reverse.1 (List.mem_of_find?_eq_some hr), rfl, hrev ▸ hr⟩

theorem lastWritten_concat (rs : List Release) (r : Release) :
    lastWritten (rs ++ [r]) = recordSnapshot r.toSnapshot (lastWritten rs) := by
  have hmem : r.toSnapshot.revision ∈ (lastWritten rs).map Snapshot.revision ↔
      r.revision ∈ rs.map Release.revision := by
    rw [map_revision_lastWritten, List.mem_eraseDups, revision_toSnapshot]
  have hfind : ∀ v, (rs ++ [r]).reverse.find? (·.revision = v) =
      if r.revision = v then some r else rs.reverse.find? (·.revision = v) := by
    intro v
    by_cases h : r.revision = v <;> simp [h]
  by_cases h : r.revision ∈ rs.map Release.revision
  · rw [recordSnapshot_of_mem (nodup_revision_lastWritten rs) (hmem.2 h), lastWritten, lastWritten,
      List.map_append, List.map_singleton, eraseDups_concat, if_pos h, List.map_filterMap]
    refine List.filterMap_congr fun v hv => ?_
    obtain ⟨q, -, hq, hf⟩ := find?_revision_isSome (List.mem_eraseDups.1 hv)
    rw [hfind, hf]
    by_cases hr : r.revision = v
    · simp [hr, hq]
    · simp [hr, hq, Ne.symm hr]
  · rw [recordSnapshot_of_notMem (fun hs => h (hmem.1 hs)), lastWritten, lastWritten,
      List.map_append, List.map_singleton, eraseDups_concat, if_neg h, List.filterMap_append]
    congr 1
    · refine List.filterMap_congr fun v hv => ?_
      have hr : r.revision ≠ v := fun hr => h (hr ▸ List.mem_eraseDups.1 hv)
      rw [hfind, if_neg hr]
    · simp

theorem ofReleases_concat (rs : List Release) (r : Release) :
    ObservedSet.ofReleases (rs ++ [r]) = (ObservedSet.ofReleases rs).observe r := by
  rw [ObservedSet.ofReleases, List.foldl_append]
  rfl

/-- **An observed set holds the last record of each revision**, in the order of first writes. -/
theorem snapshots_ofReleases (rs : List Release) :
    (ObservedSet.ofReleases rs).snapshots = lastWritten rs := by
  induction rs using List.reverseRecOn with
  | nil => rfl
  | append_singleton rs r ih =>
    rw [ofReleases_concat, lastWritten_concat, ← ih]
    rfl

theorem isEmpty_ofReleases (rs : List Release) : (ObservedSet.ofReleases rs).isEmpty = rs.isEmpty := by
  rw [ObservedSet.isEmpty, snapshots_ofReleases]
  cases rs with
  | nil => rfl
  | cons r rs =>
    have h : (lastWritten (r :: rs)).map Snapshot.revision ≠ [] := by
      rw [map_revision_lastWritten, List.map_cons, List.eraseDups_cons]
      exact List.cons_ne_nil _ _
    rw [List.isEmpty_cons, List.isEmpty_eq_false_iff]
    exact fun he => h (by rw [he, List.map_nil])

theorem lastWritten_eq_nil {rs : List Release} : lastWritten rs = [] ↔ rs = [] := by
  rw [← snapshots_ofReleases, ← List.isEmpty_iff, ← ObservedSet.isEmpty, isEmpty_ofReleases,
    List.isEmpty_iff]

/-! ## Merging -/

theorem History.put_of_notMem {s : Snapshot} {h : History} (hs : s.revision ∉ h.map Snapshot.revision) :
    History.put s h = h ++ [s] := by
  induction h with
  | nil => rfl
  | cons e h ih =>
    rw [List.map_cons, List.mem_cons, not_or] at hs
    have he : e.targets s.name s.ns s.version = false := by
      rw [Bool.eq_false_iff]
      intro ht
      simp only [Snapshot.targets, Bool.and_eq_true, beq_iff_eq] at ht
      exact hs.1 (Prod.ext ht.1.1.symm ht.2.symm)
    rw [History.put, he, if_neg Bool.false_ne_true, ih hs.2, List.cons_append]

theorem foldl_put_of_nodup (l : List Snapshot) (h : History)
    (hl : ((h ++ l).map Snapshot.revision).Nodup) :
    l.foldl (fun h s => History.put s h) h = h ++ l := by
  induction l generalizing h with
  | nil => rw [List.foldl_nil, List.append_nil]
  | cons s l ih =>
    have hs : s.revision ∉ h.map Snapshot.revision := fun hm => by
      rw [List.map_append, List.map_cons] at hl
      exact (List.nodup_append.1 hl).2.2 _ hm _ List.mem_cons_self rfl
    rw [List.foldl_cons, History.put_of_notMem hs, ih _ (by simpa using hl), List.append_assoc,
      List.singleton_append]

/-- **Merged into an empty history**, an observed set is kept as it is: no two of its snapshots are
of one revision, whatever their namespaces and digests. -/
theorem mergeInto_nil (rs : List Release) :
    (ObservedSet.ofReleases rs).mergeInto [] = lastWritten rs := by
  rw [ObservedSet.mergeInto, snapshots_ofReleases,
    foldl_put_of_nodup _ _ (nodup_revision_lastWritten rs), List.nil_append]

/-! ## One key -/

theorem filter_key_recordSnapshot (s : Snapshot) (key : String) (l : List Snapshot)
    (hl : (l.map Snapshot.revision).Nodup) :
    (recordSnapshot s l).filter (·.key = key) =
      if s.key = key then [s] else l.filter (·.key = key) := by
  induction l with
  | nil => by_cases h : s.key = key <;> simp [recordSnapshot, h]
  | cons e l ih =>
    rw [List.map_cons, List.nodup_cons] at hl
    rw [recordSnapshot]
    by_cases he : e.key = s.key
    · rw [if_pos he]
      have hrest : s.key = key → l.filter (·.key = key) = [] := fun hk =>
        List.filter_eq_nil_iff.2 fun x hx hxk => hl.1 (by
          rw [Snapshot.key_eq_iff.1 (he.trans (hk.trans (of_decide_eq_true hxk).symm))]
          exact List.mem_map_of_mem hx)
      by_cases h : s.key = key
      · simp [h, hrest h]
      · simp [h, he]
    · rw [if_neg he, List.filter_cons, ih hl.2]
      by_cases h : s.key = key
      · have hek : e.key ≠ key := fun hek => he (hek.trans h.symm)
        simp [h, hek]
      · rw [if_neg h, if_neg h, List.filter_cons]

/-- **The snapshot under a key** is that of the record last written for it. -/
theorem filter_key_lastWritten (rs : List Release) (key : String) :
    (lastWritten rs).filter (·.key = key) =
      ((rs.reverse.find? (·.key = key)).map Release.toSnapshot).toList := by
  induction rs using List.reverseRecOn with
  | nil => rfl
  | append_singleton rs r ih =>
    rw [lastWritten_concat, filter_key_recordSnapshot _ _ _ (nodup_revision_lastWritten rs),
      key_toSnapshot, ih, List.reverse_append, List.reverse_singleton, List.singleton_append,
      List.find?_cons]
    by_cases h : r.key = key <;> simp [h]

end ReleaseControl
