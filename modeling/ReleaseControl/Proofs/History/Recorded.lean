import Mathlib.Data.Finset.Card
import ReleaseControl.Proofs.History.Merging

/-!
# Snapshots under their keys

A storage key stands for one revision, however a name is written, so an observed set keeps one snapshot of
each revision that was recorded, and finds the one recorded last.
-/

namespace ReleaseControl

theorem find?_recordSnapshot (s : Snapshot) (key : String) (l : List Snapshot) :
    (recordSnapshot s l).find? (·.key == key) =
      if s.key = key then some s else l.find? (·.key == key) := by
  induction l with
  | nil => by_cases hs : s.key = key <;> simp [recordSnapshot, hs]
  | cons e l ih =>
    rw [recordSnapshot]
    by_cases he : e.key = s.key
    · rw [if_pos he]
      by_cases hs : s.key = key
      · simp [hs]
      · -- the snapshot replaced was under the same key, so it was not found either
        simp [hs, he]
    · rw [if_neg he]
      by_cases hk : e.key = key
      · have hs : s.key ≠ key := fun hs => he (hk.trans hs.symm)
        simp [hk, hs]
      · simp [hk, ih]

namespace ObservedSet

/-- **Under a key** stands the last snapshot that was recorded with it. -/
theorem find?_ofSnapshots (ss : List Snapshot) (key : String) :
    (ofSnapshots ss).find? key = ss.reverse.find? (·.key == key) := by
  induction ss using List.reverseRecOn with
  | nil => rfl
  | append_singleton ss s ih =>
    rw [find?, snapshots_ofSnapshots_concat, find?_recordSnapshot, ← find?, ih, List.reverse_append,
      List.reverse_singleton, List.singleton_append]
    by_cases h : s.key = key <;> simp [h]

/-- **No revision is recorded twice**, and none is left out. -/
theorem count_ofSnapshots (ss : List Snapshot) (v : String × Int32) :
    ((ofSnapshots ss).snapshots.map Snapshot.revision).count v =
      if v ∈ ss.map Snapshot.revision then 1 else 0 := by
  rw [revisions_ofSnapshots, (nodup_eraseDups _).count]
  simp only [List.mem_eraseDups]

theorem size_ofSnapshots (ss : List Snapshot) :
    (ofSnapshots ss).size = (ss.map Snapshot.revision).toFinset.card := by
  have same : (ss.map Snapshot.revision).eraseDups.toFinset = (ss.map Snapshot.revision).toFinset := by
    ext v
    rw [List.mem_toFinset, List.mem_toFinset, List.mem_eraseDups]
  calc (ofSnapshots ss).size
      = ((ofSnapshots ss).snapshots.map Snapshot.revision).length := (List.length_map _).symm
    _ = (ss.map Snapshot.revision).eraseDups.length := by rw [revisions_ofSnapshots]
    _ = (ss.map Snapshot.revision).toFinset.card := by
      rw [← same, List.toFinset_card_of_nodup (nodup_eraseDups _)]

/-- **A set records by revision.** A storage key is that of one revision only, whatever the name holds
and whatever the sign of the version. So a set, however it was recorded, has as many snapshots as there
are revisions among those recorded, one of each, and under the key of a revision it finds the snapshot
that was recorded last of that revision, or nothing if there is none. -/
theorem recorded_by_revision :
    (∀ (n m : String) (u v : Int32), storageKey n u = storageKey m v ↔ n = m ∧ u = v) ∧
    ∀ ss : List Snapshot,
      let observed := ofSnapshots ss
      observed.size = (ss.map Snapshot.revision).toFinset.card ∧
      ∀ (n : String) (v : Int32),
        (observed.snapshots.map Snapshot.revision).count (n, v) =
          (if (n, v) ∈ ss.map Snapshot.revision then 1 else 0) ∧
        observed.find? (storageKey n v) = ss.reverse.find? fun s => s.name = n ∧ s.version = v := by
  refine ⟨fun n m u v => storageKey_inj, fun ss => ⟨size_ofSnapshots ss, fun n v => ?_⟩⟩
  have under : ∀ s : Snapshot, (s.key == storageKey n v) = decide (s.name = n ∧ s.version = v) := by
    intro s
    rw [Snapshot.key, Bool.eq_iff_iff, beq_iff_eq, storageKey_inj, decide_eq_true_eq]
  refine ⟨count_ofSnapshots ss (n, v), ?_⟩
  rw [find?_ofSnapshots]
  simp only [under]

/-- The version of a key begins behind its last separator. -/
example : storageKey "podinfo.v1" (-2) = "sh.helm.release.v1.podinfo.v1.v-2" := by decide

end ObservedSet

end ReleaseControl
