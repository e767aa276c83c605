import ReleaseControl.Proofs.History.LastWritten
import ReleaseControl.Proofs.History.Unique
import ReleaseControl.Proofs.Release.Record

/-!
# Merging without looking at digests

A snapshot holds nothing that the text of its record does not tell, so snapshots of records are the same
if their digests are, unless the texts of the records collide.

* `History.replace`, `ObservedSet.replaceInto`: merging that replaces whatever the digests are.
* `Release.Distinguished`: records whose texts do not collide.
-/

namespace ReleaseControl

/-- The history with a snapshot in the place of the first one of its target, or at its end. -/
def History.replace (s : Snapshot) : History → History
  | [] => [s]
  | e :: rest => if e.target = s.target then s :: rest else e :: replace s rest

/-- The history with several snapshots in the places of the first ones of their targets. -/
def History.replaceAll (l : List Snapshot) (h : History) : History :=
  l.foldl (fun h s => History.replace s h) h

/-- The history with the observed snapshots in the places of the first ones of their targets. -/
def ObservedSet.replaceInto (o : ObservedSet) (h : History) : History := h.replaceAll o.snapshots

/-- Records whose texts do not collide. -/
def Release.Distinguished (rs : List Release) : Prop :=
  ∀ r ∈ rs, ∀ s ∈ rs, ¬ Sha256.Collide r.canonicalText s.canonicalText

/-! ## Snapshots and digests -/

namespace Release

variable {rs : List Release} {r s : Release} {e o : Snapshot}

/-- **A snapshot does not show the order of the values of its record**: it is determined by what the
text of the record tells. -/
theorem toSnapshot_normalize (r : Release) : r.normalize.toSnapshot = r.toSnapshot := by
  have digest : r.normalize.digest = r.digest := congrArg digestText r.canonicalText_normalize
  have values : r.config.normalize.digest = r.config.digest := by
    rw [Json.digest, Json.digest, Json.canonicalText, Json.canonicalText, Json.normalize_normalize]
  unfold toSnapshot
  rw [digest]
  congr 1

/-- **The digest stands for the snapshot**, unless the texts of the records collide. -/
theorem toSnapshot_eq_of_digest (apart : ¬ Sha256.Collide r.canonicalText s.canonicalText)
    (same : r.digest = s.digest) : r.toSnapshot = s.toSnapshot := by
  have texts : r.canonicalText = s.canonicalText := (digestText_eq_iff.1 same).resolve_right apart
  rw [← toSnapshot_normalize r, canonicalText_eq_iff.1 texts, toSnapshot_normalize]

namespace Distinguished

theorem toSnapshot_eq (h : Distinguished rs) (hr : r ∈ rs) (hs : s ∈ rs) (same : r.digest = s.digest) :
    r.toSnapshot = s.toSnapshot :=
  toSnapshot_eq_of_digest (h r hr s hs) same

theorem eq_of_digest (h : Distinguished rs) (he : e ∈ rs.map toSnapshot) (ho : o ∈ rs.map toSnapshot)
    (same : e.digest = o.digest) : e = o := by
  obtain ⟨r, hr, rfl⟩ := List.mem_map.1 he
  obtain ⟨s, hs, rfl⟩ := List.mem_map.1 ho
  exact h.toSnapshot_eq hr hs same

end Distinguished

end Release

/-! ## Merging -/

namespace History

variable {rs : List Release} {h : History} {s : Snapshot} {l : List Snapshot}

theorem replace_subset (s : Snapshot) (h : History) : replace s h ⊆ s :: h := by
  induction h with
  | nil => exact List.Subset.refl _
  | cons e h ih =>
    rw [replace]
    split
    · exact List.cons_subset_cons s (List.subset_cons_self e h)
    · intro x hx
      rcases List.mem_cons.1 hx with rfl | hx
      · exact List.mem_cons_of_mem s List.mem_cons_self
      · exact List.cons_subset_cons s (List.subset_cons_self e h) (ih hx)

theorem replaceAll_append (l m : List Snapshot) (h : History) :
    h.replaceAll (l ++ m) = (h.replaceAll l).replaceAll m := List.foldl_append

theorem replaceAll_subset {all : List Snapshot} (hh : h ⊆ all) (hl : l ⊆ all) : h.replaceAll l ⊆ all := by
  induction l generalizing h with
  | nil => exact hh
  | cons s l ih =>
    obtain ⟨hs, hl⟩ := List.cons_subset.1 hl
    exact ih (List.Subset.trans (replace_subset s h) (List.cons_subset.2 ⟨hs, hh⟩)) hl

theorem put_eq_replace (hd : ∀ e ∈ h, e.digest = s.digest → e = s) : put s h = replace s h := by
  induction h with
  | nil => rfl
  | cons e h ih =>
    rw [put, replace]
    by_cases same : e.target = s.target
    · rw [if_pos (Snapshot.targets_iff.2 same), if_pos same]
      split
      · next digest => rw [hd e List.mem_cons_self digest]
      · rfl
    · rw [if_neg (mt Snapshot.targets_iff.1 same), if_neg same,
        ih fun x hx => hd x (List.mem_cons_of_mem e hx)]

theorem foldl_put_eq_replaceAll (distinguished : Release.Distinguished rs)
    (hh : h ⊆ rs.map Release.toSnapshot) (hl : l ⊆ rs.map Release.toSnapshot) :
    l.foldl (fun h s => put s h) h = h.replaceAll l := by
  -- every history on the way consists of snapshots of the records
  induction l generalizing h with
  | nil => rfl
  | cons s l ih =>
    obtain ⟨hs, hl⟩ := List.cons_subset.1 hl
    have replaced : replace s h ⊆ rs.map Release.toSnapshot :=
      List.Subset.trans (replace_subset s h) (List.cons_subset.2 ⟨hs, hh⟩)
    rw [List.foldl_cons, put_eq_replace fun e he => distinguished.eq_of_digest (hh he) hs, ih replaced hl]
    rfl

end History

namespace ObservedSet

theorem snapshots_ofReleases_subset (rs : List Release) :
    (ofReleases rs).snapshots ⊆ rs.map Release.toSnapshot := by
  intro s hs
  rw [snapshots_ofReleases] at hs
  obtain ⟨r, hr, rfl, -⟩ := mem_lastWritten hs
  exact List.mem_map_of_mem hr

theorem mergeInto_eq_replaceInto {records rs : List Release} {h : History}
    (distinguished : Release.Distinguished records) (observed : rs ⊆ records)
    (past : h ⊆ records.map Release.toSnapshot) :
    (ofReleases rs).mergeInto h = (ofReleases rs).replaceInto h :=
  History.foldl_put_eq_replaceAll distinguished past
    (List.Subset.trans (snapshots_ofReleases_subset rs) (List.map_subset _ observed))

/-- **The shortcut is sound.** Into a history of snapshots of records, merging what has been observed of
other records comes to the same as replacing every entry of an observed target; for two of the records
with one digest have the same snapshot in every part. All this unless texts of the records collide. -/
theorem shortcut_sound {past rs : List Release} (distinguished : Release.Distinguished (past ++ rs)) :
    let h : History := past.map Release.toSnapshot
    (ofReleases rs).mergeInto h = (ofReleases rs).replaceInto h ∧
      ∀ r ∈ past ++ rs, ∀ s ∈ past ++ rs, r.digest = s.digest → r.toSnapshot = s.toSnapshot := by
  intro h
  refine ⟨?_, fun r hr s hs same => distinguished.toSnapshot_eq hr hs same⟩
  exact mergeInto_eq_replaceInto distinguished (List.subset_append_right past rs)
    (List.map_subset _ (List.subset_append_left past rs))

/-! ### A record with its values in another order

The history lists one revision twice, pending and deployed. What is observed is the pending one, with its
values in another order, so that its digest is the one that stands in the history. -/

namespace Sample

def pending : Release where
  name := "app"
  ns := "prod"
  version := 1
  chart := { name := "web", version := "1.0.0" }
  config := .obj [("b", .int (.ofInt64 2)), ("a", .null)]
  status := .pendingInstall

def reordered : Release := { pending with config := .obj [("a", .null), ("b", .int (.ofInt64 2))] }

def deployed : Release := { pending with status := .deployed }

theorem text_reordered : reordered.canonicalText = pending.canonicalText := by
  have same : reordered.normalize = pending.normalize := rfl
  rw [← reordered.canonicalText_normalize, same, pending.canonicalText_normalize]

theorem digest_reordered : reordered.digest = pending.digest := congrArg digestText text_reordered

theorem digest_ne : pending.digest ≠ deployed.digest := by decide +kernel

theorem distinguished {rs : List Release} (h : ∀ r ∈ rs, r = pending ∨ r = reordered ∨ r = deployed) :
    Release.Distinguished rs := by
  rintro r hr s hs ⟨differ, same⟩
  have digest : r.digest = s.digest := digestText_eq_iff.2 (.inr ⟨differ, same⟩)
  rcases h r hr with rfl | rfl | rfl <;> rcases h s hs with rfl | rfl | rfl <;>
    simp_all [digest_ne, digest_ne.symm, text_reordered, digest_reordered]

end Sample

theorem shortcut_sound_reordered :
    Release.Distinguished ([Sample.pending, Sample.deployed] ++ [Sample.reordered]) ∧
      (ofReleases [Sample.reordered]).mergeInto [Sample.pending.toSnapshot, Sample.deployed.toSnapshot] =
        (ofReleases [Sample.reordered]).replaceInto
          [Sample.pending.toSnapshot, Sample.deployed.toSnapshot] ∧
      Sample.reordered.toSnapshot = Sample.pending.toSnapshot := by
  have distinguished : Release.Distinguished ([Sample.pending, Sample.deployed] ++ [Sample.reordered]) :=
    Sample.distinguished (by simp)
  obtain ⟨merged, snapshots⟩ := shortcut_sound distinguished
  exact ⟨distinguished, merged,
    snapshots _ (by simp) _ (by simp) Sample.digest_reordered⟩

end ObservedSet

end ReleaseControl
