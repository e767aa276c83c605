import ReleaseControl.Proofs.History.Merging
import ReleaseControl.Proofs.History.Replacing

/-!
# Merging in batches

Where the records of one revision are of one namespace, an observed set and a history find the same
places, so recording the writes of a batch and replacing once comes to replacing after every write.
-/

namespace ReleaseControl

/-- Records of one name and revision are of one namespace. -/
def Release.AgreeOnNamespaces (rs : List Release) : Prop :=
  ∀ r ∈ rs, ∀ s ∈ rs, r.revision = s.revision → r.ns = s.ns

namespace Release.AgreeOnNamespaces

variable {rs others : List Release}

theorem left (h : AgreeOnNamespaces (rs ++ others)) : AgreeOnNamespaces rs := fun r hr s hs =>
  h r (List.mem_append_left _ hr) s (List.mem_append_left _ hs)

theorem right (h : AgreeOnNamespaces (rs ++ others)) : AgreeOnNamespaces others := fun r hr s hs =>
  h r (List.mem_append_right _ hr) s (List.mem_append_right _ hs)

end Release.AgreeOnNamespaces

namespace History

variable {s t : Snapshot} {h : History} {l : List Snapshot}

/-! ## Replacing twice -/

theorem replace_replace (same : s.target = t.target) (h : History) :
    replace s (replace t h) = replace s h := by
  induction h with
  | nil => simp [replace, same]
  | cons e h ih =>
    rw [replace, replace]
    by_cases there : e.target = t.target
    · rw [if_pos there, if_pos (there.trans same.symm), replace, if_pos same.symm]
    · rw [if_neg there, if_neg (fun he => there (he.trans same)), replace,
        if_neg (fun he => there (he.trans same)), ih]

/-- Snapshots of two targets can be put in either order if one of the targets is there: at most one of
them is appended. -/
theorem replace_comm (other : s.target ≠ t.target) (there : s.target ∈ h.map Snapshot.target) :
    replace s (replace t h) = replace t (replace s h) := by
  induction h with
  | nil => exact absurd there List.not_mem_nil
  | cons e h ih =>
    by_cases hs : e.target = s.target
    · have ht : e.target ≠ t.target := hs ▸ other
      simp [replace, hs, other]
    · have rest := (List.mem_cons.1 there).resolve_left (Ne.symm hs)
      by_cases ht : e.target = t.target
      · simp [replace, ht, Ne.symm other]
      · simp [replace, hs, ht, ih rest]

theorem mem_targets_replace {target : String × String × Int32} :
    target ∈ (replace s h).map Snapshot.target ↔ target = s.target ∨ target ∈ h.map Snapshot.target := by
  induction h with
  | nil => simp [replace]
  | cons e h ih =>
    rw [replace]
    split
    · next same => simp [same]
    · rw [List.map_cons, List.mem_cons, ih, List.map_cons, List.mem_cons, or_left_comm]

theorem replace_replaceAll (other : ∀ t ∈ l, s.target ≠ t.target)
    (there : s.target ∈ h.map Snapshot.target) :
    replace s (h.replaceAll l) = replaceAll l (replace s h) := by
  induction l generalizing h with
  | nil => rfl
  | cons t l ih =>
    have rest : ∀ t ∈ l, s.target ≠ t.target := fun x hx => other x (List.mem_cons_of_mem t hx)
    calc replace s (replaceAll l (replace t h))
        = replaceAll l (replace s (replace t h)) := ih rest (mem_targets_replace.2 (.inr there))
      _ = replaceAll l (replace t (replace s h)) := by rw [replace_comm (other t List.mem_cons_self) there]

/-- **Recording one more snapshot** comes to replacing with it at the end, where keys and targets of
snapshots agree. -/
theorem replaceAll_recordSnapshot (distinct : (l.map Snapshot.target).Nodup)
    (agree : ∀ t ∈ l, t.key = s.key ↔ t.target = s.target) (h : History) :
    h.replaceAll (recordSnapshot s l) = replace s (h.replaceAll l) := by
  induction l generalizing h with
  | nil => rfl
  | cons t l ih =>
    obtain ⟨new, distinct⟩ := List.nodup_cons.1 distinct
    rw [recordSnapshot]
    by_cases same : t.target = s.target
    · have other : ∀ x ∈ l, s.target ≠ x.target := fun x hx hs =>
        new (same.trans hs ▸ List.mem_map_of_mem hx)
      rw [if_pos ((agree t List.mem_cons_self).2 same)]
      -- the one recorded takes the place of `t`, and those behind it are of other targets
      calc replaceAll l (replace s h)
          = replaceAll l (replace s (replace t h)) := by rw [replace_replace same.symm]
        _ = replace s (replaceAll l (replace t h)) :=
            (replace_replaceAll other (mem_targets_replace.2 (.inl same.symm))).symm
    · rw [if_neg (mt (agree t List.mem_cons_self).1 same)]
      exact ih distinct (fun x hx => agree x (List.mem_cons_of_mem t hx)) (replace t h)

end History

namespace ObservedSet

variable {rs : List Release}

theorem key_eq_iff_target_eq {r s : Release} (agree : Release.AgreeOnNamespaces rs) (hr : r ∈ rs)
    (hs : s ∈ rs) : r.toSnapshot.key = s.toSnapshot.key ↔ r.toSnapshot.target = s.toSnapshot.target := by
  rw [Snapshot.key_eq_iff]
  constructor
  · intro same
    obtain ⟨name, version⟩ := Prod.mk.inj same
    exact Prod.ext name (Prod.ext (agree r hr s hs same) version)
  · intro same
    obtain ⟨name, rest⟩ := Prod.mk.inj same
    exact Prod.ext name (Prod.mk.inj rest).2

/-- **Replacing once is replacing after every write**, where the records agree on namespaces. -/
theorem replaceInto_ofReleases (agree : Release.AgreeOnNamespaces rs) (h : History) :
    (ofReleases rs).replaceInto h = h.replaceAll (rs.map Release.toSnapshot) := by
  induction rs using List.reverseRecOn with
  | nil => rfl
  | append_singleton rs r ih =>
    have distinct : ((ofReleases rs).snapshots.map Snapshot.target).Nodup := by
      rw [snapshots_ofReleases]
      exact nodup_targets (nodup_revision_lastWritten rs)
    have places : ∀ t ∈ (ofReleases rs).snapshots,
        t.key = r.toSnapshot.key ↔ t.target = r.toSnapshot.target := fun t ht => by
      obtain ⟨q, hq, rfl⟩ := List.mem_map.1 (snapshots_ofReleases_subset rs ht)
      exact key_eq_iff_target_eq agree (List.mem_append_left _ hq)
        (List.mem_append_right _ (List.mem_singleton_self r))
    calc (ofReleases (rs ++ [r])).replaceInto h
        = h.replaceAll (recordSnapshot r.toSnapshot (ofReleases rs).snapshots) := by
          rw [ofReleases_concat]
          rfl
      _ = History.replace r.toSnapshot ((ofReleases rs).replaceInto h) :=
          History.replaceAll_recordSnapshot distinct places h
      _ = h.replaceAll ((rs ++ [r]).map Release.toSnapshot) := by
          rw [ih agree.left, List.map_append, History.replaceAll_append]
          rfl

theorem mergeInto_ofReleases {records : List Release} {h : History}
    (distinguished : Release.Distinguished records) (agree : Release.AgreeOnNamespaces rs)
    (observed : rs ⊆ records) (past : h ⊆ records.map Release.toSnapshot) :
    (ofReleases rs).mergeInto h = h.replaceAll (rs.map Release.toSnapshot) :=
  (mergeInto_eq_replaceInto distinguished observed past).trans (replaceInto_ofReleases agree h)

/-- **Merging in batches is merging at once.** Into a history of snapshots of records, merging what a
first batch of writes has left and then what a second has comes to the same as merging once what both
have left, if the records of one revision are of one namespace and no texts of records collide. -/
theorem merge_batches {past first second : List Release}
    (distinguished : Release.Distinguished (past ++ (first ++ second)))
    (agree : Release.AgreeOnNamespaces (first ++ second)) :
    let h : History := past.map Release.toSnapshot
    (ofReleases second).mergeInto ((ofReleases first).mergeInto h) =
      (ofReleases (first ++ second)).mergeInto h := by
  intro h
  let records := past ++ (first ++ second)
  have both : first ++ second ⊆ records := List.subset_append_right past _
  have inFirst : first ⊆ records := List.Subset.trans (List.subset_append_left first second) both
  have inSecond : second ⊆ records := List.Subset.trans (List.subset_append_right first second) both
  have before : h ⊆ records.map Release.toSnapshot := List.map_subset _ (List.subset_append_left past _)
  have between : h.replaceAll (first.map Release.toSnapshot) ⊆ records.map Release.toSnapshot :=
    History.replaceAll_subset before (List.map_subset _ inFirst)
  calc (ofReleases second).mergeInto ((ofReleases first).mergeInto h)
      = (ofReleases second).mergeInto (h.replaceAll (first.map Release.toSnapshot)) := by
        rw [mergeInto_ofReleases distinguished agree.left inFirst before]
    _ = (h.replaceAll (first.map Release.toSnapshot)).replaceAll (second.map Release.toSnapshot) :=
        mergeInto_ofReleases distinguished agree.right inSecond between
    _ = h.replaceAll ((first ++ second).map Release.toSnapshot) := by
        rw [List.map_append, History.replaceAll_append]
    _ = (ofReleases (first ++ second)).mergeInto h :=
        (mergeInto_ofReleases distinguished agree both before).symm

/-! ### A revision written in both batches

The first batch deploys the revision that the history lists as pending, the second makes it pending again,
with its values in another order: the digest is the one from before either batch. -/

theorem merge_batches_overlapping :
    Release.Distinguished ([Sample.pending] ++ ([Sample.deployed] ++ [Sample.reordered])) ∧
      Release.AgreeOnNamespaces ([Sample.deployed] ++ [Sample.reordered]) ∧
      (ofReleases [Sample.reordered]).mergeInto
          ((ofReleases [Sample.deployed]).mergeInto [Sample.pending.toSnapshot]) =
        (ofReleases [Sample.deployed, Sample.reordered]).mergeInto [Sample.pending.toSnapshot] := by
  have distinguished :
      Release.Distinguished ([Sample.pending] ++ ([Sample.deployed] ++ [Sample.reordered])) :=
    Sample.distinguished (by simp)
  have agree : Release.AgreeOnNamespaces ([Sample.deployed] ++ [Sample.reordered]) := by
    simp [Release.AgreeOnNamespaces, Sample.deployed, Sample.reordered]
  exact ⟨distinguished, agree, merge_batches distinguished agree⟩

end ObservedSet

end ReleaseControl
