import Mathlib.Data.List.Nodup
import ReleaseControl.History.Observed

/-!
# At most one snapshot of a revision

Merging looks for a snapshot of the same release, namespace and revision first, so none of them is in the
history twice by it.
-/

namespace ReleaseControl

/-- What a snapshot is of: the name, the namespace and the revision of a release. -/
def Snapshot.target (s : Snapshot) : String × String × Int32 := (s.name, s.ns, s.version)

theorem Snapshot.targets_iff {e s : Snapshot} :
    e.targets s.name s.ns s.version = true ↔ e.target = s.target := by
  simp [targets, target, and_assoc]

namespace History

def OfDistinctTargets (h : History) : Prop := (h.map Snapshot.target).Nodup

/-- Putting a snapshot adds its target if it is not there yet, and else keeps the targets. -/
theorem targets_put (s : Snapshot) (h : History) :
    (put s h).map Snapshot.target = if s.target ∈ h.map Snapshot.target then h.map Snapshot.target
      else h.map Snapshot.target ++ [s.target] := by
  induction h with
  | nil => rfl
  | cons e h ih =>
    rw [put]
    by_cases same : e.target = s.target
    · rw [if_pos (Snapshot.targets_iff.2 same), if_pos (List.mem_map.2 ⟨e, List.mem_cons_self, same⟩)]
      split
      · rfl
      · rw [List.map_cons, List.map_cons, same]
    · rw [if_neg (mt Snapshot.targets_iff.1 same), List.map_cons, ih, List.map_cons]
      by_cases hm : s.target ∈ h.map Snapshot.target
      · rw [if_pos hm, if_pos (List.mem_cons_of_mem _ hm)]
      · rw [if_neg hm, if_neg (List.not_mem_cons_of_ne_of_not_mem (Ne.symm same) hm), List.cons_append]

namespace OfDistinctTargets

variable {h : History}

theorem put (hd : h.OfDistinctTargets) (s : Snapshot) : (History.put s h).OfDistinctTargets := by
  rw [OfDistinctTargets, targets_put]
  split
  · exact hd
  · next new =>
    rw [← List.concat_eq_append]
    exact hd.concat new

/-- **Merging keeps the targets distinct**, whatever has been observed. -/
theorem mergeInto (hd : h.OfDistinctTargets) (observed : ObservedSet) :
    (observed.mergeInto h).OfDistinctTargets := by
  unfold ObservedSet.mergeInto
  induction observed.snapshots generalizing h with
  | nil => exact hd
  | cons s snapshots ih => exact ih (hd.put s)

theorem truncate (hd : h.OfDistinctTargets) (max : Nat) : (h.truncate max).OfDistinctTargets :=
  hd.sublist ((List.drop_sublist _ _).map _)

end OfDistinctTargets

end History

end ReleaseControl
