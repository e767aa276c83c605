import Mathlib.Data.List.Basic
import ReleaseControl.Proofs.History.LastWritten
import ReleaseControl.Proofs.History.Unique
import ReleaseControl.Proofs.Object.Status

/-!
# Merging into any history

A history may list a target more than once. Merging finds the first entry of a target only, so every
observed snapshot has one place: that of the first entry of its target, or one behind all entries.

* `History.place`: that place; `put_eq`: putting a snapshot changes it, or adds an entry at the end.
* `History.Merged`: what a merge leaves of each entry, and what it appends.
-/

namespace ReleaseControl

/-- The set of some snapshots, recorded one after the other. -/
def ObservedSet.ofSnapshots (ss : List Snapshot) : ObservedSet := ss.foldl ObservedSet.record .empty

/-- What observing a snapshot makes of an entry of its target: nothing if the digests agree. -/
def Snapshot.over (s e : Snapshot) : Snapshot := if e.digest = s.digest then e else s

namespace History

/-- Where the first entry of a target stands, behind the last entry if there is none. -/
def place (h : History) (target : String × String × Int32) : Nat := (h.map Snapshot.target).idxOf target

/-- What merging some snapshots into a history comes to. -/
structure Merged (observed : List Snapshot) (h after : History) : Prop where
  /-- An entry that is not the first one of an observed target stays as it is, where it is. -/
  kept : ∀ i < h.length, (∀ s ∈ observed, h.place s.target ≠ i) → after[i]? = h[i]?
  /-- The first entry of an observed target stays where it is, and as it is if the digests agree. -/
  settled : ∀ s ∈ observed, ∀ e, h[h.place s.target]? = some e →
    after[h.place s.target]? = some (s.over e)
  /-- Behind the entries stand the snapshots of targets that had none, in their order. -/
  appended : after.drop h.length = observed.filter fun s => s.target ∉ h.map Snapshot.target

variable {h : History} {s : Snapshot} {target : String × String × Int32}

/-! ## Places -/

theorem place_lt_length_iff : h.place target < h.length ↔ target ∈ h.map Snapshot.target := by
  rw [place, ← List.idxOf_lt_length_iff, List.length_map]

theorem place_cons_of_eq {e : Snapshot} (he : e.target = target) : place (e :: h) target = 0 := by
  rw [place, List.map_cons, he, List.idxOf_cons_self]

theorem place_cons_of_ne {e : Snapshot} (he : e.target ≠ target) :
    place (e :: h) target = h.place target + 1 := by
  rw [place, List.map_cons, List.idxOf_cons_ne _ he, place]

theorem target_of_place {e : Snapshot} (he : h[h.place target]? = some e) : e.target = target := by
  have there : (h.map Snapshot.target)[h.place target]? = some e.target := by
    rw [List.getElem?_map, he, Option.map_some]
  obtain ⟨hi, found⟩ := List.getElem?_eq_some_iff.1 there
  exact found.symm.trans (List.getElem_idxOf hi)

theorem exists_of_mem_targets (ht : target ∈ h.map Snapshot.target) :
    ∃ e, h[h.place target]? = some e ∧ e.target = target :=
  have he := List.getElem?_eq_getElem (place_lt_length_iff.2 ht)
  ⟨_, he, target_of_place he⟩

theorem place_of_targets {after : History} {targets : List (String × String × Int32)}
    (ha : after.map Snapshot.target = h.map Snapshot.target ++ targets)
    (ht : target ∈ h.map Snapshot.target) : after.place target = h.place target := by
  rw [place, ha, List.idxOf_append_of_mem ht, place]

/-! ## Putting one snapshot -/

/-- **Putting a snapshot** changes the first entry of its target, or appends the snapshot. -/
theorem put_eq (s : Snapshot) (h : History) :
    put s h = if s.target ∈ h.map Snapshot.target then h.modify (h.place s.target) s.over
      else h ++ [s] := by
  induction h with
  | nil => rfl
  | cons e h ih =>
    rw [put]
    by_cases same : e.target = s.target
    · rw [if_pos (Snapshot.targets_iff.2 same), place_cons_of_eq same, List.modify_zero_cons,
        if_pos (List.mem_map.2 ⟨e, List.mem_cons_self, same⟩), Snapshot.over, apply_ite (· :: h)]
    · rw [if_neg (mt Snapshot.targets_iff.1 same), ih, place_cons_of_ne same, List.modify_succ_cons,
        List.map_cons]
      by_cases hm : s.target ∈ h.map Snapshot.target
      · rw [if_pos hm, if_pos (List.mem_cons_of_mem _ hm)]
      · rw [if_neg hm, if_neg (List.not_mem_cons_of_ne_of_not_mem (Ne.symm same) hm), List.cons_append]

theorem put_eq_self {e : Snapshot} (he : h[h.place s.target]? = some e) (hd : e.digest = s.digest) :
    put s h = h := by
  have there : s.target ∈ h.map Snapshot.target :=
    place_lt_length_iff.1 (List.getElem?_eq_some_iff.1 he).1
  rw [put_eq, if_pos there]
  refine List.ext_getElem? fun i => ?_
  rw [List.getElem?_modify]
  by_cases hi : h.place s.target = i
  · subst hi
    simp [he, Snapshot.over, hd]
  · simp [hi]

/-! ## Putting several -/

theorem target_over {e : Snapshot} (he : e.target = s.target) : (s.over e).target = s.target := by
  unfold Snapshot.over
  split
  · exact he
  · rfl

theorem digest_over (s e : Snapshot) : (s.over e).digest = s.digest := by
  unfold Snapshot.over
  split
  · assumption
  · rfl

theorem foldl_put_eq_self {l : List Snapshot} (hl : ∀ s ∈ l, put s h = h) :
    l.foldl (fun h s => put s h) h = h := by
  induction l with
  | nil => rfl
  | cons s l ih =>
    rw [List.foldl_cons, hl s List.mem_cons_self]
    exact ih fun x hx => hl x (List.mem_cons_of_mem s hx)

namespace Merged

variable {observed : List Snapshot} {after : History}

theorem target_getElem? (m : Merged observed h after) {i : Nat} (hi : i < h.length) :
    after[i]?.map Snapshot.target = h[i]?.map Snapshot.target := by
  by_cases hs : ∃ s ∈ observed, h.place s.target = i
  · obtain ⟨s, hs, rfl⟩ := hs
    have he := List.getElem?_eq_getElem hi
    rw [m.settled s hs _ he, he, Option.map_some, Option.map_some, target_over (target_of_place he),
      target_of_place he]
  · rw [m.kept i hi fun s ho hp => hs ⟨s, ho, hp⟩]

theorem targets_take (m : Merged observed h after) :
    (after.take h.length).map Snapshot.target = h.map Snapshot.target := by
  refine List.ext_getElem? fun i => ?_
  rw [List.getElem?_map, List.getElem?_map, List.getElem?_take]
  split
  · next hi => exact m.target_getElem? hi
  · next hi => rw [List.getElem?_eq_none (Nat.le_of_not_lt hi)]

theorem targets (m : Merged observed h after) : after.map Snapshot.target = h.map Snapshot.target ++
    (observed.filter fun s => s.target ∉ h.map Snapshot.target).map Snapshot.target := by
  rw [← List.take_append_drop h.length after, List.map_append, m.targets_take, m.appended]

theorem length_le (m : Merged observed h after) : h.length ≤ after.length := by
  have := congrArg List.length m.targets
  rw [List.length_append, List.length_map, List.length_map] at this
  omega

theorem mem_targets_iff (m : Merged observed h after) (new : s.target ∉ observed.map Snapshot.target) :
    s.target ∈ after.map Snapshot.target ↔ s.target ∈ h.map Snapshot.target := by
  rw [m.targets, List.mem_append, or_iff_left]
  exact fun hf => new ((List.filter_sublist.map _).subset hf)

theorem put_known (m : Merged observed h after) (new : s.target ∉ observed.map Snapshot.target)
    (known : s.target ∈ h.map Snapshot.target) :
    Merged (observed ++ [s]) h (after.modify (h.place s.target) s.over) := by
  have bound := place_lt_length_iff.2 known
  -- two observed targets with one place would both be the target of the entry that stands there
  have free : ∀ x ∈ observed, h.place x.target ≠ h.place s.target := fun x hx hp => by
    obtain ⟨e, he, target⟩ := exists_of_mem_targets known
    have other : e.target = x.target := target_of_place (hp ▸ he)
    exact new (target.symm.trans other ▸ List.mem_map_of_mem hx)
  refine ⟨fun i hi other => ?_, fun x hx e he => ?_, ?_⟩
  · have ne : h.place s.target ≠ i := other s (List.mem_append_right _ (List.mem_singleton_self s))
    rw [List.getElem?_modify_ne _ _ ne]
    exact m.kept i hi fun x hx => other x (List.mem_append_left _ hx)
  · rcases List.mem_append.1 hx with hx | hx
    · rw [List.getElem?_modify_ne _ _ (free x hx).symm]
      exact m.settled x hx e he
    · obtain rfl := List.mem_singleton.1 hx
      rw [List.getElem?_modify_eq, m.kept _ bound free, he]
      rfl
  · rw [List.drop_modify_of_lt _ _ _ _ bound, m.appended, List.filter_append,
      List.filter_cons_of_neg (by simpa using known), List.filter_nil, List.append_nil]

theorem put_unknown (m : Merged observed h after) (unknown : s.target ∉ h.map Snapshot.target) :
    Merged (observed ++ [s]) h (after ++ [s]) := by
  refine ⟨fun i hi other => ?_, fun x hx e he => ?_, ?_⟩
  · rw [List.getElem?_append_left (Nat.lt_of_lt_of_le hi m.length_le)]
    exact m.kept i hi fun x hx => other x (List.mem_append_left _ hx)
  · have bound := (List.getElem?_eq_some_iff.1 he).1
    rw [List.getElem?_append_left (Nat.lt_of_lt_of_le bound m.length_le)]
    rcases List.mem_append.1 hx with hx | hx
    · exact m.settled x hx e he
    · obtain rfl := List.mem_singleton.1 hx
      exact absurd (place_lt_length_iff.1 bound) unknown
  · rw [List.drop_append_of_le_length m.length_le, m.appended, List.filter_append,
      List.filter_cons_of_pos (by simpa using unknown), List.filter_nil]

/-- **The step**: one more snapshot, of a target that has not been merged before. -/
theorem put (m : Merged observed h after) (new : s.target ∉ observed.map Snapshot.target) :
    Merged (observed ++ [s]) h (History.put s after) := by
  rw [put_eq]
  split
  -- what is of the target now was so before the merge: no merged snapshot is of it
  · next there =>
    have known := (m.mem_targets_iff new).1 there
    rw [place_of_targets m.targets known]
    exact m.put_known new known
  · next absent => exact m.put_unknown (mt (m.mem_targets_iff new).2 absent)

theorem exists_digest (m : Merged observed h after) (distinct : (observed.map Snapshot.target).Nodup)
    (hs : s ∈ observed) : ∃ e, after[after.place s.target]? = some e ∧ e.digest = s.digest := by
  by_cases there : s.target ∈ h.map Snapshot.target
  · obtain ⟨e, he, -⟩ := exists_of_mem_targets there
    rw [place_of_targets m.targets there]
    exact ⟨_, m.settled s hs e he, digest_over s e⟩
  · have new : s ∈ observed.filter fun s => s.target ∉ h.map Snapshot.target :=
      List.mem_filter.2 ⟨hs, by simpa using there⟩
    obtain ⟨e, he, target⟩ : ∃ e, after[after.place s.target]? = some e ∧ e.target = s.target :=
      exists_of_mem_targets (m.targets ▸ List.mem_append_right _ (List.mem_map_of_mem new))
    refine ⟨e, he, congrArg Snapshot.digest ?_⟩
    -- no entry from before is of its target, and of those appended it is the only one
    have mem := List.mem_of_getElem? he
    rw [← List.take_append_drop h.length after, List.mem_append, m.appended] at mem
    rcases mem with mem | mem
    · exact absurd (target ▸ m.targets_take ▸ List.mem_map_of_mem mem) there
    · exact List.inj_on_of_nodup_map distinct (List.mem_filter.1 mem).1 hs target

end Merged

/-- **Merging snapshots of distinct targets**, one after the other. -/
theorem merged_foldl_put {l : List Snapshot} (hl : (l.map Snapshot.target).Nodup) (h : History) :
    Merged l h (l.foldl (fun h s => put s h) h) := by
  -- from the right, for `Merged` compares with the history before the first snapshot
  induction l using List.reverseRecOn with
  | nil => exact ⟨fun _ _ _ => rfl, fun _ hs => absurd hs List.not_mem_nil, List.drop_length⟩
  | append_singleton l s ih =>
    rw [List.map_append, List.map_singleton, ← List.concat_eq_append, List.nodup_concat] at hl
    rw [List.foldl_append]
    exact (ih hl.2).put hl.1

end History

namespace ObservedSet

/-! ## Recorded snapshots -/

theorem revisions_recordSnapshot {l : List Snapshot} (hl : (l.map Snapshot.revision).Nodup)
    (s : Snapshot) : (recordSnapshot s l).map Snapshot.revision =
      if s.revision ∈ l.map Snapshot.revision then l.map Snapshot.revision
      else l.map Snapshot.revision ++ [s.revision] := by
  split
  · next there =>
    rw [recordSnapshot_of_mem hl there, List.map_map]
    refine List.map_congr_left fun e _ => ?_
    rw [Function.comp_apply]
    split
    · next same => exact same.symm
    · rfl
  · next new => rw [recordSnapshot_of_notMem new, List.map_append, List.map_singleton]

theorem snapshots_ofSnapshots_concat (ss : List Snapshot) (s : Snapshot) :
    (ofSnapshots (ss ++ [s])).snapshots = recordSnapshot s (ofSnapshots ss).snapshots := by
  rw [ofSnapshots, List.foldl_append]
  rfl

/-- **The revisions of a recorded set** are those of the snapshots, each once, in the order in which they
first occur. -/
theorem revisions_ofSnapshots (ss : List Snapshot) :
    (ofSnapshots ss).snapshots.map Snapshot.revision = (ss.map Snapshot.revision).eraseDups := by
  induction ss using List.reverseRecOn with
  | nil => rfl
  | append_singleton ss s ih =>
    rw [snapshots_ofSnapshots_concat, revisions_recordSnapshot (ih ▸ nodup_eraseDups _), ih,
      List.map_append, List.map_singleton, eraseDups_concat]
    simp only [List.mem_eraseDups]

theorem nodup_targets {l : List Snapshot} (hl : (l.map Snapshot.revision).Nodup) :
    (l.map Snapshot.target).Nodup := by
  refine List.Nodup.of_map (fun t => (t.1, t.2.2)) ?_
  rw [List.map_map]
  exact hl

theorem nodup_targets_ofSnapshots (ss : List Snapshot) :
    ((ofSnapshots ss).snapshots.map Snapshot.target).Nodup :=
  nodup_targets (revisions_ofSnapshots ss ▸ nodup_eraseDups _)

theorem merged_mergeInto (ss : List Snapshot) (h : History) :
    History.Merged (ofSnapshots ss).snapshots h ((ofSnapshots ss).mergeInto h) :=
  History.merged_foldl_put (nodup_targets_ofSnapshots ss) h

theorem mergeInto_mergeInto (ss : List Snapshot) (h : History) :
    (ofSnapshots ss).mergeInto ((ofSnapshots ss).mergeInto h) = (ofSnapshots ss).mergeInto h := by
  refine History.foldl_put_eq_self fun s hs => ?_
  obtain ⟨e, he, digest⟩ := (merged_mergeInto ss h).exists_digest (nodup_targets_ofSnapshots ss) hs
  exact History.put_eq_self he digest

end ObservedSet

/-- **Merging into an object.** Whatever history the object has and whatever has been recorded: the
observed snapshots are of the recorded revisions, each once and in the order of their first records; in
the history, the first entry of each observed target is settled in its place, every other entry is kept,
and the snapshots of new targets are appended; of the status nothing but the history changes, and of the
object nothing but the status; and merging the same set again changes nothing at all. -/
theorem HelmRelease.merge_in_place (o : HelmRelease) (ss : List Snapshot) :
    let observed := ObservedSet.ofSnapshots ss
    let after := o.mergeObserved observed
    observed.snapshots.map Snapshot.revision = (ss.map Snapshot.revision).eraseDups ∧
      History.Merged observed.snapshots o.statusOrNew.history after.statusOrNew.history ∧
      after.status = some { o.statusOrNew with history := after.statusOrNew.history } ∧
      after.SameDeclaration o ∧ after.mergeObserved observed = after := by
  intro observed after
  refine ⟨ObservedSet.revisions_ofSnapshots ss, ObservedSet.merged_mergeInto ss _, rfl,
    o.sameDeclaration_mergeObserved observed, ?_⟩
  have again : observed.mergeInto after.statusOrNew.history = after.statusOrNew.history :=
    ObservedSet.mergeInto_mergeInto ss o.statusOrNew.history
  calc after.mergeObserved observed
      = { after with
          status := some { after.statusOrNew with
            history := observed.mergeInto after.statusOrNew.history } } := rfl
    _ = after := by rw [again]; rfl

end ReleaseControl
