import ReleaseControl.Digest
import ReleaseControl.Proofs.Json.Reading

/-!
# Canonical text

* `Json.Alike`: equal up to the order of the entries of objects.
* **`canonicalText_eq_iff`**: alike values are those with one canonical text.
* `Sha256.Collide`: two texts with one hash; **`digest_identifies`**: digests name values.
-/

namespace ReleaseControl

/-- Two texts with one hash. -/
def Sha256.Collide (s t : String) : Prop := s ≠ t ∧ hexOfText s = hexOfText t

theorem digestText_eq_iff {s t : String} :
    digestText s = digestText t ↔ s = t ∨ Sha256.Collide s t := by
  have tail : digestText s = digestText t ↔ Sha256.hexOfText s = Sha256.hexOfText t :=
    String.append_right_inj _
  rw [tail, Sha256.Collide]
  by_cases h : s = t
  · simp [h]
  · simp [h]

namespace Json

variable {v w : Json}

/-- Equal up to the order of the entries of objects, at every level: leaves are equal, arrays agree item
by item, and the entries of one object can be reordered to agree with those of the other. -/
inductive Alike : Json → Json → Prop
  | null : Alike .null .null
  | bool (b : Bool) : Alike (.bool b) (.bool b)
  | int (n : Whole) : Alike (.int n) (.int n)
  | double (x : Double) : Alike (.double x) (.double x)
  | str (s : String) : Alike (.str s) (.str s)
  | arr {items others : List Json} (h : List.Forall₂ Alike items others) :
      Alike (.arr items) (.arr others)
  | obj {entries reordered others : List (String × Json)} (perm : entries.Perm reordered)
      (keys : reordered.map Prod.fst = others.map Prod.fst)
      (values : List.Forall₂ Alike (reordered.map Prod.snd) (others.map Prod.snd)) :
      Alike (.obj entries) (.obj others)

/-! ## Normal forms -/

theorem forall₂_congr {α β : Type} {r s : α → β → Prop} {l : List α} {m : List β}
    (h : ∀ a ∈ l, ∀ b ∈ m, (r a b ↔ s a b)) : List.Forall₂ r l m ↔ List.Forall₂ s l m := by
  rw [List.forall₂_iff_zip, List.forall₂_iff_zip]
  refine and_congr_right fun _ => forall_congr' fun a => forall_congr' fun b => ?_
  exact forall_congr' fun hab => h a (List.of_mem_zip hab).1 b (List.of_mem_zip hab).2

theorem map_eq_map_iff_forall₂ {α β : Type} {f : α → β} {l m : List α} :
    l.map f = m.map f ↔ List.Forall₂ (fun a b => f a = f b) l m := by
  rw [← List.forall₂_map_left_iff (R := fun a b => a = f b), ← List.forall₂_map_right_iff,
    List.forall₂_eq_eq_eq]

theorem mapValues_eq_mapValues_iff {α β : Type} {f : α → β} {l m : List (String × α)} :
    mapValues f l = mapValues f m ↔ l.map Prod.fst = m.map Prod.fst ∧
      (l.map Prod.snd).map f = (m.map Prod.snd).map f := by
  have pairs (l : List (String × α)) :
      mapValues f l = (l.map Prod.fst).zip ((l.map Prod.snd).map f) := by
    rw [mapValues, List.map_map, List.zip_map']
    rfl
  have values (l : List (String × α)) :
      (mapValues f l).map Prod.snd = (l.map Prod.snd).map f := by
    rw [mapValues, List.map_map, List.map_map]
    rfl
  constructor
  · intro h
    exact ⟨by rw [← keys_mapValues f, h, keys_mapValues], by rw [← values, h, values]⟩
  · intro h
    rw [pairs, pairs, h.1, h.2]

theorem perm_mapValues_iff {α β : Type} {f : α → β} {l m : List (String × α)} :
    (mapValues f l).Perm (mapValues f m) ↔ ∃ k, l.Perm k ∧ mapValues f k = mapValues f m := by
  constructor
  · intro h
    obtain ⟨k, perm, hk⟩ := exists_perm_of_perm_map h.symm
    exact ⟨k, perm.symm, hk⟩
  · rintro ⟨k, perm, hk⟩
    exact hk ▸ perm.map _

theorem normalize_arr_eq_iff {items others : List Json}
    (ih : ∀ v ∈ items, ∀ w ∈ others, (v.normalize = w.normalize ↔ v.Alike w)) :
    (arr items).normalize = (arr others).normalize ↔ (arr items).Alike (.arr others) := by
  rw [normalize_arr, normalize_arr, Json.arr.injEq, map_eq_map_iff_forall₂, forall₂_congr ih]
  exact ⟨.arr, fun h => by cases h; assumption⟩

theorem normalize_obj_eq_iff {entries others : List (String × Json)} (hl : DistinctKeys entries)
    (hm : DistinctKeys others)
    (ih : ∀ e ∈ entries, ∀ f ∈ others, (e.2.normalize = f.2.normalize ↔ e.2.Alike f.2)) :
    (obj entries).normalize = (obj others).normalize ↔ (obj entries).Alike (.obj others) := by
  have values {reordered : List (String × Json)} (perm : entries.Perm reordered) :
      (reordered.map Prod.snd).map normalize = (others.map Prod.snd).map normalize ↔
        List.Forall₂ Alike (reordered.map Prod.snd) (others.map Prod.snd) := by
    refine map_eq_map_iff_forall₂.trans (forall₂_congr fun v hv w hw => ?_)
    obtain ⟨e, he, rfl⟩ := List.mem_map.1 hv
    obtain ⟨f, hf, rfl⟩ := List.mem_map.1 hw
    exact ih e (perm.mem_iff.2 he) f hf
  rw [normalize_obj, normalize_obj, Json.obj.injEq,
    sortEntries_eq_iff (hl.mapValues _) (hm.mapValues _), perm_mapValues_iff]
  constructor
  · rintro ⟨reordered, perm, h⟩
    obtain ⟨hk, hv⟩ := mapValues_eq_mapValues_iff.1 h
    exact .obj perm hk ((values perm).1 hv)
  · intro h
    cases h with
    | obj perm hk hv => exact ⟨_, perm, mapValues_eq_mapValues_iff.2 ⟨hk, (values perm).2 hv⟩⟩

/-- **Alike values are those with one normal form.** -/
theorem normalize_eq_iff (hv : v.KeysDistinct) (hw : w.KeysDistinct) :
    v.normalize = w.normalize ↔ v.Alike w := by
  induction v using Json.induction generalizing w with
  | null | bool | int | double | str =>
    constructor
    · intro h
      cases w <;> cases h
      constructor
    · intro h
      cases h
      rfl
  | arr items ih =>
    cases hv with
    | arr hitems =>
    cases hw with
    | arr hothers =>
      exact normalize_arr_eq_iff fun v hv w hw => ih v hv (hitems v hv) (hothers w hw)
    | _ => exact ⟨(fun h => by cases h), (fun h => by cases h)⟩
  | obj entries ih =>
    cases hv with
    | obj hl hentries =>
    cases hw with
    | obj hm hothers =>
      exact normalize_obj_eq_iff hl hm fun e he f hf => ih e he (hentries e he) (hothers f hf)
    | _ => exact ⟨(fun h => by cases h), (fun h => by cases h)⟩

/-! ## Texts and digests -/

theorem canonicalText_eq_iff_normalize (v w : Json) :
    v.canonicalText = w.canonicalText ↔ v.normalize = w.normalize := by
  refine ⟨fun h => ?_, fun h => congrArg text h⟩
  refine Option.some.inj ?_
  calc some v.normalize = read? v.canonicalText := (read?_text _).symm
    _ = read? w.canonicalText := by rw [h]
    _ = some w.normalize := read?_text _

/-- **Alike values are those with one canonical text.** -/
theorem canonicalText_eq_iff (hv : v.KeysDistinct) (hw : w.KeysDistinct) :
    v.canonicalText = w.canonicalText ↔ v.Alike w :=
  (canonicalText_eq_iff_normalize v w).trans (normalize_eq_iff hv hw)

/-- **Digests name values.** Two values have one canonical text just if they are alike, so alike values
have one digest; and values that differ have one digest only if their canonical texts collide. -/
theorem digest_identifies (hv : v.KeysDistinct) (hw : w.KeysDistinct) :
    (v.canonicalText = w.canonicalText ↔ v.Alike w) ∧
      (v.digest = w.digest ↔ v.Alike w ∨ Sha256.Collide v.canonicalText w.canonicalText) := by
  have texts := canonicalText_eq_iff hv hw
  refine ⟨texts, ?_⟩
  rw [digest, digest, digestText_eq_iff, texts]

/-- Swapped entries keep the digest, the sign of a zero does not keep the text. -/
theorem digest_identifies_swapped :
    (obj [("b", .arr [.int (.ofInt64 1), .double .zero]), ("a", .null)]).digest =
        (obj [("a", .null), ("b", .arr [.int (.ofInt64 1), .double .zero])]).digest ∧
      (arr [.double .zero]).canonicalText ≠ (arr [.double ⟨true, 0, by decide⟩]).canonicalText := by
  have swapped : (obj [("b", .arr [.int (.ofInt64 1), .double .zero]), ("a", .null)]).Alike
      (.obj [("a", .null), ("b", .arr [.int (.ofInt64 1), .double .zero])]) :=
    .obj (.swap _ _ _) rfl (.cons .null (.cons (.arr (.cons (.int _) (.cons (.double _) .nil))) .nil))
  have differ : ¬ (arr [.double .zero]).Alike (.arr [.double ⟨true, 0, by decide⟩]) := by
    rintro ⟨⟩
    next h => cases h with | cons h _ => cases h
  exact ⟨(digest_identifies (by simp [DistinctKeys]) (by simp [DistinctKeys])).2.2 (.inl swapped),
    mt (digest_identifies (by simp) (by simp)).1.1 differ⟩

end Json

end ReleaseControl
