import ReleaseControl.Codec.Once
import ReleaseControl.Proofs.Json.Keys

/-!
# Values without repeated fields

Reading that refuses repeated fields is plain reading where no object has a key twice.
-/

namespace ReleaseControl

theorem itemsRepeated?_eq_none {items : List Json} (h : ∀ v ∈ items, ∀ shape, v.repeated? shape = none)
    (shape : Option Shape) : itemsRepeated? shape items = none := by
  induction items with
  | nil => rfl
  | cons v items ih =>
    obtain ⟨hv, hitems⟩ := List.forall_mem_cons.1 h
    rw [itemsRepeated?, ih hitems]
    cases shape with
    | none => rfl
    | some shape => simp [hv]

theorem entriesRepeated?_eq_none {entries : List (String × Json)}
    (h : ∀ e ∈ entries, ∀ shape, e.2.repeated? shape = none) (distinct : DistinctKeys entries)
    (shape : Shape) {seen : List String} (fresh : ∀ e ∈ entries, e.1 ∉ seen) :
    entriesRepeated? shape seen entries = none := by
  induction entries generalizing seen with
  | nil => rfl
  | cons e entries ih =>
    obtain ⟨k, v⟩ := e
    obtain ⟨hv, hentries⟩ := List.forall_mem_cons.1 h
    obtain ⟨hk, hfresh⟩ := List.forall_mem_cons.1 fresh
    obtain ⟨new, hdistinct⟩ := List.nodup_cons.1 distinct
    have rest : entriesRepeated? shape (k :: seen) entries = none :=
      ih hentries hdistinct fun e he hseen => (List.mem_cons.1 hseen).elim
        (fun heq => new (List.mem_map.2 ⟨e, he, heq⟩)) (hfresh e he)
    have hk : seen.contains k = false := by simpa using hk
    rw [entriesRepeated?, rest, hk, Bool.and_false, if_neg Bool.false_ne_true, Option.or_none]
    cases (shape.field? k).or shape.item? with
    | none => rfl
    | some shape => exact hv shape

/-- **No field is repeated** in a value whose objects have no key twice. -/
theorem Json.KeysDistinct.repeated?_eq_none {v : Json} (h : v.KeysDistinct) (shape : Shape) :
    v.repeated? shape = none := by
  induction h generalizing shape with
  | null | bool | int | double | str => rfl
  | arr _ ih =>
    rw [repeated?]
    exact itemsRepeated?_eq_none ih _
  | obj distinct _ ih =>
    rw [repeated?]
    exact entriesRepeated?_eq_none ih distinct shape fun _ _ => List.not_mem_nil

/-- **Where no key is there twice**, refusing repeated fields makes no difference. -/
theorem Codec.decodeOnce_eq {α : Type} (c : Codec α) {v : Json} (h : v.KeysDistinct) :
    c.decodeOnce v = c.decode v := by
  rw [decodeOnce, h.repeated?_eq_none]

end ReleaseControl
