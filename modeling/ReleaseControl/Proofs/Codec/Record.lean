import Mathlib.Data.List.Nodup
import Mathlib.Data.List.Pairwise
import ReleaseControl.Codec.Record
import ReleaseControl.Proofs.Codec.Survival

/-!
# Records read back

A record is read field by field, first those that are present and then those that are missing. Fields are
put into a record independently of each other, so the order does not matter.

* `Field.Restores`: what becomes of a record when a field is read back.
* `readPresent_eq`, `fillMissing_eq`: the two passes of the reader.
* **`decode_entries`**, **`survives_record`**: a record reads back by its fields.
-/

namespace ReleaseControl

variable {σ α : Type} {g : Json → Json} {s : σ}

namespace Field

/-- What is made of a field of `s` that was written and rewritten: it is read if it was written, and
filled in if it was left out. -/
def restore (g : Json → Json) (s : σ) (f : Field σ) (t : σ) : Except DecodeError σ :=
  match f.encode s with
  | some v => f.decode (g v) t
  | none => f.missing t

/-- Reading the field back puts it into any record as `put` does. -/
def Restores (g : Json → Json) (s : σ) (f : Field σ) (put : σ → σ) : Prop :=
  ∀ t, f.restore g s t = .ok (put t)

variable {name : String} {c : Codec α} {get : σ → α} {set : α → σ → σ} {x : α}

theorem restores_required (h : c.decode (g (c.encode (get s))) = .ok x) :
    (required name c get set).Restores g s (set x) := by
  intro t
  simp only [restore, required, h, Except.map]

theorem restores_defaulted {default : α} (h : c.decode (g (c.encode (get s))) = .ok x) :
    (defaulted name c default get set).Restores g s (set x) := by
  intro t
  simp only [restore, defaulted, h, Except.map]

theorem decodeOption_eq {v : Json} (h : v ≠ .null) : decodeOption c v = (c.decode v).map some := by
  cases v with
  | null => exact absurd rfl h
  | _ => rfl

theorem restores_optional {get : σ → Option α} {set : Option α → σ → σ}
    (h : ∀ x, get s = some x → c.decode (g (c.encode x)) = .ok x ∧ g (c.encode x) ≠ .null) :
    (optional name c get set).Restores g s (set (get s)) := by
  intro t
  cases hs : get s with
  | none => simp only [restore, optional, hs, Option.map_none]
  | some x =>
    obtain ⟨decode, ne_null⟩ := h x hs
    simp only [restore, optional, hs, Option.map_some, decodeOption_eq ne_null, decode, Except.map]

end Field

namespace Codec.Survives

variable {name : String} {c : Codec α}

theorem required (h : c.Survives g) {get : σ → α} {set : α → σ → σ} :
    (Field.required name c get set).Restores g s (set (get s)) :=
  Field.restores_required (h.decode _)

theorem defaulted (h : c.Survives g) {default : α} {get : σ → α} {set : α → σ → σ} :
    (Field.defaulted name c default get set).Restores g s (set (get s)) :=
  Field.restores_defaulted (h.decode _)

theorem optional (h : c.Survives g) {get : σ → Option α} {set : Option α → σ → σ} :
    (Field.optional name c get set).Restores g s (set (get s)) :=
  Field.restores_optional fun x _ => ⟨h.decode x, h.ne_null x⟩

theorem nullable (h : c.Survives g) {get : σ → Option α} {set : Option α → σ → σ} :
    (Field.nullable name c get set).Restores g s (set (get s)) :=
  have base : (Field.optional name c get set).Restores g s (set (get s)) := h.optional
  base

end Codec.Survives

namespace Record

variable {r : Record σ} {entries : List (String × Json)}

/-! ## The two passes -/

/-- A field with what reading it back does. -/
abbrev Row (σ : Type) := Field σ × (σ → σ)

/-- The reader restores every row, and finds among the entries what was written. -/
def Restored (g : Json → Json) (s : σ) (entries : List (String × Json)) (rows : List (Row σ)) : Prop :=
  ∀ row ∈ rows, row.1.Restores g s row.2 ∧ entries.lookup row.1.name = (row.1.encode s).map g

variable {rows : List (Row σ)}

theorem Restored.cons {row : Row σ} (h : Restored g s entries (row :: rows)) :
    (row.1.Restores g s row.2 ∧ entries.lookup row.1.name = (row.1.encode s).map g) ∧
      Restored g s entries rows :=
  List.forall_mem_cons.1 h

theorem readPresent_eq (h : Restored g s entries rows) (t : σ) :
    readPresent entries (rows.map Prod.fst) t =
      .ok ((rows.filter fun row => (row.1.encode s).isSome).foldl (fun t row => row.2 t) t) := by
  induction rows generalizing t with
  | nil => rfl
  | cons row rows ih =>
    obtain ⟨⟨restores, found⟩, hrows⟩ := h.cons
    have put := restores t
    rw [List.map_cons, readPresent, found]
    cases hv : row.1.encode s with
    | none => exact (ih hrows t).trans (by simp [hv])
    | some v =>
      simp only [Field.restore, hv] at put
      simp only [Option.map_some, put, bind, Except.bind]
      exact (ih hrows _).trans (by simp [hv])

theorem fillMissing_eq (h : Restored g s entries rows) (t : σ) :
    fillMissing entries (rows.map Prod.fst) t =
      .ok ((rows.filter fun row => !(row.1.encode s).isSome).foldl (fun t row => row.2 t) t) := by
  induction rows generalizing t with
  | nil => rfl
  | cons row rows ih =>
    obtain ⟨⟨restores, found⟩, hrows⟩ := h.cons
    have put := restores t
    rw [List.map_cons, fillMissing, found]
    cases hv : row.1.encode s with
    | none =>
      simp only [Field.restore, hv] at put
      simp only [Option.map_none, put, bind, Except.bind]
      exact (ih hrows _).trans (by simp [hv])
    | some v => exact (ih hrows t).trans (by simp [hv])

theorem decodeEntries_eq (fields : rows.map Prod.fst = r.fields) (h : Restored g s entries rows)
    (comm : ∀ p ∈ rows, ∀ q ∈ rows, ∀ t, p.2 (q.2 t) = q.2 (p.2 t)) :
    r.decodeEntries entries = .ok (rows.foldl (fun t row => row.2 t) r.blank) := by
  have byName : r.fieldsByName.Perm (rows.map Prod.fst) := fields ▸ List.mergeSort_perm _ _
  obtain ⟨sorted, perm, hsorted⟩ := exists_perm_of_perm_map byName
  have sortedRestored : Restored g s entries sorted := fun row hrow => h row (perm.mem_iff.1 hrow)
  have first := readPresent_eq sortedRestored r.blank
  have second := fillMissing_eq h
    ((sorted.filter fun row => (row.1.encode s).isSome).foldl (fun t row => row.2 t) r.blank)
  have all : ((sorted.filter fun row => (row.1.encode s).isSome) ++
      rows.filter fun row => !(row.1.encode s).isSome).Perm rows :=
    ((perm.filter _).append_right _).trans (List.filter_append_perm _ rows)
  rw [decodeEntries, ← hsorted, ← fields, first]
  refine second.trans ?_
  rw [← List.foldl_append, all.foldl_eq']
  exact fun p hp q hq t => (comm q (all.mem_iff.1 hq) p (all.mem_iff.1 hp) t)

/-! ## Reading back -/

theorem mem_entries {e : String × Json} :
    e ∈ r.entries s ↔ ∃ f ∈ r.fields, f.name = e.1 ∧ f.encode s = some e.2 := by
  simp only [entries, List.mem_filterMap, Option.map_eq_some_iff, Prod.ext_iff]
  refine exists_congr fun f => and_congr_right fun _ => ?_
  constructor
  · rintro ⟨v, hv, hname, rfl⟩
    exact ⟨hname, hv⟩
  · rintro ⟨hname, hv⟩
    exact ⟨e.2, hv, hname, rfl⟩

theorem distinctKeys_entries (names : (r.fields.map (·.name)).Nodup) (s : σ) :
    DistinctKeys (r.entries s) := by
  rw [List.Nodup, List.pairwise_map] at names
  rw [DistinctKeys, List.Nodup, List.pairwise_map, entries, List.pairwise_filterMap]
  refine names.imp fun {f f'} hne e he e' he' => ?_
  obtain ⟨_, -, rfl⟩ := Option.map_eq_some_iff.1 he
  obtain ⟨_, -, rfl⟩ := Option.map_eq_some_iff.1 he'
  exact hne

theorem lookup_entries (names : (r.fields.map (·.name)).Nodup) {f : Field σ} (hf : f ∈ r.fields) :
    (r.entries s).lookup f.name = f.encode s := by
  ext v
  rw [lookup_eq_some_iff (distinctKeys_entries names s), mem_entries]
  constructor
  · rintro ⟨f', hf', hname, hv⟩
    exact List.inj_on_of_nodup_map names hf' hf hname ▸ hv
  · exact fun hv => ⟨f, hf, rfl, hv⟩

/-- The fields of a record, each with what reading it back does, and no two of them in each other's
way. -/
structure RestoredBy (r : Record σ) (g : Json → Json) (s : σ) (puts : List (σ → σ)) : Prop where
  names : (r.fields.map (·.name)).Nodup
  restores : List.Forall₂ (Field.Restores g s) r.fields puts
  independent : puts.Pairwise fun p q => ∀ t, p (q t) = q (p t)

/-- **A record reads back by its fields**, from its entries among others and in any order. -/
theorem decode_entries {puts : List (σ → σ)} (h : r.RestoredBy g s puts) (hg : Json.Reorders g)
    (distinct : DistinctKeys entries)
    (found : ∀ f ∈ r.fields, entries.lookup f.name = f.encode s) :
    r.codec.decode (g (.obj entries)) = .ok (puts.foldl (fun t put => put t) r.blank) := by
  obtain ⟨reordered, heq, perm⟩ := hg.obj distinct
  have looked (key : String) : reordered.reverse.lookup key = (entries.lookup key).map g := by
    rw [lookup_perm ((distinct.mapValues g).perm perm.symm) reordered.reverse_perm.symm,
      lookup_perm (distinct.mapValues g) perm.symm, lookup_mapValues]
  obtain ⟨length, restores⟩ := List.forall₂_iff_zip.1 h.restores
  have fields : (r.fields.zip puts).map Prod.fst = r.fields := List.map_fst_zip length.le
  have values : (r.fields.zip puts).map Prod.snd = puts := List.map_snd_zip length.ge
  have restored : Restored g s reordered.reverse (r.fields.zip puts) := fun row hrow =>
    ⟨restores hrow, by rw [looked, found _ (List.of_mem_zip hrow).1]⟩
  have symm : Std.Symm fun p q : σ → σ => ∀ t, p (q t) = q (p t) := ⟨fun _ _ h t => (h t).symm⟩
  have comm := h.independent.forall_of_forall fun _ _ _ => rfl
  have read := decodeEntries_eq fields restored fun p hp q hq =>
    comm (List.of_mem_zip hp).2 (List.of_mem_zip hq).2
  have folded : (r.fields.zip puts).foldl (fun t row => row.2 t) r.blank =
      ((r.fields.zip puts).map Prod.snd).foldl (fun t put => put t) r.blank := by
    rw [List.foldl_map]
  rw [heq]
  exact read.trans (congrArg _ (folded.trans (by rw [values])))

theorem decode_encode {puts : List (σ → σ)} (h : r.RestoredBy g s puts) (hg : Json.Reorders g) :
    r.codec.decode (g (r.codec.encode s)) = .ok (puts.foldl (fun t put => put t) r.blank) :=
  decode_entries h hg (distinctKeys_entries h.names s) fun _ hf => lookup_entries h.names hf

/-- **A record reads back** if its fields, put into the blank record, give the record again. -/
theorem survives_record (hg : Json.Reorders g)
    (h : ∀ s, ∃ puts, r.RestoredBy g s puts ∧ puts.foldl (fun t put => put t) r.blank = s) :
    r.codec.Survives g where
  decode s := by
    obtain ⟨puts, restored, all⟩ := h s
    rw [decode_encode restored hg, all]
  ne_null s := by
    obtain ⟨puts, restored, -⟩ := h s
    exact hg.obj_ne_null (distinctKeys_entries restored.names s)

theorem normalize_encode_congr {t : σ}
    (h : ∀ f ∈ r.fields, (f.encode s).map Json.normalize = (f.encode t).map Json.normalize) :
    (r.codec.encode s).normalize = (r.codec.encode t).normalize := by
  have mapped (u : σ) : mapValues Json.normalize (r.entries u) =
      r.fields.filterMap fun f => ((f.encode u).map Json.normalize).map fun v => (f.name, v) := by
    rw [mapValues, entries, List.map_filterMap]
    simp only [Option.map_map]
    rfl
  change (Json.obj (r.entries s)).normalize = (Json.obj (r.entries t)).normalize
  rw [Json.normalize_obj, Json.normalize_obj, mapped, mapped]
  exact congrArg _ (congrArg _ (List.filterMap_congr fun f hf => by rw [h f hf]))

end Record

end ReleaseControl
