import ReleaseControl.Json.Text
import ReleaseControl.Proofs.Table.Sorting

/-!
# Keys of objects

* `Json.KeysDistinct`: no object in a value has a key twice.
* `Json.InKeyOrder`, **`InKeyOrder.normalize_eq`**: values in key order stay as they are.
-/

namespace ReleaseControl

namespace Json

/-! ## Induction -/

/-- What holds of a value if it holds of all items and entries in it. -/
@[elab_as_elim]
theorem induction {P : Json → Prop} (null : P .null) (bool : ∀ b, P (.bool b)) (int : ∀ n, P (.int n))
    (double : ∀ x, P (.double x)) (str : ∀ s, P (.str s))
    (arr : ∀ items, (∀ v ∈ items, P v) → P (.arr items))
    (obj : ∀ entries : List (String × Json), (∀ e ∈ entries, P e.2) → P (.obj entries)) (v : Json) :
    P v :=
  @Json.rec P (fun items => ∀ v ∈ items, P v) (fun entries => ∀ e ∈ entries, P e.2) (fun e => P e.2)
    null bool int double str arr obj (fun _ h => absurd h List.not_mem_nil)
    (fun _ _ hv hitems _ hw => (List.mem_cons.1 hw).elim (fun h => h ▸ hv) (hitems _))
    (fun _ h => absurd h List.not_mem_nil)
    (fun _ _ he hentries _ hf => (List.mem_cons.1 hf).elim (fun h => h ▸ he) (hentries _))
    (fun _ _ hv => hv) v

/-! ## Distinct keys -/

/-- No object in a value has a key twice. -/
inductive KeysDistinct : Json → Prop
  | null : KeysDistinct .null
  | bool (b : Bool) : KeysDistinct (.bool b)
  | int (n : Whole) : KeysDistinct (.int n)
  | double (x : Double) : KeysDistinct (.double x)
  | str (s : String) : KeysDistinct (.str s)
  | arr {items : List Json} (h : ∀ v ∈ items, KeysDistinct v) : KeysDistinct (.arr items)
  | obj {entries : List (String × Json)} (distinct : DistinctKeys entries)
      (h : ∀ e ∈ entries, KeysDistinct e.2) : KeysDistinct (.obj entries)

section Constructors

variable {items : List Json} {entries : List (String × Json)}

attribute [simp] KeysDistinct.null KeysDistinct.bool KeysDistinct.int KeysDistinct.double
  KeysDistinct.str

@[simp] theorem keysDistinct_arr : (arr items).KeysDistinct ↔ ∀ v ∈ items, v.KeysDistinct :=
  ⟨fun h => by cases h; assumption, .arr⟩

@[simp] theorem keysDistinct_obj : (obj entries).KeysDistinct ↔
    DistinctKeys entries ∧ ∀ e ∈ entries, e.2.KeysDistinct :=
  ⟨fun h => by cases h; constructor <;> assumption, fun h => .obj h.1 h.2⟩

end Constructors

/-! ## Normalizing -/

theorem normalizeItems_eq_map (items : List Json) : normalizeItems items = items.map normalize := by
  induction items with
  | nil => rfl
  | cons v items ih => rw [normalizeItems, ih, List.map_cons]

theorem normalizeEntries_eq_mapValues (entries : List (String × Json)) :
    normalizeEntries entries = mapValues normalize entries := by
  induction entries with
  | nil => rfl
  | cons e entries ih =>
    obtain ⟨k, v⟩ := e
    rw [normalizeEntries, ih]
    rfl

theorem normalize_arr (items : List Json) : (arr items).normalize = .arr (items.map normalize) := by
  rw [normalize, normalizeItems_eq_map]

theorem normalize_obj (entries : List (String × Json)) :
    (obj entries).normalize = .obj (sortEntries (mapValues normalize entries)) := by
  rw [normalize, normalizeEntries_eq_mapValues]

theorem exists_of_mem_normalize {entries : List (String × Json)} {e : String × Json}
    (h : e ∈ sortEntries (mapValues normalize entries)) : ∃ f ∈ entries, e.2 = f.2.normalize := by
  obtain ⟨⟨k, v⟩, hf, rfl⟩ := List.mem_map.1 (mem_of_mem_sortEntries h)
  exact ⟨(k, v), hf, rfl⟩

/-! ## Values in key order -/

/-- Every object in a value has its keys in increasing order. -/
inductive InKeyOrder : Json → Prop
  | null : InKeyOrder .null
  | bool (b : Bool) : InKeyOrder (.bool b)
  | int (n : Whole) : InKeyOrder (.int n)
  | double (x : Double) : InKeyOrder (.double x)
  | str (s : String) : InKeyOrder (.str s)
  | arr {items : List Json} (h : ∀ v ∈ items, InKeyOrder v) : InKeyOrder (.arr items)
  | obj {entries : List (String × Json)} (sorted : SortedByKey entries)
      (h : ∀ e ∈ entries, InKeyOrder e.2) : InKeyOrder (.obj entries)

theorem InKeyOrder.keysDistinct {v : Json} (h : v.InKeyOrder) : v.KeysDistinct := by
  induction h with
  | null | bool | int | double | str => constructor
  | arr _ ih => exact .arr ih
  | obj sorted _ ih => exact .obj sorted.distinctKeys ih

theorem inKeyOrder_normalize (v : Json) : v.normalize.InKeyOrder := by
  induction v using Json.induction with
  | null | bool | int | double | str => constructor
  | arr items ih =>
    rw [normalize_arr]
    refine .arr fun w hw => ?_
    obtain ⟨v, hv, rfl⟩ := List.mem_map.1 hw
    exact ih v hv
  | obj entries ih =>
    rw [normalize_obj]
    refine .obj (sortedByKey_sortEntries _) fun e he => ?_
    obtain ⟨f, hf, hef⟩ := exists_of_mem_normalize he
    exact hef ▸ ih f hf

/-- **A value in key order is its own normal form.** -/
theorem InKeyOrder.normalize_eq {v : Json} (h : v.InKeyOrder) : v.normalize = v := by
  induction h with
  | null | bool | int | double | str => rfl
  | arr _ ih => rw [normalize_arr, (List.map_congr_left ih).trans (List.map_id _)]
  | obj sorted _ ih => rw [normalize_obj, mapValues_eq_self ih, sortEntries_of_sorted sorted]

@[simp] theorem normalize_normalize (v : Json) : v.normalize.normalize = v.normalize :=
  (inKeyOrder_normalize v).normalize_eq

end Json

end ReleaseControl
