import ReleaseControl.Proofs.Instant.RoundTrip
import ReleaseControl.Proofs.Json.Keys

/-!
# What survives on the way

On its way from writer to reader a value may have the entries of its objects reordered: text in canonical
form sorts them.

* `Json.Reorders`: a rewriting of values that at most reorders the entries of objects.
* `Codec.Survives`: what the codec writes reads back and is not `null`, in spite of a rewriting.
-/

namespace ReleaseControl

/-! ## Rewritings -/

/-- A rewriting of values that keeps leaves and arrays and at most reorders the entries of objects. -/
structure Json.Reorders (g : Json → Json) : Prop where
  bool (b : Bool) : g (.bool b) = .bool b
  int (n : Whole) : g (.int n) = .int n
  str (s : String) : g (.str s) = .str s
  arr (items : List Json) : g (.arr items) = .arr (items.map g)
  obj {entries : List (String × Json)} (h : DistinctKeys entries) :
    ∃ reordered, g (.obj entries) = .obj reordered ∧ reordered.Perm (mapValues g entries)

theorem Json.reorders_id : Json.Reorders id where
  bool _ := rfl
  int _ := rfl
  str _ := rfl
  arr items := by rw [List.map_id]; rfl
  obj {entries} _ := ⟨entries, rfl, .of_eq (mapValues_eq_self fun _ _ => rfl).symm⟩

theorem Json.reorders_normalize : Json.Reorders Json.normalize where
  bool _ := by rw [Json.normalize]
  int _ := by rw [Json.normalize]
  str _ := by rw [Json.normalize]
  arr := Json.normalize_arr
  obj h := ⟨_, Json.normalize_obj _, perm_sortEntries (h.mapValues _)⟩

theorem Json.Reorders.obj_ne_null {g : Json → Json} (hg : Json.Reorders g)
    {entries : List (String × Json)} (h : DistinctKeys entries) : g (.obj entries) ≠ .null := by
  obtain ⟨reordered, heq, -⟩ := hg.obj h
  rw [heq]
  exact nofun

namespace Codec

variable {α : Type} {g : Json → Json}

/-- What the codec writes reads back and is not `null`, although it has been rewritten. -/
structure Survives (c : Codec α) (g : Json → Json) : Prop where
  decode (x : α) : c.decode (g (c.encode x)) = .ok x
  ne_null (x : α) : g (c.encode x) ≠ .null

theorem Survives.lawful {c : Codec α} (h : c.Survives id) : c.Lawful := h.decode

/-! ## Scalars -/

theorem survives_string (hg : Json.Reorders g) : string.Survives g where
  decode s := by simp only [string, hg.str]
  ne_null s := by rw [string, hg.str]; exact nofun

theorem survives_bool (hg : Json.Reorders g) : bool.Survives g where
  decode b := by simp only [bool, hg.bool]
  ne_null b := by rw [bool, hg.bool]; exact nofun

theorem survives_int64 (hg : Json.Reorders g) : int64.Survives g where
  decode n := by
    have range : -0x8000000000000000 ≤ (Whole.ofInt64 n).value ∧
        (Whole.ofInt64 n).value < 0x8000000000000000 := ⟨n.le_toInt, n.toInt_lt⟩
    simp only [int64, hg.int, decodeWhole, if_pos range, Except.map]
    exact congrArg _ (Int64.ofInt_toInt n)
  ne_null n := by rw [int64, hg.int]; exact nofun

theorem survives_int32 (hg : Json.Reorders g) : int32.Survives g where
  decode n := by
    have range : -0x80000000 ≤ (Whole.ofInt32 n).value ∧ (Whole.ofInt32 n).value < 0x80000000 :=
      ⟨n.le_toInt, n.toInt_lt⟩
    simp only [int32, hg.int, decodeWhole, if_pos range, Except.map]
    exact congrArg _ (Int32.ofInt_toInt n)
  ne_null n := by rw [int32, hg.int]; exact nofun

theorem survives_instant (hg : Json.Reorders g) : instant.Survives g where
  decode t := by simp only [instant, hg.str, Instant.ofText_recordText]
  ne_null t := by rw [instant, hg.str]; exact nofun

theorem survives_enumeration (hg : Json.Reorders g) {all : List α} {name : α → String}
    (h : ∀ x, all.find? (fun y => name y == name x) = some x) :
    (enumeration all name).Survives g where
  decode x := by simp only [enumeration, hg.str, decodeName, h]
  ne_null x := by rw [enumeration, hg.str]; exact nofun

/-! ## Collections -/

variable {c : Codec α}

theorem Survives.decodeItems (h : c.Survives g) (xs : List α) :
    c.decodeItems ((xs.map c.encode).map g) = .ok xs := by
  induction xs with
  | nil => rfl
  | cons x xs ih =>
    rw [List.map_cons, List.map_cons, Codec.decodeItems, h.decode, ih]
    rfl

/-- **A list reads back** if its items do. -/
theorem Survives.list (h : c.Survives g) (hg : Json.Reorders g) : (list c).Survives g where
  decode xs := by
    simp only [Codec.list, hg.arr]
    exact h.decodeItems xs
  ne_null xs := by rw [Codec.list, hg.arr]; exact nofun

theorem Survives.decodeEntries (h : c.Survives g) (entries : List (String × α)) :
    c.decodeEntries (mapValues g (mapValues c.encode entries)) = .ok entries := by
  induction entries with
  | nil => rfl
  | cons e entries ih =>
    obtain ⟨k, x⟩ := e
    change c.decodeEntries ((k, g (c.encode x)) :: mapValues g (mapValues c.encode entries)) = _
    rw [Codec.decodeEntries, h.decode, ih]
    rfl

theorem sortedByKey_mapValues {β : Type} {f : α → β} {l : List (String × α)} :
    SortedByKey (mapValues f l) ↔ SortedByKey l := by
  rw [SortedByKey, mapValues, List.pairwise_map]
  rfl

theorem encode_table (c : Codec α) (t : Table String α) :
    (table c).encode t = .obj (mapValues c.encode t.entries) := rfl

/-- **A table reads back** if its values do: its keys are in order again once they are sorted. -/
theorem Survives.table (h : c.Survives g) (hg : Json.Reorders g) : (table c).Survives g where
  decode t := by
    have sorted : SortedByKey (mapValues g (mapValues c.encode t.entries)) :=
      sortedByKey_mapValues.2 (sortedByKey_mapValues.2 t.sorted)
    obtain ⟨reordered, heq, perm⟩ := hg.obj (sortedByKey_mapValues.2 t.sorted).distinctKeys
    have resorted : sortEntries reordered = mapValues g (mapValues c.encode t.entries) := by
      rw [(sortEntries_eq_iff (sorted.distinctKeys.perm perm.symm) sorted.distinctKeys).2 perm,
        sortEntries_of_sorted sorted]
    rw [encode_table, heq]
    simp only [Codec.table, resorted, h.decodeEntries, Except.map, Table.ofList,
      sortEntries_of_sorted t.sorted]
  ne_null t := by
    rw [encode_table]
    exact hg.obj_ne_null (sortedByKey_mapValues.2 t.sorted).distinctKeys

end Codec

end ReleaseControl
