import ReleaseControl.Number.Double
import ReleaseControl.Number.Whole
import ReleaseControl.Table

/-!
# JSON values

Values as they are written down: an object is its list of entries, in the order given and with
repeated keys. Two readings of an object that matter elsewhere are defined on that list.

* `Json.normalize`: every object sorted by key, the last of several equal keys kept.
* `Json.depth`: how deeply arrays and objects are nested.
-/

namespace ReleaseControl

/-- A JSON value. A whole number that fits in 64 bits, signed or not, is kept apart from a double
of the same value. -/
inductive Json where
  | null
  | bool (b : Bool)
  | int (n : Whole)
  | double (x : Double)
  | str (s : String)
  | arr (items : List Json)
  | obj (entries : List (String × Json))
deriving Inhabited

namespace Json

mutual

/-- The value with every object sorted by key, the last of several equal keys kept. -/
def normalize : Json → Json
  | .arr items => .arr (normalizeItems items)
  | .obj entries => .obj (sortEntries (normalizeEntries entries))
  | .null => .null
  | .bool b => .bool b
  | .int n => .int n
  | .double x => .double x
  | .str s => .str s

/-- The items of an array, each normalized. -/
def normalizeItems : List Json → List Json
  | [] => []
  | v :: rest => v.normalize :: normalizeItems rest

/-- The entries of an object, each value normalized. -/
def normalizeEntries : List (String × Json) → List (String × Json)
  | [] => []
  | (k, v) :: rest => (k, v.normalize) :: normalizeEntries rest

end

mutual

/-- The number of arrays and objects around the innermost one, itself counted. -/
def depth : Json → Nat
  | .arr items => itemsDepth items + 1
  | .obj entries => entriesDepth entries + 1
  | _ => 0

/-- The greatest depth among the items of an array. -/
def itemsDepth : List Json → Nat
  | [] => 0
  | v :: rest => max v.depth (itemsDepth rest)

/-- The greatest depth among the values of an object. -/
def entriesDepth : List (String × Json) → Nat
  | [] => 0
  | (_, v) :: rest => max v.depth (entriesDepth rest)

end

/-- The value of a key, the last one when the key is repeated; `null` when the value is no object
or has no such key. -/
def field (key : String) : Json → Json
  | .obj entries => (entries.reverse.lookup key).getD .null
  | _ => .null

end Json

end ReleaseControl
