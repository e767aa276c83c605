import ReleaseControl.Codec.Basic

/-!
# Repeated fields

Where a notation keeps the entries of an object as they are written, a record must not have a field
twice. Fields that the record does not know, tables and lenient records may repeat.

* `Shape.repeated?`: the first field that is repeated.
* `Codec.decodeOnce`: reading that refuses repeated fields.
-/

namespace ReleaseControl

/-- The shape of a field of a record. -/
def Shape.field? (name : String) : Shape → Option Shape
  | .record _ fields => fields.lookup name
  | .optional shape => field? name shape
  | _ => none

/-- The shape of the items or values of a collection. -/
def Shape.item? : Shape → Option Shape
  | .list shape => some shape
  | .table shape => some shape
  | .optional shape => item? shape
  | _ => none

def Shape.isStrict : Shape → Bool
  | .record lenient _ => !lenient
  | .optional shape => shape.isStrict
  | _ => false

mutual

/-- The first field of a record in a value that is there twice. -/
def Json.repeated? (shape : Shape) : Json → Option String
  | .arr items => itemsRepeated? shape.item? items
  | .obj entries => entriesRepeated? shape [] entries
  | _ => none

/-- The first repeated field among the items of an array. -/
def itemsRepeated? (shape : Option Shape) : List Json → Option String
  | [] => none
  | v :: rest => ((shape.bind fun s => v.repeated? s)).or (itemsRepeated? shape rest)

/-- The first repeated field among the entries of an object, behind entries of the given keys. -/
def entriesRepeated? (shape : Shape) (seen : List String) : List (String × Json) → Option String
  | [] => none
  | (k, v) :: rest =>
    let known := shape.field? k
    if shape.isStrict && known.isSome && seen.contains k then some k
    else
      ((known.or shape.item?).bind fun s => v.repeated? s).or
        (entriesRepeated? shape (k :: seen) rest)

end

/-- Reads a value whose records must not repeat a field. -/
def Codec.decodeOnce {α : Type} (c : Codec α) (v : Json) : Except DecodeError α :=
  match v.repeated? c.shape with
  | some name => .error (.repeatedField name)
  | none => c.decode v

end ReleaseControl
