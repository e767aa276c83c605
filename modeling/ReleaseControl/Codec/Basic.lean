import ReleaseControl.Text.Visible

/-!
# Codecs

A codec writes a value as JSON and reads it back.

* `DecodeError`: why a JSON value does not have the shape that is wanted, with its `message`.
* `Shape`: the outline of what a codec reads, for notations whose scalars carry no type.
* `Codec`: the two directions, and `Codec.Lawful`: what is written reads back.
* `Codec.string`, `Codec.bool`, `Codec.int64`, `Codec.int32`, `Codec.json`, `Codec.list`,
  `Codec.table`, `Codec.enumeration`: codecs of the values that records are made of.
-/

namespace ReleaseControl

/-! ## Errors -/

/-- Why a JSON value cannot be read. -/
inductive DecodeError where
  /-- A record lacks a field that it has to have. -/
  | missingField (name : String)
  /-- A name is none of those of an enumeration. -/
  | unknownVariant (found : String) (known : List String)
  /-- A value is of another kind than the one wanted. -/
  | invalidType (found : Json) (expected : String)
  /-- A value is of the right kind but not among those wanted. -/
  | invalidValue (found : Json) (expected : String)
  /-- A record has a field twice. -/
  | repeatedField (name : String)
  /-- A list has the wrong number of items. -/
  | invalidLength (length : Nat) (expected : String)
  /-- A text does not have the format wanted. -/
  | malformed (cause : String)
deriving Inhabited

def Json.describe : Json → String
  | .null => "null"
  | .bool b => "boolean `" ++ (if b then "true" else "false") ++ "`"
  | .int n => "integer `" ++ String.ofList (intChars n.value) ++ "`"
  | .double x => "floating point `" ++ String.ofList x.chars ++ "`"
  | .str s => "string " ++ visibleQuote s
  | .arr _ => "sequence"
  | .obj _ => "map"

def DecodeError.message : DecodeError → String
  | .missingField name => "missing field `" ++ name ++ "`"
  | .repeatedField name => "duplicate field `" ++ name ++ "`"
  | .unknownVariant found known =>
    "unknown variant `" ++ found ++ "`, expected one of "
      ++ String.intercalate ", " (known.map fun name => "`" ++ name ++ "`")
  | .invalidType found expected => "invalid type: " ++ found.describe ++ ", expected " ++ expected
  | .invalidValue found expected => "invalid value: " ++ found.describe ++ ", expected " ++ expected
  | .invalidLength length expected =>
    "invalid length " ++ String.ofList (Nat.toDigits 10 length) ++ ", expected " ++ expected
  | .malformed cause => cause

/-! ## Codecs -/

/-- The outline of what a codec reads. -/
inductive Shape where
  /-- Any text, points in time among it. -/
  | text
  /-- A name of an enumeration. -/
  | name
  /-- True or false. -/
  | truth
  /-- A whole number. -/
  | whole
  /-- Any value. -/
  | free
  /-- A value or none. -/
  | optional (shape : Shape)
  /-- A list of values. -/
  | list (shape : Shape)
  /-- Values by key. -/
  | table (shape : Shape)
  /-- A record with named fields; one that is not `lenient` refuses a repeated field and may also
  be written as the list of its fields' values. -/
  | record (lenient : Bool) (fields : List (String × Shape))
deriving Inhabited

/-- A way to write values as JSON and to read them back. -/
structure Codec (α : Type) where
  shape : Shape
  encode : α → Json
  decode : Json → Except DecodeError α

namespace Codec

variable {α : Type}

/-- What the codec writes it reads back. -/
def Lawful (c : Codec α) : Prop := ∀ x, c.decode (c.encode x) = .ok x

/-! ### Scalars -/

def string : Codec String where
  shape := .text
  encode := .str
  decode
    | .str s => .ok s
    | v => .error (.invalidType v "a string")

def bool : Codec Bool where
  shape := .truth
  encode := .bool
  decode
    | .bool b => .ok b
    | v => .error (.invalidType v "a boolean")

/-- A whole number from `low` up to but not including `high`, named `expected` in messages. -/
def decodeWhole (expected : String) (low high : Int) : Json → Except DecodeError Int
  | .int n =>
    if low ≤ n.value ∧ n.value < high then .ok n.value else .error (.invalidValue (.int n) expected)
  | v => .error (.invalidType v expected)

def int64 : Codec Int64 where
  shape := .whole
  encode n := .int (.ofInt64 n)
  decode v := (decodeWhole "i64" (-0x8000000000000000) 0x8000000000000000 v).map Int64.ofInt

def int32 : Codec Int32 where
  shape := .whole
  encode n := .int (.ofInt32 n)
  decode v := (decodeWhole "i32" (-0x80000000) 0x80000000 v).map Int32.ofInt

def json : Codec Json where
  shape := .free
  encode v := v
  decode v := .ok v

/-! ### Collections -/

/-- Every item read, the first error reported. -/
def decodeItems (c : Codec α) : List Json → Except DecodeError (List α)
  | [] => .ok []
  | v :: rest => do
    let x ← c.decode v
    let xs ← decodeItems c rest
    return x :: xs

def list (c : Codec α) : Codec (List α) where
  shape := .list c.shape
  encode xs := .arr (xs.map c.encode)
  decode
    | .arr items => c.decodeItems items
    | v => .error (.invalidType v "a sequence")

/-- Every value of a list of entries read, the first error reported. -/
def decodeEntries (c : Codec α) : List (String × Json) → Except DecodeError (List (String × α))
  | [] => .ok []
  | (k, v) :: rest => do
    let x ← c.decode v
    let xs ← decodeEntries c rest
    return (k, x) :: xs

/-- Tables, read in the order of their keys. -/
def table (c : Codec α) : Codec (Table String α) where
  shape := .table c.shape
  encode t := .obj (t.entries.map fun (k, x) => (k, c.encode x))
  decode
    | .obj entries => (c.decodeEntries (sortEntries entries)).map Table.ofList
    | v => .error (.invalidType v "a map")

/-! ### Enumerations -/

/-- The value of a name among those of an enumeration. -/
def decodeName (all : List α) (name : α → String) (found : String) : Except DecodeError α :=
  match all.find? fun x => name x == found with
  | some x => .ok x
  | none => .error (.unknownVariant found (all.map name))

/-- Values that are written as names. A name may also be read as the key of an object whose only
value is `null`. -/
def enumeration (all : List α) (name : α → String) : Codec α where
  shape := .name
  encode x := .str (name x)
  decode
    | .str s => decodeName all name s
    | .obj [(k, .null)] => decodeName all name k
    | .obj [(k, v)] => do
      let _ ← decodeName all name k
      .error (.invalidType v "unit")
    | .obj entries => .error (.invalidValue (.obj entries) "map with a single key")
    | v => .error (.invalidType v "string or map")

end Codec

end ReleaseControl
