import ReleaseControl.Codec.Basic

/-!
# Records

A record codec is a table of its fields. Writing lists the fields in the order of the table and
leaves out those that are unset. Reading takes the fields in the order of their names and reports
the first that is wrong; only then it reports the first missing field, in the order of the table.
A record may also be read from the list of its fields' values.

* `Field.required`, `Field.defaulted`, `Field.optional`, `Field.nullable`: the four kinds of field.
* `Record.codec`: the codec of a table of fields.
-/

namespace ReleaseControl

/-- A field of a record: how it is written, read into a record, and filled in when it is missing. -/
structure Field (σ : Type) where
  name : String
  shape : Shape
  /-- What is written for the field, nothing when it is unset. -/
  encode : σ → Option Json
  /-- The record with the field read from a value. -/
  decode : Json → σ → Except DecodeError σ
  /-- The record with the field missing by name. -/
  missing : σ → Except DecodeError σ
  /-- The record with the field missing at the end of a list, if it may be. -/
  missingAtEnd : σ → Option σ

namespace Field

variable {σ α : Type}

/-- A field that has to be there. -/
def required (name : String) (c : Codec α) (get : σ → α) (set : α → σ → σ) : Field σ where
  name := name
  shape := c.shape
  encode s := some (c.encode (get s))
  decode v s := (c.decode v).map (set · s)
  missing _ := .error (.missingField name)
  missingAtEnd _ := none

/-- A field that is always written and has a value of its own when it is missing. -/
def defaulted (name : String) (c : Codec α) (default : α) (get : σ → α) (set : α → σ → σ) :
    Field σ where
  name := name
  shape := c.shape
  encode s := some (c.encode (get s))
  decode v s := (c.decode v).map (set · s)
  missing s := .ok (set default s)
  missingAtEnd s := some (set default s)

/-- Reads `null` as nothing and all else with the codec. -/
def decodeOption (c : Codec α) : Json → Except DecodeError (Option α)
  | .null => .ok none
  | v => (c.decode v).map some

/-- A field that may be unset; `null` and a missing field mean the same. -/
def optional (name : String) (c : Codec α) (get : σ → Option α) (set : Option α → σ → σ) :
    Field σ where
  name := name
  shape := .optional c.shape
  encode s := (get s).map c.encode
  decode v s := (decodeOption c v).map (set · s)
  missing s := .ok (set none s)
  missingAtEnd s := some (set none s)

/-- A field that may be unset, but not missing at the end of a list. -/
def nullable (name : String) (c : Codec α) (get : σ → Option α) (set : Option α → σ → σ) :
    Field σ :=
  { optional name c get set with missingAtEnd := fun _ => none }

end Field

/-- A record: its name, its fields in order, and a record to start reading from. A lenient record
is read from objects only, by whatever notation, and a repeated field does no harm. -/
structure Record (σ : Type) where
  name : String
  fields : List (Field σ)
  blank : σ
  lenient : Bool := false

namespace Record

variable {σ : Type}

/-- What is expected where the record is read. -/
def expected (r : Record σ) : String := if r.lenient then r.name else "struct " ++ r.name

/-- What is expected where the record is read from the list of its fields' values. -/
def expectedItems (r : Record σ) : String :=
  r.expected ++ " with " ++ String.ofList (Nat.toDigits 10 r.fields.length)
    ++ (if r.fields.length = 1 then " element" else " elements")

def entries (r : Record σ) (s : σ) : List (String × Json) :=
  r.fields.filterMap fun f => (f.encode s).map fun v => (f.name, v)

/-- The fields present among the entries read into a record, in the order of the list. -/
def readPresent (entries : List (String × Json)) : List (Field σ) → σ → Except DecodeError σ
  | [], s => .ok s
  | f :: rest, s => do
    match entries.lookup f.name with
    | some v => readPresent entries rest (← f.decode v s)
    | none => readPresent entries rest s

/-- The fields missing among the entries filled in, in the order of the list. -/
def fillMissing (entries : List (String × Json)) : List (Field σ) → σ → Except DecodeError σ
  | [], s => .ok s
  | f :: rest, s => do
    match entries.lookup f.name with
    | some _ => fillMissing entries rest s
    | none => fillMissing entries rest (← f.missing s)

/-- The fields in the order of their names. -/
def fieldsByName (r : Record σ) : List (Field σ) := r.fields.mergeSort fun f g => f.name ≤ g.name

/-- The record of a list of entries. -/
def decodeEntries (r : Record σ) (entries : List (String × Json)) : Except DecodeError σ := do
  let s ← readPresent entries r.fieldsByName r.blank
  fillMissing entries r.fields s

/-- The record of a list of values, one for each field in order; `index` counts those before. -/
def decodeItems (r : Record σ) (index : Nat) :
    List (Field σ) → List Json → σ → Except DecodeError σ
  | [], [], s => .ok s
  | [], _ :: rest, _ =>
    .error (.invalidLength (index + rest.length + 1) "fewer elements in array")
  | f :: fields, v :: rest, s => do decodeItems r (index + 1) fields rest (← f.decode v s)
  | f :: fields, [], s =>
    match f.missingAtEnd s with
    | some s => decodeItems r (index + 1) fields [] s
    | none => .error (.invalidLength index r.expectedItems)

def codec (r : Record σ) : Codec σ where
  shape := .record r.lenient (r.fields.map fun f => (f.name, f.shape))
  encode s := .obj (r.entries s)
  decode
    | .obj entries => r.decodeEntries entries.reverse
    | .arr items =>
      if r.lenient then .error (.invalidType (.arr items) r.expected)
      else r.decodeItems 0 r.fields items r.blank
    | v => .error (.invalidType v r.expected)

end Record

end ReleaseControl
