import ReleaseControl.Codec.Once
import ReleaseControl.Yaml.Node
import ReleaseControl.Yaml.Plain

/-!
# Typed reading

A plain text in YAML may stand for several values, so a node is read for the shape that is wanted.
The result is a JSON value, which a codec reads on.

* `Document.json?`: the value of a document for a shape.
* `Codec.ofYaml?`: what a codec reads from a text.
-/

namespace ReleaseControl

namespace Yaml

/-- How many collections may stand around each other. -/
def maxDepth : Nat := 128

/-- How often aliases may be followed for each mark of a document. -/
def aliasLimit : Nat := 100

/-- Reading that may still follow so many aliases. -/
abbrev Typing := StateT Nat Option

namespace Typing

/-- The node that a node stands for. -/
def target (d : Document) : Node → Typing Node
  | .alias number => do
    match ← get with
    | 0 => failure
    | left + 1 =>
      set left
      match d.targets.lookup number with
      | some n => return n
      | none => failure
  | n => return n

/-- The text of a key or another scalar. -/
def text (d : Document) (n : Node) : Typing String := do
  match ← target d n with
  | .scalar s _ _ => return s
  | _ => failure

/-- Whether a tag is one of those that documents make up. -/
def isLocal (tag : String) : Bool := tag.toList.head? == some '!'

/-- The full text of a tag of the standard. -/
def standardTag (name : String) : String := "tag:yaml.org,2002:" ++ name

/-- Whether a scalar may stand for a value of a standard type: a plain one, and a literal one with
the tag of the type. -/
def standsFor (type : String) (style : Style) (tag : Option String) : Bool :=
  style == .plain || (style == .literal && tag == some (standardTag type))

def isAbsent : Node → Typing Bool
  | .scalar s .plain none => return s = "" || isNullText s
  | .scalar s .plain (some tag) =>
    if tag = standardTag "null" then
      if isNullText s then return true else failure
    else return false
  | _ => return false

/-- The name that a scalar gives of an enumeration: its text, or its tag where it has one of its
own and stands for nothing. -/
def name : Node → Typing Json
  | .scalar s style (some tag) =>
    if isLocal tag then
      if style = .plain ∧ (s = "" ∨ isNullText s = true) then
        return .str (String.ofList (tag.toList.drop 1))
      else failure
    else return .str s
  | .scalar s _ none => return .str s
  | _ => failure

def freeScalar (s : String) (style : Style) (tag : Option String) : Option Json :=
  match tag with
  | none => if style = .plain then freeOfText? s else some (.str s)
  | some tag =>
    if isLocal tag then none
    else if tag = standardTag "bool" then (truthOfText? s).map .bool
    else if tag = standardTag "int" then
      ((wholeOfText? s).filter inWideRange).bind wholeJson?
    else if tag = standardTag "float" then (doubleOfText? s).map (·.json)
    else if tag = standardTag "null" then if isNullText s then some .null else none
    else some (.str s)

/-- The free value of a node, within so many further collections. -/
def free (d : Document) (depth : Nat) (n : Node) : Typing Json := do
  match depth, ← target d n with
  | _, .scalar s style tag => StateT.lift (freeScalar s style tag)
  | depth + 1, .sequence tag items =>
    if tag.any isLocal then failure
    else return .arr (← items.mapM (free d depth))
  | depth + 1, .mapping tag entries =>
    if tag.any isLocal then failure
    else
      return .obj (← entries.mapM fun (k, v) => do
        let k ← text d k
        return (k, ← free d depth v))
  | _, _ => failure

/-- The shape that remains when a value is there. -/
def present : Shape → Shape
  | .optional shape => present shape
  | shape => shape

def mayBeAbsent : Shape → Bool
  | .optional _ => true
  | _ => false

/-- The value of a node for a shape, within so many further collections. Fields that a record does
not know are not looked into. -/
def shaped (d : Document) (depth : Nat) (shape : Shape) (n : Node) : Typing Json := do
  let n ← target d n
  if mayBeAbsent shape && (← isAbsent n) then return .null
  match depth, present shape, n with
  | _, .text, .scalar s _ _ => return .str s
  | _, .name, n => name n
  | _, .truth, .scalar s style tag =>
    if standsFor "bool" style tag then StateT.lift ((truthOfText? s).map .bool) else failure
  | _, .whole, .scalar s style tag =>
    if standsFor "int" style tag then StateT.lift ((wholeOfText? s).bind wholeJson?) else failure
  | depth, .free, n => free d depth n
  | _, .list _, .scalar "" .plain _ => return .arr []
  | depth + 1, .list shape, .sequence _ items =>
    return .arr (← items.mapM (shaped d depth shape))
  | _, .table _, .scalar "" .plain _ => return .obj []
  | depth + 1, .table shape, .mapping _ entries =>
    return .obj (← entries.mapM fun (k, v) => do
      let k ← text d k
      return (k, ← shaped d depth shape v))
  | _, .record _ _, .scalar "" .plain _ => return .obj []
  | depth + 1, .record _ fields, .mapping _ entries =>
    return .obj (← entries.filterMapM fun (k, v) => do
      let k ← text d k
      match fields.lookup k with
      | some shape => return some (k, ← shaped d depth shape v)
      | none => return none)
  | depth + 1, .record false fields, .sequence _ items =>
    if fields.length < items.length then failure
    else
      return .arr (← (fields.zip items).mapM fun ((_, shape), n) => shaped d depth shape n)
  | _, _, _ => failure

end Typing

/-- The value of a document for a shape. -/
def Document.json? (d : Document) (shape : Shape) : Option Json :=
  ((Typing.shaped d maxDepth shape d.root).run (aliasLimit * d.root.size)).map (·.1)

end Yaml

/-- What a codec reads from a YAML text; none when the text is not YAML or does not have the shape
that the codec wants. -/
def Codec.ofYaml? {α : Type} (c : Codec α) (s : String) : Option α := do
  let d ← Yaml.Document.ofText? s
  let v ← d.json? c.shape
  (c.decodeOnce v).toOption

end ReleaseControl
