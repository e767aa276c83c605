import ReleaseControl.Table
import ReleaseControl.Yaml.Token

/-!
# Nodes

A YAML document as a tree. An alias stays in the tree as the number of its anchor, and the document
keeps the nodes of its anchors.

* `Document.ofText?`: the only document of a text.
-/

namespace ReleaseControl.Yaml

/-- A node of a document, with its tag if it has one. -/
inductive Node where
  | scalar (text : String) (style : Style) (tag : Option String)
  | alias (target : Nat)
  | sequence (tag : Option String) (items : List Node)
  | mapping (tag : Option String) (entries : List (Node × Node))
deriving Inhabited

namespace Node

def blank (tag : Option String) : Node := .scalar "" .plain tag

mutual

/-- The number of marks that a node takes: one for a text or an alias, two for a collection. -/
def size : Node → Nat
  | .scalar _ _ _ => 1
  | .alias _ => 1
  | .sequence _ items => itemsSize items + 2
  | .mapping _ entries => entriesSize entries + 2

def itemsSize : List Node → Nat
  | [] => 0
  | n :: rest => n.size + itemsSize rest

/-- The size of all keys and values. -/
def entriesSize : List (Node × Node) → Nat
  | [] => 0
  | (k, v) :: rest => k.size + v.size + entriesSize rest

end

end Node

/-- A document: its root, and the nodes of its anchors by number, the last one first. -/
structure Document where
  root : Node
  targets : List (Nat × Node)

/-! ## Reading -/

/-- How far the tokens of a document have been read. -/
structure Reading where
  tokens : List Token
  handles : Handles := Handles.standard
  /-- The numbers of the anchors by name. -/
  names : Table String Nat := Table.empty
  /-- How many nodes have started that have an anchor. -/
  anchored : Nat := 0
  /-- The nodes with an anchor: how many such nodes start before, the number, the node. -/
  targets : List (Nat × Nat × Node) := []

abbrev Reader := StateT Reading Option

namespace Reader

/-- The next token; none at the end. -/
def peek : Reader (Option Token) := do return (← get).tokens.head?

def skip : Reader Unit := modify fun r => { r with tokens := r.tokens.tail }

/-- The anchor and the tag in front of a node, in any order. -/
def properties : Reader (Option String × Option Tag) := do
  match ← peek with
  | some (.anchor name) =>
    skip
    match ← peek with
    | some (.tag t) => do skip; return (some name, some t)
    | _ => return (some name, none)
  | some (.tag t) =>
    skip
    match ← peek with
    | some (.anchor name) => do skip; return (some name, some t)
    | _ => return (none, some t)
  | _ => return (none, none)

def fullTag : Option Tag → Reader (Option String)
  | some t => do
    match (← get).handles.resolve? t with
    | some s => return some s
    | none => failure
  | none => return none

/-- Notes the anchor of a node that starts: how many such nodes start before, and its number. An
anchor is numbered by the names in use, so the number of a name that is used again may be given to
another name too. -/
def startAnchor : Option String → Reader (Option (Nat × Nat))
  | some name => do
    let r ← get
    let number := r.names.entries.length
    set { r with names := r.names.insert name number, anchored := r.anchored + 1 }
    return some (r.anchored, number)
  | none => return none

def endAnchor (anchor : Option (Nat × Nat)) (n : Node) : Reader Unit :=
  match anchor with
  | some (order, number) => modify fun r => { r with targets := (order, number, n) :: r.targets }
  | none => return

/-- Whether a token ends an item of an unindented sequence. -/
def endsItem : Option Token → Bool
  | some .blockItem | some .key | some .value | some .blockEnd => true
  | _ => false

def endsEntry : Option Token → Bool
  | some .key | some .value | some .blockEnd => true
  | _ => false

mutual

/-- A node. Inside brackets it is no block; as a part of a block entry it may be a sequence that is
not indented. -/
def node (fuel : Nat) (block unindented : Bool) : Reader Node :=
  match fuel with
  | 0 => failure
  | fuel + 1 => do
    match ← peek with
    | some (.alias name) =>
      skip
      match (← get).names.find? name with
      | some number => return .alias number
      | none => failure
    | _ =>
      let (name, tag) ← properties
      let tag ← fullTag tag
      let anchor ← startAnchor name
      let n ← content fuel block unindented (name.isSome || tag.isSome) tag
      endAnchor anchor n
      return n

/-- What follows the anchor and the tag of a node. -/
def content (fuel : Nat) (block unindented mayBeBlank : Bool) (tag : Option String) :
    Reader Node :=
  match fuel with
  | 0 => failure
  | fuel + 1 => do
    match ← peek with
    | some .blockItem =>
      if unindented then return .sequence tag (← unindentedItems fuel)
      else if mayBeBlank then return .blank tag
      else failure
    | some (.scalar text style) => do skip; return .scalar text style tag
    | some .openSequence => do skip; return .sequence tag (← flowItems fuel true)
    | some .openMapping => do skip; return .mapping tag (← flowEntries fuel true)
    | some .blockSequence =>
      if block then do skip; return .sequence tag (← blockItems fuel)
      else if mayBeBlank then return .blank tag
      else failure
    | some .blockMapping =>
      if block then do skip; return .mapping tag (← blockEntries fuel)
      else if mayBeBlank then return .blank tag
      else failure
    | _ => if mayBeBlank then return .blank tag else failure

def blockItems (fuel : Nat) : Reader (List Node) :=
  match fuel with
  | 0 => failure
  | fuel + 1 => do
    match ← peek with
    | some .blockItem =>
      skip
      let n ← match ← peek with
        | some .blockItem | some .blockEnd => pure (.blank none)
        | _ => node fuel true false
      return n :: (← blockItems fuel)
    | some .blockEnd => do skip; return []
    | _ => failure

def unindentedItems (fuel : Nat) : Reader (List Node) :=
  match fuel with
  | 0 => failure
  | fuel + 1 => do
    match ← peek with
    | some .blockItem =>
      skip
      let n ← if endsItem (← peek) then pure (.blank none) else node fuel true false
      return n :: (← unindentedItems fuel)
    | _ => return []

def blockEntries (fuel : Nat) : Reader (List (Node × Node)) :=
  match fuel with
  | 0 => failure
  | fuel + 1 => do
    match ← peek with
    | some .key =>
      skip
      let k ← if endsEntry (← peek) then pure (.blank none) else node fuel true true
      let v ← match ← peek with
        | some .value => do
          skip
          if endsEntry (← peek) then pure (.blank none) else node fuel true true
        | _ => pure (.blank none)
      return (k, v) :: (← blockEntries fuel)
    | some .blockEnd => do skip; return []
    | _ => failure

def flowItems (fuel : Nat) (first : Bool) : Reader (List Node) :=
  match fuel with
  | 0 => failure
  | fuel + 1 => do
    if let some .closeSequence := ← peek then
      skip
      return []
    if !first then
      match ← peek with
      | some .flowItem => skip
      | _ => failure
    match ← peek with
    | some .closeSequence => do skip; return []
    | some .key =>
      skip
      let entry ← flowPair fuel
      return .mapping none [entry] :: (← flowItems fuel false)
    | _ =>
      let n ← node fuel false false
      return n :: (← flowItems fuel false)

/-- The key and the value of an entry within a sequence. A key that is left out takes the token
behind it along. -/
def flowPair (fuel : Nat) : Reader (Node × Node) :=
  match fuel with
  | 0 => failure
  | fuel + 1 => do
    let k ← match ← peek with
      | some .value | some .flowItem | some .closeSequence => do skip; pure (.blank none)
      | _ => node fuel false false
    match ← peek with
    | some .value =>
      skip
      match ← peek with
      | some .flowItem | some .closeSequence => return (k, .blank none)
      | _ => return (k, ← node fuel false false)
    | _ => return (k, .blank none)

def flowEntries (fuel : Nat) (first : Bool) : Reader (List (Node × Node)) :=
  match fuel with
  | 0 => failure
  | fuel + 1 => do
    if let some .closeMapping := ← peek then
      skip
      return []
    if !first then
      match ← peek with
      | some .flowItem => skip
      | _ => failure
    match ← peek with
    | some .closeMapping => do skip; return []
    | some .key =>
      skip
      let k ← match ← peek with
        | some .value | some .flowItem | some .closeMapping => pure (.blank none)
        | _ => node fuel false false
      let v ← match ← peek with
        | some .value => do
          skip
          match ← peek with
          | some .flowItem | some .closeMapping => pure (.blank none)
          | _ => node fuel false false
        | _ => pure (.blank none)
      return (k, v) :: (← flowEntries fuel false)
    | _ =>
      let k ← node fuel false false
      return (k, .blank none) :: (← flowEntries fuel false)

end

/-- The directives in front of a document. -/
def directives : List Token → List Directive × List Token
  | .directive d :: rest =>
    let (ds, rest) := directives rest
    (d :: ds, rest)
  | rest => ([], rest)

/-- Whether a document without a start mark starts with a token. -/
def startsBare : Token → Bool
  | .directive _ | .documentStart => false
  | _ => true

def root (fuel : Nat) : Reader Node := do
  match ← peek with
  | none => return .blank none
  | some t =>
    if startsBare t then node fuel true false
    else
      let (ds, rest) := directives (← get).tokens
      match Handles.ofDirectives? ds, rest with
      | some handles, .documentStart :: rest =>
        modify fun r => { r with tokens := rest, handles := handles }
        match ← peek with
        | none | some (.directive _) | some .documentStart | some .documentEnd =>
          return .blank none
        | _ => node fuel true false
      | _, _ => failure

end Reader

/-- Whether nothing follows a document but marks of its end. -/
def nothingElse (tokens : List Token) : Bool :=
  tokens.all fun
    | .documentEnd => true
    | _ => false

/-- The only document of a text; none when the text is not YAML or holds several documents. -/
def Document.ofText? (s : String) : Option Document := do
  let tokens ← Token.ofText? s
  let (root, r) ← (Reader.root (3 * tokens.length + 3)).run { tokens := tokens }
  if nothingElse r.tokens then
    let latestFirst := r.targets.mergeSort fun a b => b.1 ≤ a.1
    some ⟨root, latestFirst.map fun (_, number, n) => (number, n)⟩
  else none

end ReleaseControl.Yaml
