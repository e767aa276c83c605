import ReleaseControl.Yaml.Tag

/-!
# Tokens

A YAML text as tokens. Indentation appears as the start and the end of blocks. That a text is a key
shows only at the colon behind it: until then its place is remembered, and the tokens of the key are
put in there.

* `Token.ofText?`: the tokens of a text.
-/

namespace ReleaseControl.Yaml

/-- A token of a YAML text. -/
inductive Token where
  | directive (d : Directive)
  | documentStart
  | documentEnd
  | blockSequence
  | blockMapping
  | blockEnd
  | openSequence
  | closeSequence
  | openMapping
  | closeMapping
  | blockItem
  | flowItem
  | key
  | value
  | alias (name : String)
  | anchor (name : String)
  | tag (t : Tag)
  | scalar (text : String) (style : Style)

/-- The place of a token that may turn out to be a key. -/
structure PendingKey where
  /-- How many tokens come before it. -/
  position : Nat
  line : Nat
  column : Nat
  index : Nat
  /-- Whether the text is wrong unless it is a key. -/
  required : Bool

/-- How far a text has been read. -/
structure Lexer where
  /-- The tokens found, the last one first. -/
  tokens : List Token := []
  count : Nat := 0
  /-- The column of the innermost block, one less than zero outside of all blocks. -/
  indent : Int := -1
  /-- The columns of the blocks around it. -/
  outer : List Int := []
  /-- Whether a key may start here. -/
  keyAllowed : Bool := true
  /-- What may turn out to be a key in the innermost brackets. -/
  pending : Option PendingKey := none
  /-- What may turn out to be a key around them, one for each pair of brackets. -/
  pendingOutside : List (Option PendingKey) := []

namespace Lexer

def inFlow (l : Lexer) : Bool := !l.pendingOutside.isEmpty

def push (t : Token) (l : Lexer) : Lexer :=
  { l with tokens := t :: l.tokens, count := l.count + 1 }

/-- One more token, put in after so many of those found. -/
def insertAt (position : Nat) (t : Token) (l : Lexer) : Lexer :=
  let later := l.count - position
  { l with
    tokens := l.tokens.take later ++ t :: l.tokens.drop later
    count := l.count + 1 }

/-! ## Keys -/

/-- The reader after what may be a key has turned out to be none. -/
def dropPending? (l : Lexer) : Option Lexer :=
  match l.pending with
  | some k => if k.required then none else some { l with pending := none }
  | none => some l

/-- The reader at a token that may turn out to be a key. -/
def savePending? (g : Glyph) (l : Lexer) : Option Lexer :=
  if l.keyAllowed then do
    let l ← l.dropPending?
    return { l with
      pending := some
        { position := l.count
          line := g.line
          column := g.column
          index := g.index
          required := !l.inFlow && l.indent == g.column } }
  else some l

/-- What may be a key, as long as the place is on its line and near to it. -/
def freshPending? (g : Glyph) : Option PendingKey → Option (Option PendingKey)
  | some k =>
    if k.line < g.line ∨ k.index + 1024 < g.index then
      if k.required then none else some none
    else some (some k)
  | none => some none

/-- The reader without what can be no key any more at a place. -/
def expirePending? (g : Glyph) (l : Lexer) : Option Lexer := do
  let pending ← freshPending? g l.pending
  let pendingOutside ← l.pendingOutside.mapM (freshPending? g)
  return { l with pending, pendingOutside }

/-! ## Blocks -/

/-- The reader at a block that starts at a column, with the token of its start; within a block that
starts there, and inside brackets, nothing starts. -/
def openBlock (column : Nat) (put : Lexer → Lexer) (l : Lexer) : Lexer :=
  if !l.inFlow && l.indent < column then
    put { l with indent := column, outer := l.indent :: l.outer }
  else l

/-- The blocks that end when the column of a place is known, the innermost first. -/
def closeBlocks (column : Int) : List Int → Lexer → Lexer
  | [], l => l
  | indent :: outer, l =>
    if column < l.indent then closeBlocks column outer { l.push .blockEnd with indent, outer }
    else l

/-- The reader after the blocks that end at a column. -/
def unindent (column : Int) (l : Lexer) : Lexer :=
  if l.inFlow then l else closeBlocks column l.outer l

/-! ## Single tokens -/

/-- The reader after a token that cannot be part of a key. -/
def pushAlone? (t : Token) (keyAllowed : Bool) (l : Lexer) : Option Lexer := do
  let l ← l.dropPending?
  return { l.push t with keyAllowed }

/-- The reader after the token of a directive or of the mark of a document. -/
def pushMark? (t : Token) (l : Lexer) : Option Lexer := (l.unindent (-1)).pushAlone? t false

def pushOpen? (g : Glyph) (t : Token) (l : Lexer) : Option Lexer := do
  let l ← l.savePending? g
  let l := l.push t
  return { l with
    keyAllowed := true
    pending := none
    pendingOutside := l.pending :: l.pendingOutside }

/-- The reader outside of a closing bracket. -/
def pushClose? (t : Token) (l : Lexer) : Option Lexer := do
  let l ← l.pushAlone? t false
  match l.pendingOutside with
  | pending :: pendingOutside => return { l with pending, pendingOutside }
  | [] => return l

/-- The reader after the hyphen of an item. -/
def pushItem? (g : Glyph) (l : Lexer) : Option Lexer :=
  if !l.inFlow && !l.keyAllowed then none
  else (l.openBlock g.column (push .blockSequence)).pushAlone? .blockItem true

def pushKey? (g : Glyph) (l : Lexer) : Option Lexer :=
  if !l.inFlow && !l.keyAllowed then none
  else (l.openBlock g.column (push .blockMapping)).pushAlone? .key (!l.inFlow)

/-- The reader after the colon of a value. What may be a key is one now. -/
def pushValue? (g : Glyph) (l : Lexer) : Option Lexer :=
  match l.pending with
  | some k =>
    let l := l.insertAt k.position .key
    let l := l.openBlock k.column (insertAt k.position .blockMapping)
    some { l.push .value with pending := none, keyAllowed := false }
  | none =>
    if !l.inFlow && !l.keyAllowed then none
    else
      let l := l.openBlock g.column (push .blockMapping)
      some { l.push .value with keyAllowed := !l.inFlow }

/-- The reader after a token that may be a key. -/
def pushText? (g : Glyph) (t : Token) (l : Lexer) : Option Lexer := do
  let l ← l.savePending? g
  return { l.push t with keyAllowed := false }

/-! ## Reading -/

/-- The place of the next token, and whether a key may start there. Blanks, comments and line breaks
are skipped, tabs only where no key may start. -/
def skipGap (inFlow : Bool) : Bool → Bool → List Glyph → Bool × List Glyph
  | keyAllowed, _, [] => (keyAllowed, [])
  | keyAllowed, comment, g :: rest =>
    if isBreak g.char then skipGap inFlow (keyAllowed || !inFlow) false rest
    else if comment then skipGap inFlow keyAllowed true rest
    else if g.char == '#' then skipGap inFlow keyAllowed true rest
    else if g.char == ' ' || (g.char == '\t' && (inFlow || !keyAllowed))
        || (g.column == 0 && g.char == byteOrderMark) then skipGap inFlow keyAllowed false rest
    else (keyAllowed, g :: rest)

/-- The name of an anchor or an alias, and what follows it. -/
def takeName? (gs : List Glyph) : Option (String × List Glyph) :=
  let (name, rest) := takeWord gs
  let ends := match rest with
    | [] => true
    | g :: _ => isGap g.char || "?:,]\x7d%@`".toList.contains g.char
  if name.isEmpty || !ends then none else some (String.ofList name, rest)

/-- Characters that no plain text starts with, unless it is one of three and no gap follows. -/
def isIndicator (c : Char) : Bool := "-?:,[]\x7b\x7d#&*!|>'\"%@`".toList.contains c

def plainAt (inFlow : Bool) (g : Glyph) (rest : List Glyph) : Bool :=
  !(isGap g.char || isIndicator g.char)
    || (!gapAt rest && (g.char == '-' || (!inFlow && (g.char == '?' || g.char == ':'))))

/-- The reader after the text at a place, and what follows it. -/
def takeText? (g : Glyph) (rest : List Glyph) (l : Lexer) : Option (Lexer × List Glyph) :=
  let outer := (l.indent + 1).toNat
  let quoted := fun (single : Bool) (style : Style) => do
    let (cs, rest) ← takeQuoted? single .none rest
    return (← l.pushText? g (.scalar (String.ofList cs) style), rest)
  let block := fun (literal : Bool) (style : Style) => do
    let (cs, rest) ← takeBlock? literal outer rest
    return (← l.pushAlone? (.scalar (String.ofList cs) style) true, rest)
  match g.char with
  | '\'' => quoted true .singleQuoted
  | '"' => quoted false .doubleQuoted
  | '|' => if l.inFlow then none else block true .literal
  | '>' => if l.inFlow then none else block false .folded
  | _ =>
    if plainAt l.inFlow g rest then do
      let (cs, gap, rest) ← takePlain? l.inFlow outer .none (g :: rest)
      let l ← l.pushText? g (.scalar (String.ofList cs) .plain)
      return ({ l with keyAllowed := gap.isBreaks }, rest)
    else none

/-- The reader after the token at a place, and what follows it. -/
def takeToken? (g : Glyph) (rest : List Glyph) (l : Lexer) : Option (Lexer × List Glyph) := do
  let after := fun (l : Option Lexer) => l.map fun l => (l, rest)
  let indicator := gapAt rest
  if g.column = 0 ∧ g.char = '%' then
    let (d, rest) ← takeDirective? rest
    return (← l.pushMark? (.directive d), rest)
  else if markAt '-' (g :: rest) then return (← l.pushMark? .documentStart, rest.drop 2)
  else if markAt '.' (g :: rest) then return (← l.pushMark? .documentEnd, rest.drop 2)
  else
    match g.char with
    | '[' => after (l.pushOpen? g .openSequence)
    | '{' => after (l.pushOpen? g .openMapping)
    | ']' => after (l.pushClose? .closeSequence)
    | '}' => after (l.pushClose? .closeMapping)
    | ',' => after (l.pushAlone? .flowItem true)
    | '*' =>
      let (name, rest) ← takeName? rest
      return (← l.pushText? g (.alias name), rest)
    | '&' =>
      let (name, rest) ← takeName? rest
      return (← l.pushText? g (.anchor name), rest)
    | '!' =>
      let (t, rest) ← takeTag? rest
      let ends := gapAt rest || (l.inFlow && (rest.head?.map (·.char)) == some ',')
      if ends then return (← l.pushText? g (.tag t), rest) else none
    | '-' => if indicator then after (l.pushItem? g) else l.takeText? g rest
    | '?' => if l.inFlow || indicator then after (l.pushKey? g) else l.takeText? g rest
    | ':' => if l.inFlow || indicator then after (l.pushValue? g) else l.takeText? g rest
    | _ => l.takeText? g rest

/-- The reader at the end of a text. -/
def finish? (l : Lexer) : Option Lexer := (l.unindent (-1)).dropPending?

/-- The reader at the end of the glyphs. Each token takes one unit of fuel. -/
def run? : Nat → List Glyph → Lexer → Option Lexer
  | 0, _, _ => none
  | fuel + 1, gs, l => do
    let (keyAllowed, gs) := skipGap l.inFlow l.keyAllowed false gs
    let l := { l with keyAllowed }
    match gs with
    | [] => l.finish?
    | g :: rest =>
      let l ← l.expirePending? g
      let (l, rest) ← (l.unindent g.column).takeToken? g rest
      run? fuel rest l

end Lexer

def Token.ofText? (s : String) : Option (List Token) := do
  let gs ← Glyph.ofText? s
  let l ← Lexer.run? (gs.length + 1) gs {}
  return l.tokens.reverse

end ReleaseControl.Yaml
