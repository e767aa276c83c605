import ReleaseControl.Json.Reader
import ReleaseControl.Yaml.Glyph

/-!
# Scalars

The five ways to write a text in YAML. Within a plain or quoted text a line break counts as a
space, and a blank line as a line break.

* `takePlain?`, `takeQuoted?`, `takeBlock?`: the text at a place, and what follows it.
-/

namespace ReleaseControl.Yaml

/-- How a text is written. -/
inductive Style where
  | plain
  | singleQuoted
  | doubleQuoted
  | literal
  | folded
deriving DecidableEq, Inhabited

/-! ## Gaps -/

/-- What stands between two parts of a text. -/
inductive Gap where
  | none
  /-- Spaces and tabs. -/
  | blanks (cs : List Char)
  /-- A line break, unless it was escaped, and those after it. -/
  | breaks (first : Option Char) (more : List Char)

namespace Gap

def extend (c : Char) : Gap → Gap
  | .none => if isBreak c then .breaks (some c) [] else .blanks [c]
  | .blanks cs => if isBreak c then .breaks (some c) [] else .blanks (cs ++ [c])
  | .breaks first more => .breaks first (if isBreak c then more ++ [c] else more)

/-- The text that a gap stands for. -/
def join : Gap → List Char
  | .none => []
  | .blanks cs => cs
  | .breaks first more =>
    if first = some '\n' then (if more.isEmpty then [' '] else more) else first.toList ++ more

def isNone : Gap → Bool
  | .none => true
  | _ => false

def isBreaks : Gap → Bool
  | .breaks _ _ => true
  | _ => false

end Gap

/-! ## Plain text -/

/-- Characters that end a plain text inside brackets. -/
def isFlowIndicator (c : Char) : Bool :=
  c == ',' || c == '[' || c == ']' || c == '{' || c == '}'

/-- Whether a bracket, a comma or a question mark stands here. -/
def flowMarkAt : List Glyph → Bool
  | [] => false
  | g :: _ => isFlowIndicator g.char || g.char == '?'

/-- Whether a plain text ends in front of a character that follows a gap. -/
def endsPlain (flow : Bool) (indent : Nat) (gap : Gap) (g : Glyph) (rest : List Glyph) : Bool :=
  (!gap.isNone && (g.char == '#' || documentMarkAt (g :: rest) || (!flow && g.column < indent)))
    || (g.char == ':' && gapAt rest)
    || (flow && isFlowIndicator g.char)

/-- The plain text at a place, inside brackets or not, its further lines indented by `indent`; the
gap behind it, and what follows that. -/
def takePlain? (flow : Bool) (indent : Nat) :
    Gap → List Glyph → Option (List Char × Gap × List Glyph)
  | gap, [] => some ([], gap, [])
  | gap, g :: rest =>
    if isGap g.char then
      if gap.isBreaks && g.char == '\t' && g.column < indent then none
      else takePlain? flow indent (gap.extend g.char) rest
    else if flow && g.char == ':' && flowMarkAt rest then none
    else if endsPlain flow indent gap g rest then some ([], gap, g :: rest)
    else do
      let (cs, gap', rest) ← takePlain? flow indent .none rest
      return (gap.join ++ g.char :: cs, gap', rest)

/-! ## Quoted text -/

/-- The character of a letter after a backslash. -/
def escaped? : Char → Option Char
  | '0' => some '\x00'
  | 'a' => some '\x07'
  | 'b' => some '\x08'
  | 't' => some '\t'
  | '\t' => some '\t'
  | 'n' => some '\n'
  | 'v' => some '\x0b'
  | 'f' => some '\x0c'
  | 'r' => some '\r'
  | 'e' => some '\x1b'
  | ' ' => some ' '
  | '"' => some '"'
  | '/' => some '/'
  | '\\' => some '\\'
  | 'N' => some '\u0085'
  | '_' => some '\u00a0'
  | 'L' => some '\u2028'
  | 'P' => some '\u2029'
  | _ => none

/-- The number of hexadecimal digits after a letter after a backslash. -/
def escapeDigits? : Char → Option Nat
  | 'x' => some 2
  | 'u' => some 4
  | 'U' => some 8
  | _ => none

def hexNumber? (gs : List Glyph) : Option Nat :=
  gs.foldlM (fun n g => (Json.hexValue? g.char).map (16 * n + ·)) 0

def charOf? (n : Nat) : Option Char :=
  if h : n.isValidChar then some (Char.ofNatAux n h) else none

/-- The quoted text up to its closing quote, and what follows the quote. -/
def takeQuoted? (single : Bool) (gap : Gap) (gs : List Glyph) : Option (List Char × List Glyph) :=
  match gs with
  | [] => none
  | g :: rest =>
    let on := fun (cs : List Char) (result : Option (List Char × List Glyph)) =>
      result.map fun (more, rest) => (gap.join ++ cs ++ more, rest)
    if isGap g.char then takeQuoted? single (gap.extend g.char) rest
    else if documentMarkAt (g :: rest) then none
    else if single then
      if g.char = '\'' then
        match rest with
        | q :: rest' =>
          if q.char = '\'' then on ['\''] (takeQuoted? single .none rest')
          else some (gap.join, q :: rest')
        | [] => some (gap.join, [])
      else on [g.char] (takeQuoted? single .none rest)
    else if g.char = '"' then some (gap.join, rest)
    else if g.char = '\\' then
      match rest with
      | [] => none
      | e :: rest' =>
        if isBreak e.char then on [] (takeQuoted? single (.breaks none []) rest')
        else
          match escapeDigits? e.char with
          | some width =>
            if rest'.length < width then none
            else
              match (hexNumber? (rest'.take width)).bind charOf? with
              | some c => on [c] (takeQuoted? single .none (rest'.drop width))
              | none => none
          | none =>
            match escaped? e.char with
            | some c => on [c] (takeQuoted? single .none rest')
            | none => none
    else on [g.char] (takeQuoted? single .none rest)
termination_by gs.length
decreasing_by
  all_goals simp only [List.length_cons, List.length_drop]
  all_goals omega

/-! ## Block text -/

/-- What becomes of the line breaks at the end of a block text. -/
inductive Chomping where
  | strip
  | clip
  | keep

/-- What is said behind the indicator of a block text: the chomping, and how far the text is
indented, zero where its first line decides. -/
structure BlockHeader where
  chomping : Chomping
  width : Nat

def chomping? : Char → Option Chomping
  | '+' => some .keep
  | '-' => some .strip
  | _ => none

def blockWidth? (c : Char) : Option Nat :=
  if c.isDigit && c ≠ '0' then some (c.toNat - '0'.toNat) else none

/-- The header behind the indicator of a block text, chomping and width in any order. -/
def takeBlockHeader (gs : List Glyph) : BlockHeader × List Glyph :=
  let chomp := fun (gs : List Glyph) => match gs with
    | g :: rest => match chomping? g.char with
      | some c => (some c, rest)
      | none => (none, gs)
    | [] => (none, [])
  let widen := fun (gs : List Glyph) => match gs with
    | g :: rest => match blockWidth? g.char with
      | some w => (w, rest)
      | none => (0, gs)
    | [] => (0, [])
  match chomp gs with
  | (some c, rest) =>
    let (w, rest) := widen rest
    (⟨c, w⟩, rest)
  | (none, rest) =>
    match widen rest with
    | (0, rest) => (⟨.clip, 0⟩, rest)
    | (w, rest) =>
      let (c, rest) := chomp rest
      (⟨c.getD .clip, w⟩, rest)

/-- What follows the rest of a line that holds blanks and perhaps a comment. -/
def dropLine? (gs : List Glyph) : Option (List Glyph) :=
  let gs := gs.dropWhile fun g => isGapBlank g.char
  let gs := match gs with
    | g :: rest =>
      if g.char = '#' then rest.dropWhile fun (g : Glyph) => !isBreak g.char else g :: rest
    | [] => []
  match gs with
  | [] => some []
  | g :: rest => if isBreak g.char then some rest else none

/-- The indentation and the blank lines in front of a line of block text: the line breaks, the
deepest column seen, and what follows. The width `indent` is zero while it is unknown. -/
def takeBlockGap? (indent : Nat) : Nat → List Glyph → Option (List Char × Nat × List Glyph)
  | deepest, [] => some ([], deepest, [])
  | deepest, g :: rest =>
    let within := indent = 0 ∨ g.column < indent
    if g.char = ' ' ∧ within then takeBlockGap? indent deepest rest
    else if g.char = '\t' ∧ within then none
    else if isBreak g.char then do
      let (breaks, deepest, rest) ← takeBlockGap? indent (max deepest g.column) rest
      return (g.char :: breaks, deepest, rest)
    else some ([], max deepest g.column, g :: rest)

/-- The line breaks between two lines of block text, folded unless the text is literal or one of the
lines begins with a blank. -/
def foldBreaks (literal : Bool) (first more : List Char) (afterBlank beforeBlank : Bool) :
    List Char :=
  if !literal && first = ['\n'] && !afterBlank && !beforeBlank then
    (if more.isEmpty then [' '] else more)
  else first ++ more

/-- The lines of block text at a column: the text, the break behind its last line, the breaks after
that, and what follows. Each line takes one unit of fuel. -/
def takeBlockLines? (literal : Bool) (indent : Nat) :
    Nat → List Char → List Char → Bool → List Glyph →
      Option (List Char × List Char × List Char × List Glyph)
  | 0, _, _, _, _ => none
  | _ + 1, first, more, _, [] => some ([], first, more, [])
  | fuel + 1, first, more, afterBlank, g :: rest =>
    if g.column ≠ indent then some ([], first, more, g :: rest)
    else
      let blank := isGapBlank g.char
      let joined := foldBreaks literal first more afterBlank blank
      let inLine := fun (g : Glyph) => !isBreak g.char
      let line := ((g :: rest).takeWhile inLine).map (·.char)
      match (g :: rest).dropWhile inLine with
      | [] => some (joined ++ line, [], [], [])
      | b :: rest => do
        let (more, _, rest) ← takeBlockGap? indent 0 rest
        let (text, first, more, rest) ←
          takeBlockLines? literal indent fuel [b.char] more blank rest
        return (joined ++ line ++ text, first, more, rest)

/-- The block text behind its indicator, in a block whose lines are indented by `outer` or more, and
what follows it. -/
def takeBlock? (literal : Bool) (outer : Nat) (gs : List Glyph) :
    Option (List Char × List Glyph) := do
  let (header, gs) := takeBlockHeader gs
  let gs ← dropLine? gs
  let given := if header.width = 0 then 0 else outer - 1 + header.width
  let (more, deepest, gs) ← takeBlockGap? given 0 gs
  let indent := if given = 0 then max deepest (max outer 1) else given
  let (text, first, more, rest) ←
    takeBlockLines? literal indent (gs.length + 1) [] more false gs
  match header.chomping with
  | .strip => return (text, rest)
  | .clip => return (text ++ first, rest)
  | .keep => return (text ++ first ++ more, rest)

end ReleaseControl.Yaml
