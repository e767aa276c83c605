/-!
# Glyphs

The characters of a YAML text with their places. Every line break but the two Unicode separators is
the same character here, and a text with a character that YAML does not allow has no glyphs.

* `Glyph.ofText?`: the glyphs of a text.
-/

namespace ReleaseControl.Yaml

def isBreak (c : Char) : Bool := c == '\n' || c == '\u2028' || c == '\u2029'

def isGapBlank (c : Char) : Bool := c == ' ' || c == '\t'

def isGap (c : Char) : Bool := isGapBlank c || isBreak c

/-- A character that a YAML text may hold. -/
def isAllowed (c : Char) : Bool :=
  let n := c.toNat
  n == 0x09 || n == 0x0A || n == 0x0D || (0x20 ≤ n && n ≤ 0x7E) || n == 0x85
    || (0xA0 ≤ n && n ≤ 0xD7FF) || (0xE000 ≤ n && n ≤ 0xFFFD) || 0x10000 ≤ n

/-- The mark that may stand in front of a text. -/
def byteOrderMark : Char := '\uFEFF'

/-- A character of a text, with the number of its line, of its column and of itself, all counted
from zero. -/
structure Glyph where
  char : Char
  line : Nat
  column : Nat
  index : Nat

namespace Glyph

/-- The characters with all line breaks but the separators made the same. -/
def unifyBreaks : List Char → List Char
  | [] => []
  | '\r' :: '\n' :: rest => '\n' :: unifyBreaks rest
  | c :: rest => (if c = '\r' ∨ c = '\u0085' then '\n' else c) :: unifyBreaks rest

/-- The characters with their places, the first of them at the given one. -/
def place (line column index : Nat) : List Char → List Glyph
  | [] => []
  | c :: rest =>
    ⟨c, line, column, index⟩ ::
      if isBreak c then place (line + 1) 0 (index + 1) rest
      else place line (column + 1) (index + 1) rest

/-- The glyphs of a text without its byte order mark; none when a character is not allowed. -/
def ofText? (s : String) : Option (List Glyph) :=
  let cs := match s.toList with
    | c :: rest => if c = byteOrderMark then rest else c :: rest
    | [] => []
  if cs.all isAllowed then some (place 0 0 0 (unifyBreaks cs)) else none

end Glyph

/-- Whether a token ends here: at a gap or at the end of the text. -/
def gapAt : List Glyph → Bool
  | [] => true
  | g :: _ => isGap g.char

def breakAt : List Glyph → Bool
  | [] => true
  | g :: _ => isBreak g.char

/-- Whether the mark of a document, three times the given character, stands here. -/
def markAt (mark : Char) : List Glyph → Bool
  | a :: b :: c :: rest =>
    a.column == 0 && a.char == mark && b.char == mark && c.char == mark && gapAt rest
  | _ => false

/-- Whether the start or the end of a document is marked here. -/
def documentMarkAt (gs : List Glyph) : Bool := markAt '-' gs || markAt '.' gs

end ReleaseControl.Yaml
