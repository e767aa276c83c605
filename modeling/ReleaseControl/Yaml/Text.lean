import ReleaseControl.Json.Text
import ReleaseControl.Yaml.Plain
import ReleaseControl.Yaml.Scalar

/-!
# YAML text

Values written in block style, entries in the order of the value. A sequence within a mapping is not
indented. Text is written plain where it reads back as the same text, else quoted; text of several
lines is a literal block. Lines are never folded.

* `styleOf`: how a text is written.
* `Json.yamlText`: the text of a value.
-/

namespace ReleaseControl

namespace Yaml

/-! ## Styles -/

/-- A character that is shown as it is. -/
def isShown (c : Char) : Bool :=
  let n := c.toNat
  n == 0x0A || (0x20 ≤ n && n ≤ 0x7E) || (0xA0 ≤ n && n ≤ 0xD7FF)
    || (0xE000 ≤ n && n ≤ 0xFFFD && n ≠ 0xFEFF) || 0x10000 ≤ n

/-- Whether there are two neighbours of which the first and the second have the given properties. -/
def hasNeighbours (p q : Char → Bool) : List Char → Bool
  | a :: b :: rest => (p a && q b) || hasNeighbours p q (b :: rest)
  | _ => false

def gapNext : List Char → Bool
  | [] => true
  | c :: _ => isGap c

/-- Whether a colon or a number sign within a plain text would end it. -/
def hasInnerIndicator : Bool → List Char → Bool
  | _, [] => false
  | afterGap, c :: rest =>
    (c == ':' && gapNext rest) || (c == '#' && afterGap) || hasInnerIndicator (isGap c) rest

/-- Whether a text starts or goes on like something other than plain text. -/
def hasIndicator : List Char → Bool
  | [] => false
  | c :: rest =>
    [['-', '-', '-'], ['.', '.', '.']].contains ((c :: rest).take 3)
      || "#,[]\x7b\x7d&*!|>'\"%@`".toList.contains c
      || ((c == '?' || c == ':' || c == '-') && gapNext rest)
      || hasInnerIndicator (isGap c) rest

/-- The line breaks of a text that is written. -/
def isWrittenBreak (c : Char) : Bool := isBreak c || c == '\r' || c == '\u0085'

/-- What is known of a text that is to be written. -/
structure Outline where
  /-- A character is not shown as it is. -/
  hidden : Bool
  /-- There is a line break. -/
  broken : Bool
  /-- A line other than the last ends in a space. -/
  spaceAtBreak : Bool
  /-- A line other than the first starts with a space. -/
  spaceAfterBreak : Bool
  /-- The text starts or ends with a space or a line break. -/
  edged : Bool
  /-- The text ends with a space. -/
  spaceAtEnd : Bool
  indicator : Bool

def Outline.ofChars (cs : List Char) : Outline :=
  let isSpace := fun c => c == ' '
  let isEdge := fun c => isSpace c || isWrittenBreak c
  { hidden := !cs.all isShown
    broken := cs.any isWrittenBreak
    spaceAtBreak := hasNeighbours isSpace isWrittenBreak cs
    spaceAfterBreak := hasNeighbours isWrittenBreak isSpace cs
    edged := cs.head?.any isEdge || cs.getLast?.any isEdge
    spaceAtEnd := cs.getLast?.any isSpace
    indicator := hasIndicator cs }

namespace Outline

def allowsSingle (o : Outline) : Bool := !(o.hidden || o.spaceAtBreak || o.spaceAfterBreak)

def allowsPlain (o : Outline) : Bool :=
  o.allowsSingle && !(o.broken || o.edged || o.indicator)

/-- Whether the text may be written as a literal block. -/
def allowsLiteral (o : Outline) : Bool := !(o.hidden || o.spaceAtBreak || o.spaceAtEnd)

end Outline

/-- How a text is written: a literal block if it has several lines, plain if it is one line and
means nothing else, and in quotes where that is not possible. -/
def styleOf (s : String) : Style :=
  let o := Outline.ofChars s.toList
  let quoted : Style := if o.allowsSingle then .singleQuoted else .doubleQuoted
  if s.toList.contains '\n' then (if o.allowsLiteral then .literal else .doubleQuoted)
  else if !isAmbiguous s && o.allowsPlain then .plain
  else quoted

/-! ## Scalars -/

def spaces (column : Nat) : List Char := List.replicate column ' '

/-- The text in single quotes; what follows a line break is indented. -/
def singleQuotedChars (indent : Nat) : Bool → List Char → List Char
  | afterBreak, [] => if afterBreak then spaces indent else []
  | afterBreak, c :: rest =>
    if isBreak c then c :: singleQuotedChars indent true rest
    else
      (if afterBreak then spaces indent else []) ++ (if c = '\'' then ['\'', '\''] else [c])
        ++ singleQuotedChars indent false rest

/-- Upper-case hexadecimal digits, so many of them. -/
def hexDigits : Nat → Nat → List Char
  | 0, _ => []
  | width + 1, n => hexDigits width (n / 16) ++ [(hexDigit n).toUpper]

def doubleQuotedChar (c : Char) : List Char :=
  match c with
  | '\x00' => ['\\', '0']
  | '\x07' => ['\\', 'a']
  | '\x08' => ['\\', 'b']
  | '\t' => ['\\', 't']
  | '\n' => ['\\', 'n']
  | '\x0b' => ['\\', 'v']
  | '\x0c' => ['\\', 'f']
  | '\r' => ['\\', 'r']
  | '\x1b' => ['\\', 'e']
  | '"' => ['\\', '"']
  | '\\' => ['\\', '\\']
  | '\u0085' => ['\\', 'N']
  | '\u2028' => ['\\', 'L']
  | '\u2029' => ['\\', 'P']
  | c =>
    if isShown c then [c]
    else if c.toNat ≤ 0xFF then '\\' :: 'x' :: hexDigits 2 c.toNat
    else if c.toNat ≤ 0xFFFF then '\\' :: 'u' :: hexDigits 4 c.toNat
    else '\\' :: 'U' :: hexDigits 8 c.toNat

/-- The header of a literal block: the indentation where the text does not show it, and what becomes
of the line breaks at its end. -/
def literalHeader (cs : List Char) : List Char :=
  let hint := if cs.head?.any fun c => c == ' ' || isBreak c then ['2'] else []
  let chomp := match cs.reverse with
    | [] => ['-']
    | [c] => if isBreak c then ['+'] else ['-']
    | c :: b :: _ => if !isBreak c then ['-'] else if isBreak b then ['+'] else []
  '|' :: hint ++ chomp

def literalChars (indent : Nat) : Bool → List Char → List Char
  | _, [] => []
  | afterBreak, c :: rest =>
    if isBreak c then c :: literalChars indent true rest
    else (if afterBreak then spaces indent else []) ++ c :: literalChars indent false rest

def textChars (indent : Nat) (style : Style) (s : String) : List Char :=
  match style with
  | .plain => s.toList
  | .singleQuoted => '\'' :: singleQuotedChars indent false s.toList ++ ['\'']
  | .literal | .folded =>
    literalHeader s.toList ++ '\n' :: literalChars indent true s.toList
  | .doubleQuoted => '"' :: s.toList.flatMap doubleQuotedChar ++ ['"']

/-- The characters up to the end of a line. -/
def endLine (cs : List Char) : List Char :=
  if cs.getLast?.any isBreak then cs else cs ++ ['\n']

/-- A scalar or an empty collection, and the end of its line. -/
def inlineChars (indent : Nat) : Json → List Char
  | .null => "null\n".toList
  | .bool b => (if b then "true\n" else "false\n").toList
  | .int n => intChars n.value ++ ['\n']
  | .double x => x.chars ++ ['\n']
  | .str s => endLine (textChars indent (styleOf s) s)
  | .arr _ => "[]\n".toList
  | .obj _ => "\x7b\x7d\n".toList

def keyChars (k : String) : List Char :=
  textChars 0 (if k.toList.any isWrittenBreak then .doubleQuoted else styleOf k) k

/-! ## Collections -/

mutual

/-- A value that starts at a column, all lines but the first indented. -/
def blockChars (column : Nat) : Json → List Char
  | .arr (v :: rest) => (itemsChars column (v :: rest)).drop column
  | .obj (e :: rest) => (entriesChars column (e :: rest)).drop column
  | v => inlineChars column v

def itemsChars (column : Nat) : List Json → List Char
  | [] => []
  | v :: rest =>
    spaces column ++ '-' :: ' ' :: blockChars (column + 2) v ++ itemsChars column rest

def entriesChars (column : Nat) : List (String × Json) → List Char
  | [] => []
  | (k, v) :: rest =>
    spaces column ++ keyChars k ++ ':' :: valueChars column v ++ entriesChars column rest

/-- The value of an entry at a column. -/
def valueChars (column : Nat) : Json → List Char
  | .arr (v :: rest) => '\n' :: itemsChars column (v :: rest)
  | .obj (e :: rest) => '\n' :: entriesChars (column + 2) (e :: rest)
  | v => ' ' :: inlineChars (column + 2) v

end

mutual

/-- Whether the last block of several lines in a value ends in blank lines, if there is one. -/
def openEnd? : Json → Option Bool
  | .str s =>
    if styleOf s = .literal then some ((literalHeader s.toList).contains '+') else none
  | .arr items => itemsOpenEnd? items
  | .obj entries => entriesOpenEnd? entries
  | _ => none

def itemsOpenEnd? : List Json → Option Bool
  | [] => none
  | v :: rest => (itemsOpenEnd? rest).or (openEnd? v)

def entriesOpenEnd? : List (String × Json) → Option Bool
  | [] => none
  | (_, v) :: rest => (entriesOpenEnd? rest).or (openEnd? v)

end

end Yaml

/-- The YAML text of a value, with an end mark where blank lines may have to be kept. -/
def Json.yamlText (v : Json) : String :=
  String.ofList (Yaml.blockChars 0 v ++
    (if (Yaml.openEnd? v).getD false then "...\n".toList else []))

end ReleaseControl
