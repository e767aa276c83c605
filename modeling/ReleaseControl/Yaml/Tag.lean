import ReleaseControl.Yaml.Scalar

/-!
# Tags and directives

A tag says what kind of value a node is meant to hold. It is written in full, or as a handle that a
directive stands for and a suffix.

* `takeTag?`: the tag at a place.
* `takeDirective?`: the directive at a place.
* `Handles.resolve?`: the full tag.
-/

namespace ReleaseControl.Yaml

/-- A letter, a digit, a hyphen or a low line. -/
def isWordChar (c : Char) : Bool := c.isAlphanum || c == '_' || c == '-'

/-- A character of a tag; brackets and commas belong to tags that are written in full. -/
def isTagChar (full : Bool) (c : Char) : Bool :=
  isWordChar c || ";/?:@&=+$.%!~*'()".toList.contains c || (full && ",[]".toList.contains c)

/-- The byte of two hexadecimal digits behind a percent sign, and what follows it. -/
def takeByte? : List Glyph → Option (Nat × List Glyph)
  | p :: a :: b :: rest => do
    let a ← Json.hexValue? a.char
    let b ← Json.hexValue? b.char
    if p.char = '%' then some (16 * a + b, rest) else none
  | _ => none

/-- The number of bytes of a character that begins with a byte. -/
def leadWidth? (b : Nat) : Option Nat :=
  if b < 0x80 then some 1
  else if b < 0xC0 then none
  else if b < 0xE0 then some 2
  else if b < 0xF0 then some 3
  else if b < 0xF8 then some 4
  else none

/-- So many further bytes of a character, put behind those before. -/
def takeTail? : Nat → Nat → List Glyph → Option (Nat × List Glyph)
  | 0, n, gs => some (n, gs)
  | k + 1, n, gs => do
    let (b, gs) ← takeByte? gs
    if b / 0x40 = 2 then takeTail? k (n * 0x40 + b % 0x40) gs else none

/-- The character of bytes that are written with percent signs, and what follows it. -/
def takeEscaped? (gs : List Glyph) : Option (Char × List Glyph) := do
  let (b, gs) ← takeByte? gs
  let width ← leadWidth? b
  let first := if width = 1 then b else b % Nat.pow 2 (7 - width)
  let (n, gs) ← takeTail? (width - 1) first gs
  return (Char.ofNat n, gs)

/-- The characters of a tag, and what follows them. Each takes one unit of fuel. -/
def takeTagChars? (full : Bool) : Nat → List Glyph → Option (List Char × List Glyph)
  | 0, _ => none
  | fuel + 1, gs =>
    match gs with
    | [] => some ([], [])
    | g :: rest =>
      if g.char = '%' then do
        let (c, rest) ← takeEscaped? gs
        let (cs, rest) ← takeTagChars? full fuel rest
        return (c :: cs, rest)
      else if isTagChar full g.char then do
        let (cs, rest) ← takeTagChars? full fuel rest
        return (g.char :: cs, rest)
      else some ([], gs)

/-- The word at a place, and what follows it. -/
def takeWord (gs : List Glyph) : List Char × List Glyph :=
  ((gs.takeWhile fun g => isWordChar g.char).map (·.char), gs.dropWhile fun g => isWordChar g.char)

def dropBlanks? (gs : List Glyph) : Option (List Glyph) :=
  match gs with
  | g :: rest =>
    if isGapBlank g.char then some (rest.dropWhile fun g => isGapBlank g.char) else none
  | [] => none

/-! ## Tags -/

/-- A tag as written: a handle, empty for a tag in full, and a suffix. -/
structure Tag where
  handle : String
  suffix : String
deriving DecidableEq, Inhabited

/-- The tag behind an exclamation mark, and what follows it. -/
def takeTag? (gs : List Glyph) : Option (Tag × List Glyph) := do
  let fuel := gs.length + 1
  match gs with
  | g :: rest =>
    if g.char = '<' then
      let (cs, rest) ← takeTagChars? true fuel rest
      match rest with
      | e :: rest =>
        if cs.isEmpty ∨ e.char ≠ '>' then none else return (⟨"", String.ofList cs⟩, rest)
      | [] => none
    else
      let (word, rest) := takeWord gs
      match rest with
      | e :: after =>
        if e.char = '!' then
          let (cs, rest) ← takeTagChars? false fuel after
          if cs.isEmpty then none
          else return (⟨String.ofList ('!' :: word ++ ['!']), String.ofList cs⟩, rest)
        else
          let (cs, rest) ← takeTagChars? false fuel rest
          return (plainTag (word ++ cs), rest)
      | [] => return (plainTag word, [])
  | [] => return (plainTag [], [])
where
  /-- A tag of one exclamation mark and a suffix; the mark alone is a tag in full. -/
  plainTag (suffix : List Char) : Tag :=
    if suffix.isEmpty then ⟨"", "!"⟩ else ⟨"!", String.ofList suffix⟩

/-! ## Directives -/

/-- A directive in front of a document. -/
inductive Directive where
  /-- The version of YAML that the document is written in. -/
  | version (major minor : Nat)
  /-- What a handle stands for. -/
  | tag (handle start : String)

/-- A number of up to nine digits, and what follows it. -/
def takeNumber? (gs : List Glyph) : Option (Nat × List Glyph) :=
  let isDigit := fun (g : Glyph) => g.char.isDigit
  let digits := (gs.takeWhile isDigit).map (·.char)
  if digits.isEmpty ∨ 9 < digits.length then none
  else some (Json.digitsValue digits, gs.dropWhile isDigit)

def takeVersion? (gs : List Glyph) : Option (Directive × List Glyph) := do
  let gs := gs.dropWhile fun g => isGapBlank g.char
  let (major, gs) ← takeNumber? gs
  match gs with
  | g :: gs =>
    if g.char = '.' then
      let (minor, gs) ← takeNumber? gs
      return (.version major minor, gs)
    else none
  | [] => none

/-- A handle between exclamation marks, or one mark alone, and what follows it. -/
def takeHandle? (gs : List Glyph) : Option (List Char × List Glyph) :=
  match gs with
  | g :: rest =>
    if g.char = '!' then
      let (word, rest) := takeWord rest
      match rest with
      | e :: after =>
        if e.char = '!' then some ('!' :: word ++ ['!'], after)
        else if word.isEmpty then some (['!'], rest)
        else none
      | [] => if word.isEmpty then some (['!'], []) else none
    else none
  | [] => none

/-- A handle and what it stands for, and what follows them. -/
def takeTagDirective? (gs : List Glyph) : Option (Directive × List Glyph) := do
  let gs := gs.dropWhile fun g => isGapBlank g.char
  let (handle, gs) ← takeHandle? gs
  let gs ← dropBlanks? gs
  let (cs, gs) ← takeTagChars? true (gs.length + 1) gs
  if cs.isEmpty || !gapAt gs then none
  else return (.tag (String.ofList handle) (String.ofList cs), gs)

/-- The directive behind a percent sign, and what follows its line. -/
def takeDirective? (gs : List Glyph) : Option (Directive × List Glyph) := do
  let (name, gs) := takeWord gs
  if name.isEmpty || !gapAt gs then none
  else
    let (directive, gs) ←
      if name = "YAML".toList then takeVersion? gs
      else if name = "TAG".toList then takeTagDirective? gs
      else none
    let gs ← dropLine? gs
    return (directive, gs)

/-! ## Resolution -/

/-- The handles of a document, with what they stand for. -/
abbrev Handles := List (String × String)

namespace Handles

def standard : Handles := [("!", "!"), ("!!", "tag:yaml.org,2002:")]

/-- The handles after the directives of a document, unless one is repeated or asks for a version
that is not known. -/
def ofDirectives? (directives : List Directive) : Option Handles := do
  let versions := directives.filter fun
    | .version _ _ => true
    | .tag _ _ => false
  let known := versions.all fun
    | .version major minor => major == 1 && (minor == 1 || minor == 2)
    | .tag _ _ => true
  let given := directives.filterMap fun
    | .version _ _ => none
    | .tag handle start => some (handle, start)
  if versions.length ≤ 1 ∧ known = true ∧ (given.map (·.1)).Nodup then some (given ++ standard)
  else none

/-- The full text of a tag, if its handle is known. -/
def resolve? (hs : Handles) (t : Tag) : Option String :=
  if t.handle = "" then some t.suffix else (hs.lookup t.handle).map (· ++ t.suffix)

end Handles

end ReleaseControl.Yaml
