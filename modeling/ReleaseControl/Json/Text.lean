import ReleaseControl.Json.Basic
import ReleaseControl.Number.Decimal

/-!
# JSON text

Compact text of a value, entries in the order of the value. Strings escape the quote, the
backslash and the characters below U+0020 and write all else as it is.

* `Json.text`: the text of a value as it stands.
* `Json.canonicalText`: the text of the normalized value, which does not depend on the order of
  the entries.
-/

namespace ReleaseControl

def hexDigit (n : Nat) : Char := Nat.digitChar (n % 16)

/-- One character of a string, escaped where the text needs it. -/
def escapeChar (c : Char) : List Char :=
  match c with
  | '"' => ['\\', '"']
  | '\\' => ['\\', '\\']
  | '\x08' => ['\\', 'b']
  | '\x0c' => ['\\', 'f']
  | '\n' => ['\\', 'n']
  | '\r' => ['\\', 'r']
  | '\t' => ['\\', 't']
  | c =>
    if c.toNat < 0x20 then ['\\', 'u', '0', '0', hexDigit (c.toNat / 16), hexDigit c.toNat]
    else [c]

def quoteChars (s : String) : List Char := '"' :: (s.toList.flatMap escapeChar ++ ['"'])

/-- The decimal text of a whole number. -/
def intChars (n : Int) : List Char :=
  if n < 0 then '-' :: Nat.toDigits 10 n.natAbs else Nat.toDigits 10 n.natAbs

namespace Json

mutual

/-- The text of a value, as characters. -/
def chars : Json → List Char
  | .null => ['n', 'u', 'l', 'l']
  | .bool true => ['t', 'r', 'u', 'e']
  | .bool false => ['f', 'a', 'l', 's', 'e']
  | .int n => intChars n.value
  | .double x => x.chars
  | .str s => quoteChars s
  | .arr items => '[' :: itemsChars items
  | .obj entries => '{' :: entriesChars entries

def itemsChars : List Json → List Char
  | [] => [']']
  | [v] => v.chars ++ [']']
  | v :: rest => v.chars ++ ',' :: itemsChars rest

def entriesChars : List (String × Json) → List Char
  | [] => ['}']
  | [(k, v)] => quoteChars k ++ ':' :: (v.chars ++ ['}'])
  | (k, v) :: rest => quoteChars k ++ ':' :: (v.chars ++ ',' :: entriesChars rest)

end

/-- The compact text of a value, entries in the order of the value. -/
def text (v : Json) : String := String.ofList v.chars

/-- The compact text of a value with its objects sorted by key. -/
def canonicalText (v : Json) : String := v.normalize.text

end Json

end ReleaseControl
