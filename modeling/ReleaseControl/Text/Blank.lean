/-!
# White space

* `isBlank`: the characters that Unicode lists as white space.
* `trimBlank`: a text without the blanks at its two ends.
-/

namespace ReleaseControl

/-- White space as Unicode lists it: the controls from tab to carriage return, next line, and the
space characters and separators. -/
def isBlank (c : Char) : Bool :=
  let n := c.toNat
  (0x09 ≤ n && n ≤ 0x0D) || n == 0x20 || n == 0x85 || n == 0xA0 || n == 0x1680 ||
    (0x2000 ≤ n && n ≤ 0x200A) || n == 0x2028 || n == 0x2029 || n == 0x202F || n == 0x205F ||
    n == 0x3000

/-- The characters that remain once the blanks in front are gone. -/
def dropBlank (cs : List Char) : List Char := cs.dropWhile isBlank

/-- The text without the blanks at its two ends. -/
def trimBlank (s : String) : String :=
  String.ofList (dropBlank (dropBlank s.toList).reverse).reverse

end ReleaseControl
