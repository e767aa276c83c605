import ReleaseControl.Json.Basic

/-!
# Requests to an API server

A request names a method and a target: a path and perhaps a query. What a target may hold is
decided byte by byte, and a number sign ends it.
-/

namespace ReleaseControl

/-- A request to an API server. -/
structure HttpRequest where
  method : String
  target : String
  body : Option Json := none

namespace HttpRequest

def isPathChar (c : Char) : Bool :=
  let n := c.toNat
  n == 0x21 || n == 0x22 || (0x24 ≤ n && n ≤ 0x3B) || n == 0x3D || (0x40 ≤ n && n ≤ 0x5F)
    || (0x61 ≤ n && n ≤ 0x7E)

def isQueryChar (c : Char) : Bool :=
  let n := c.toNat
  n == 0x21 || (0x24 ≤ n && n ≤ 0x3B) || n == 0x3D || (0x3F ≤ n && n ≤ 0x7E)

/-- The query of a target, up to a number sign. -/
def takeQuery : List Char → Option (List Char)
  | [] => some []
  | c :: rest =>
    if c = '#' then some []
    else if isQueryChar c then (takeQuery rest).map (c :: ·)
    else none

/-- The path and query of a target, up to a number sign. -/
def takeTarget : List Char → Option (List Char)
  | [] => some []
  | c :: rest =>
    if c = '#' then some []
    else if c = '?' then (takeQuery rest).map (c :: ·)
    else if isPathChar c then (takeTarget rest).map (c :: ·)
    else none

/-- The target that is sent for a text, unless the text is no target. -/
def target? (s : String) : Option String :=
  if s.utf8ByteSize < 0xFFFF then (takeTarget s.toList).map String.ofList else none

end HttpRequest

end ReleaseControl
