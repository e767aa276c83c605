/-!
# Cutting text to a size

The longest part of a text, from its start, that has whole characters and at most so many bytes in
UTF-8. It ends at a boundary between two characters, which is looked for backwards from the size.

* `boundaryUpTo?`: the search; `isSome_boundaryUpTo?`: the start of the text stops it at the latest.
* `cutText`: the text up to the boundary that is found.
-/

namespace ReleaseControl

/-- The last boundary between characters at or before a byte of a text, looked for byte by byte
backwards; none if the search goes past the first byte. The ends of the text are boundaries too. -/
def boundaryUpTo? (s : String) (limit : Nat) : Option s.Pos :=
  if h : String.Pos.Raw.IsValid s ⟨limit⟩ then some ⟨⟨limit⟩, h⟩
  else
    match limit with
    | 0 => none
    | below + 1 => boundaryUpTo? s below

theorem isSome_boundaryUpTo? (s : String) (limit : Nat) : (boundaryUpTo? s limit).isSome := by
  induction limit with
  | zero =>
    have start : String.Pos.Raw.IsValid s ⟨0⟩ := String.Pos.Raw.isValid_zero
    rw [boundaryUpTo?, dif_pos start]
    rfl
  | succ below ih =>
    rw [boundaryUpTo?]
    split
    · rfl
    · exact ih

/-- The last boundary between characters at or before a byte of a text. -/
def boundaryUpTo (s : String) (limit : Nat) : s.Pos :=
  (boundaryUpTo? s limit).get (isSome_boundaryUpTo? s limit)

/-- The start of a text that fits into a number of bytes. -/
def cutText (budget : Nat) (s : String) : String :=
  if s.utf8ByteSize ≤ budget then s else (s.sliceTo (boundaryUpTo s budget)).copy

end ReleaseControl
