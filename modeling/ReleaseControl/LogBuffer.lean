/-!
# Log buffers

The last lines that an action logged, kept to give events context.
-/

namespace ReleaseControl

/-- The most recent lines of a log, oldest first, at most `capacity` of them. -/
structure LogBuffer where
  capacity : UInt64
  lines : List String := []
deriving Inhabited, DecidableEq

namespace LogBuffer

/-- The greatest capacity that memory can be asked for: a line takes 24 bytes, and all of them less
than half of what 64 bits address. -/
def maxCapacity : UInt64 := 384307168202282325

/-- A buffer without lines, if memory can be asked for its capacity. -/
def new? (capacity : UInt64) : Option LogBuffer :=
  if capacity ≤ maxCapacity then some { capacity := capacity } else none

/-- What a panic says where a capacity is too great. -/
def capacityMessage : String := "capacity overflow"

/-- The buffer after one more line, the oldest one dropped when it is full. -/
def log (b : LogBuffer) (line : String) : LogBuffer :=
  if b.capacity = 0 then b
  else if b.lines.length = b.capacity.toNat then { b with lines := b.lines.tail ++ [line] }
  else { b with lines := b.lines ++ [line] }

def isEmpty (b : LogBuffer) : Bool := b.lines.isEmpty

/-- The lines kept, one below the other. -/
def text (b : LogBuffer) : String := String.intercalate "\n" b.lines

/-- A message with the lines kept below it, if there are any. -/
def extend (b : LogBuffer) (message : String) : String :=
  if b.isEmpty then message else message ++ "\n\nLast Helm logs:\n\n" ++ b.text

end LogBuffer

end ReleaseControl
