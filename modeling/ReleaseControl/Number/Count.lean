/-!
# Counts

Counts of 64 bits, which go up by one and never start over: what would count past the largest
number breaks off in a panic instead.
-/

namespace ReleaseControl

/-- One more, unless the count is at the largest number. -/
def countUp? (n : Int64) : Option Int64 := if n = Int64.maxValue then none else some (n + 1)

/-- What a panic says where a count cannot go up. -/
def overflowMessage : String := "attempt to add with overflow"

end ReleaseControl
