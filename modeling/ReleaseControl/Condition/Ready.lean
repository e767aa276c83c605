import ReleaseControl.Condition.Basic

/-!
# Readiness

Readiness follows from the other conditions. A remediation means that the object is not ready;
else the tests decide if they count and have a result; else the last release action decides.
-/

namespace ReleaseControl

namespace Conditions

/-- The condition that readiness follows from, with the status that readiness takes. -/
def readySource? (cs : Conditions) (testsCount : Bool) : Option (ConditionStatus × Condition) :=
  match cs.get? .remediated with
  | some c => some (.false, c)
  | none =>
    match if testsCount then cs.get? .testSuccess else none with
    | some c => some (c.status, c)
    | none => (cs.get? .released).map fun c => (c.status, c)

/-- The conditions with readiness computed anew for a generation. It replaces the readiness that is
there, or goes to the front; without a condition that it follows from nothing changes. -/
def summarize (now : Instant) (generation : Int64) (testsCount : Bool) (cs : Conditions) :
    Conditions :=
  match cs.readySource? testsCount with
  | none => cs
  | some (status, source) =>
    cs.setFirst now
      { type := .ready
        status := status
        reason := source.reason
        message := source.message
        observedGeneration := generation }

end Conditions

end ReleaseControl
