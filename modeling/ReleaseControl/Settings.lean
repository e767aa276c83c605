import ReleaseControl.Json.Reader

/-!
# Settings

What the environment of the controller decides, each with a default for what is unset or cannot
be read.
-/

namespace ReleaseControl

/-- A size written in decimal digits, with an optional plus sign, if it fits in 64 bits. -/
def sizeOfText? (s : String) : Option UInt64 :=
  let digits := match s.toList with
    | '+' :: rest => rest
    | cs => cs
  if digits.isEmpty || !digits.all Char.isDigit then none
  else
    let n := Json.digitsValue digits
    if n < 0x10000000000000000 then some (.ofNat n) else none

/-- The settings of the controller. -/
structure Settings where
  /-- How many lines of an action's log are kept for events. -/
  logCapacity : UInt64 := 10
  /-- The controller that events name as their reporter. -/
  eventReporter : String := "helm-release-controller"
deriving Inhabited, DecidableEq

namespace Settings

/-- The settings that the variables of an environment give. -/
def ofEnvironment (lookup : String → Option String) : Settings where
  logCapacity := ((lookup "ACTION_LOG_BUFFER_SIZE").bind sizeOfText?).getD 10
  eventReporter := (lookup "EVENT_REPORTER").getD "helm-release-controller"

end Settings

end ReleaseControl
