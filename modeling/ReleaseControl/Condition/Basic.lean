import ReleaseControl.Codec.Record
import ReleaseControl.Instant.Text

/-!
# Conditions

What is known about an object, at most one condition of each type. Setting a condition replaces
the one of its type in place, and its transition time moves only when its status changes.

* `Conditions.get?`, `Conditions.isTrue`: reading.
* `Conditions.set`, `Conditions.setFirst`, `Conditions.delete`: writing; a condition of a new type
  goes to the end or to the front.
-/

namespace ReleaseControl

/-- What a condition is about. -/
inductive ConditionType where
  /-- Readiness, derived from the other conditions. -/
  | ready
  /-- The outcome of the last release action. -/
  | released
  /-- The outcome of the tests of the latest release. -/
  | testSuccess
  /-- The outcome of the last remediation. -/
  | remediated
deriving DecidableEq

namespace ConditionType

def all : List ConditionType := [.ready, .released, .testSuccess, .remediated]

def name : ConditionType → String
  | .ready => "Ready"
  | .released => "Released"
  | .testSuccess => "TestSuccess"
  | .remediated => "Remediated"

def codec : Codec ConditionType := .enumeration all name

end ConditionType

/-- Whether a condition holds, as far as is known. -/
inductive ConditionStatus where
  | true
  | false
  | unknown
deriving DecidableEq

namespace ConditionStatus

def all : List ConditionStatus := [.true, .false, .unknown]

def name : ConditionStatus → String
  | .true => "True"
  | .false => "False"
  | .unknown => "Unknown"

def codec : Codec ConditionStatus := .enumeration all name

end ConditionStatus

/-- One condition of an object. -/
structure Condition where
  type : ConditionType
  status : ConditionStatus
  reason : String := ""
  message : String := ""
  /-- The generation of the object that the condition was computed for. -/
  observedGeneration : Int64 := 0
  /-- When the status last changed. -/
  lastTransitionTime : Option String := none
deriving DecidableEq

/-- The conditions of an object, in order. -/
abbrev Conditions := List Condition

namespace Conditions

def get? (cs : Conditions) (type : ConditionType) : Option Condition := cs.find? (·.type == type)

/-- Whether the condition of a type is there and holds. -/
def isTrue (cs : Conditions) (type : ConditionType) : Bool :=
  match cs.get? type with
  | some c => c.status == .true
  | none => false

/-- The transition time of a condition that replaces another: the old one while the status stays,
else the new one or the time shown by the clock. -/
def transitionTime (now : Instant) (old new : Condition) : Option String :=
  if old.status = new.status ∧ old.lastTransitionTime.isSome then old.lastTransitionTime
  else some (new.lastTransitionTime.getD now.statusText)

/-- The conditions with the first of the type of `c` replaced by `c`. -/
def replace (now : Instant) (c : Condition) : Conditions → Conditions
  | [] => []
  | old :: rest =>
    if old.type = c.type then { c with lastTransitionTime := transitionTime now old c } :: rest
    else old :: replace now c rest

/-- A new condition, with the time shown by the clock unless it has one. -/
def timed (now : Instant) (c : Condition) : Condition :=
  { c with lastTransitionTime := some (c.lastTransitionTime.getD now.statusText) }

/-- The conditions with `c` in the place of the one of its type, or at the end. -/
def set (now : Instant) (c : Condition) (cs : Conditions) : Conditions :=
  if (cs.get? c.type).isSome then replace now c cs else cs ++ [timed now c]

/-- The conditions with `c` in the place of the one of its type, or at the front. -/
def setFirst (now : Instant) (c : Condition) (cs : Conditions) : Conditions :=
  if (cs.get? c.type).isSome then replace now c cs else timed now c :: cs

/-- The conditions without those of a type. -/
def delete (type : ConditionType) (cs : Conditions) : Conditions := cs.filter (·.type != type)

end Conditions

def Condition.record : Record Condition where
  name := "Condition"
  blank := { type := .ready, status := .unknown }
  fields :=
    [.required "type" ConditionType.codec (·.type) fun v s => { s with type := v },
     .required "status" ConditionStatus.codec (·.status) fun v s => { s with status := v },
     .defaulted "reason" .string "" (·.reason) fun v s => { s with reason := v },
     .defaulted "message" .string "" (·.message) fun v s => { s with message := v },
     .defaulted "observedGeneration" .int64 0 (·.observedGeneration)
       fun v s => { s with observedGeneration := v },
     .optional "lastTransitionTime" .string (·.lastTransitionTime)
       fun v s => { s with lastTransitionTime := v }]

def Condition.codec : Codec Condition := Condition.record.codec

def Conditions.codec : Codec Conditions := .list Condition.codec

end ReleaseControl
