import ReleaseControl.Metrics.Counter

/-!
# Counters of actions

How often release actions were carried out and with which result, and how many failures were
counted towards a remediation. Counting goes on whether or not the counters are exposed.
-/

namespace ReleaseControl

/-- The result of a release action. -/
inductive ActionResult where
  /-- The action succeeded. -/
  | success
  /-- The action failed after it had written to storage. -/
  | failure
  /-- The action failed without a write to storage. -/
  | error
deriving DecidableEq

/-- The name of a result in counters. -/
def ActionResult.name : ActionResult → String
  | .success => "success"
  | .failure => "failure"
  | .error => "error"

/-- The counter of actions carried out, by result. -/
def reconciliationCounter : Counter where
  name := "helm_release_action_reconciliations_total"
  help := "Total number of release action reconciliations by outcome"
  labels := ["action", "result"]

/-- The counter of failures that count towards a remediation. -/
def remediationCounter : Counter where
  name := "helm_release_remediation_failures_total"
  help := "Total number of failures counted towards a remediation strategy"
  labels := ["action"]

/-- Why counters are not exposed. -/
inductive MetricsError where
  | alreadyRegistered
deriving DecidableEq

def MetricsError.message : MetricsError → String
  | .alreadyRegistered => "Duplicate metrics collector registration attempted"

/-- What has been counted, and whether it is exposed. -/
structure Counters where
  registered : Bool := false
  reconciliations : Samples := .empty
  remediationFailures : Samples := .empty
deriving Inhabited

namespace Counters

def register (c : Counters) : Except MetricsError Counters :=
  if c.registered then .error .alreadyRegistered else .ok { c with registered := true }

/-- One more action carried out with a result. -/
def countReconciliation (action : String) (result : ActionResult) (c : Counters) : Counters :=
  { c with reconciliations := c.reconciliations.increment [action, result.name] }

/-- One more failure of an action that counts towards a remediation. -/
def countRemediationFailure (action : String) (c : Counters) : Counters :=
  { c with remediationFailures := c.remediationFailures.increment [action] }

/-- How often an action was carried out with a result. -/
def reconciliationCount (c : Counters) (action : String) (result : ActionResult) : Nat :=
  c.reconciliations.count [action, result.name]

/-- How many failures of an action count towards a remediation. -/
def remediationFailureCount (c : Counters) (action : String) : Nat :=
  c.remediationFailures.count [action]

/-- The exposed text, nothing while the counters are not exposed. -/
def text (c : Counters) : String :=
  if c.registered then
    reconciliationCounter.text c.reconciliations ++ remediationCounter.text c.remediationFailures
  else ""

end Counters

end ReleaseControl
