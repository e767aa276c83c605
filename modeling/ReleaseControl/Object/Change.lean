import ReleaseControl.Object.Basic

/-!
# Changes

What is done to an object between installs.
-/

namespace ReleaseControl

namespace HelmRelease

/-- What is done to an object between installs. -/
inductive Change where
  /-- A condition set in its place or at the end. -/
  | set (now : Instant) (c : Condition)
  /-- A condition set in its place or at the front. -/
  | setFirst (now : Instant) (c : Condition)
  /-- The conditions of a type deleted. -/
  | delete (type : ConditionType)
  /-- A condition set at the current generation. -/
  | mark (now : Instant) (type : ConditionType) (status : ConditionStatus) (reason message : String)
  /-- Readiness computed anew. -/
  | summarize (now : Instant)
  /-- Observed releases merged into the history. -/
  | merge (observed : ObservedSet)
  /-- All but the newest snapshots dropped. -/
  | truncate (max : Nat)
  /-- All snapshots dropped. -/
  | clear
  /-- One more failure of any kind. -/
  | countFailure
  /-- One more failure that counts towards remediation. -/
  | countInstallFailure (remediation : InstallRemediation)

/-- The object once a change has been made. A count that cannot go up panics and changes nothing. -/
def Change.apply (o : HelmRelease) : Change → HelmRelease
  | .set now c => o.modifyStatus fun s => { s with conditions := s.conditions.set now c }
  | .setFirst now c => o.modifyStatus fun s => { s with conditions := s.conditions.setFirst now c }
  | .delete type => o.modifyStatus fun s => { s with conditions := s.conditions.delete type }
  | .mark now type status reason message => o.mark now type status reason message
  | .summarize now => o.summarize now
  | .merge observed => o.mergeObserved observed
  | .truncate max => o.modifyStatus fun s => { s with history := s.history.truncate max }
  | .clear => o.modifyStatus fun s => { s with history := [] }
  | .countFailure => (o.modifyStatus? HelmReleaseStatus.countFailure?).getD o
  | .countInstallFailure remediation => (o.modifyStatus? remediation.countFailure?).getD o

end HelmRelease

end ReleaseControl
