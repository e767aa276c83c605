import ReleaseControl.Storage.Basic

/-!
# Witnessed storage

A driver that performs every operation as another one does and reports the record of each write
that succeeds. A removed record is answered and reported with the time of its removal, unless it
carries one already.

* `StorageOp.stamp`: the result as the witness passes it on.
* `StorageOp.report?`: the record that the witness reports of an operation.
* `Driver.witnessed`: the driver with a witness; its state also holds the reports, in order.
-/

namespace ReleaseControl

/-- The record marked as deleted at a time, unless it carries one already. -/
def Release.deletedAt (r : Release) (now : Instant) : Release :=
  { r with deleted := some (r.deleted.getD now) }

namespace StorageOp

/-- A result with the time of removal filled into a removed record. -/
def stamp (now : Instant) : (op : StorageOp) → op.Result → op.Result
  | .delete _, .ok r => .ok (Release.deletedAt r now)
  | _, result => result

/-- The record that a write reports; nothing for reads and failures. -/
def report? : (op : StorageOp) → op.Result → Option Release
  | .create _ r, .ok _ => some r
  | .update _ r, .ok _ => some r
  | .delete _, .ok r => some r
  | _, _ => none

end StorageOp

namespace Driver

variable {σ : Type}

/-- The driver with a witness whose clock shows `now`. -/
def witnessed (d : Driver σ) (now : Instant) : Driver (σ × List Release) where
  perform op s :=
    let (result, state) := d.perform op s.1
    let result := op.stamp now result
    (result, state, s.2 ++ (op.report? result).toList)

end Driver

end ReleaseControl
