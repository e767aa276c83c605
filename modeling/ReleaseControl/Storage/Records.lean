import ReleaseControl.Storage.Basic

/-!
# Records in memory

A driver whose state is a table of records. A failed operation leaves the table as it is.
-/

namespace ReleaseControl

abbrev Records := Table String Release

namespace Records

/-- The result of an operation on a table of records, and the table after it. -/
def perform : (op : StorageOp) → Records → op.Result × Records
  | .get key, t =>
    match t.find? key with
    | some r => (.ok r, t)
    | none => (.error (.notFound key), t)
  | .create key r, t =>
    if t.contains key then (.error (.alreadyExists key), t) else (.ok (), t.insert key r)
  | .update key r, t =>
    if t.contains key then (.ok (), t.insert key r) else (.error (.notFound key), t)
  | .delete key, t =>
    match t.find? key with
    | some r => (.ok r, t.erase key)
    | none => (.error (.notFound key), t)
  | .list name, t => (.ok (t.values.filter (·.name == name)), t)

/-- The driver that keeps records in a table. -/
def driver : Driver Records := ⟨perform⟩

end Records

end ReleaseControl
