import ReleaseControl.History.Snapshot

/-!
# Storage of release records

Storage is a keyed store behind five operations. An operation determines the type of its answer,
and a driver performs operations on a state of its own.

* `StorageOp`, `StorageOp.Answer`, `StorageError`: the operations, their answers, their failures.
* `Driver`: what performs them; `Driver.runAll`: a whole sequence of them.
* `storageKey`: the key of a revision.
-/

namespace ReleaseControl

/-- The key of a revision of a release: `sh.helm.release.v1.NAME.vVERSION`. -/
def storageKey (name : String) (version : Int32) : String :=
  "sh.helm.release.v1." ++ name ++ ".v" ++ versionText version

/-- The key that a record is meant to be stored under. -/
def Release.key (r : Release) : String := storageKey r.name r.version

/-- Why storage rejects an operation. -/
inductive StorageError where
  | notFound (key : String)
  | alreadyExists (key : String)
  | driver (cause : String)
deriving DecidableEq

def StorageError.message : StorageError → String
  | .notFound key => "release: not found: " ++ key
  | .alreadyExists key => "release: already exists: " ++ key
  | .driver cause => "release storage driver error: " ++ cause

/-- An operation on storage. -/
inductive StorageOp where
  /-- The record under a key. -/
  | get (key : String)
  /-- Stores a record under a key that is free. -/
  | create (key : String) (release : Release)
  /-- Replaces the record under a key that is taken. -/
  | update (key : String) (release : Release)
  /-- Removes the record under a key and answers with it. -/
  | delete (key : String)
  /-- All records of the release of a name, in the order of their keys. -/
  | list (name : String)

namespace StorageOp

/-- The answer to an operation that succeeds. -/
def Answer : StorageOp → Type
  | .get _ => Release
  | .create _ _ => Unit
  | .update _ _ => Unit
  | .delete _ => Release
  | .list _ => List Release

/-- The answer to an operation, or why storage rejects it. -/
abbrev Result (op : StorageOp) : Type := Except StorageError op.Answer

def isWrite : StorageOp → Bool
  | .create _ _ | .update _ _ | .delete _ => true
  | .get _ | .list _ => false

end StorageOp

/-- What performs operations on states of type `σ`. -/
structure Driver (σ : Type) where
  perform : (op : StorageOp) → σ → op.Result × σ

/-- An operation with its result. -/
structure Exchange where
  op : StorageOp
  result : op.Result

namespace Driver

variable {σ : Type}

/-- The results of a sequence of operations, and the state after it. -/
def runAll (d : Driver σ) : List StorageOp → σ → List Exchange × σ
  | [], s => ([], s)
  | op :: ops, s =>
    let (result, s) := d.perform op s
    let (exchanges, s) := d.runAll ops s
    (⟨op, result⟩ :: exchanges, s)

/-- A driver whose every operation fails with the same error. -/
def broken (e : StorageError) : Driver σ where
  perform _ s := (.error e, s)

end Driver

end ReleaseControl
