import ReleaseControl.History.Basic
import ReleaseControl.Storage.Basic

/-!
# Observed releases

The snapshots of the records written during one action, one for each storage key. A later write
under the same key replaces the snapshot at its place, so the snapshots stay in the order in which
their keys were first written.

* `ObservedSet.record`: one more write.
* `ObservedSet.mergeInto`: the history with the observed snapshots merged in.
-/

namespace ReleaseControl

/-- The storage key of the revision that a snapshot is of. -/
def Snapshot.key (s : Snapshot) : String := storageKey s.name s.version

/-- Snapshots of written records, in the order in which their keys were first written. -/
structure ObservedSet where
  snapshots : List Snapshot
deriving Inhabited, DecidableEq

/-- A snapshot put in the place of the first one with the same key, or at the end. -/
def recordSnapshot (s : Snapshot) : List Snapshot → List Snapshot
  | [] => [s]
  | e :: rest => if e.key = s.key then s :: rest else e :: recordSnapshot s rest

/-- The history with a snapshot in the place of the first one of the same revision, or at its end.
A snapshot with the same digest is left alone. -/
def History.put (s : Snapshot) : History → History
  | [] => [s]
  | e :: rest =>
    if e.targets s.name s.ns s.version then
      if e.digest = s.digest then e :: rest else s :: rest
    else e :: put s rest

namespace ObservedSet

def empty : ObservedSet := ⟨[]⟩

def record (o : ObservedSet) (s : Snapshot) : ObservedSet := ⟨recordSnapshot s o.snapshots⟩

/-- The set after a written record has been observed. -/
def observe (o : ObservedSet) (r : Release) : ObservedSet := o.record r.toSnapshot

def ofReleases (rs : List Release) : ObservedSet := rs.foldl observe empty

def find? (o : ObservedSet) (key : String) : Option Snapshot :=
  o.snapshots.find? (·.key == key)

def isEmpty (o : ObservedSet) : Bool := o.snapshots.isEmpty

def size (o : ObservedSet) : Nat := o.snapshots.length

/-- The history with the observed snapshots merged in, in their order. -/
def mergeInto (o : ObservedSet) (h : History) : History :=
  o.snapshots.foldl (fun h s => History.put s h) h

end ObservedSet

end ReleaseControl
