import ReleaseControl.History.Snapshot

/-!
# Release history

The snapshots of the releases made for an object, the most recent one last.
-/

namespace ReleaseControl

/-- A release history, the most recent snapshot last. -/
abbrev History := List Snapshot

namespace History

def latest? (h : History) : Option Snapshot := h.getLast?

/-- The first snapshot of a revision of a release. -/
def get? (h : History) (name ns : String) (version : Int32) : Option Snapshot :=
  h.find? (·.targets name ns version)

def truncate (h : History) (max : Nat) : History := h.drop (h.length - max)

def codec : Codec History := .list Snapshot.codec

end History

end ReleaseControl
