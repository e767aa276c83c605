import ReleaseControl.Json.Text
import ReleaseControl.Sha256

/-!
# Digests

A digest names a value by the SHA-256 hash of its canonical text, so it does not depend on the
order in which objects list their entries.
-/

namespace ReleaseControl

def digestText (s : String) : String := "sha256:" ++ Sha256.hexOfText s

/-- The digest of a value: that of its canonical text. -/
def Json.digest (v : Json) : String := digestText v.canonicalText

end ReleaseControl
