/-!
# Replies of an API server
-/

namespace ReleaseControl

/-- A reply of an API server: its status code and its body. -/
structure HttpReply where
  code : Nat
  body : String
deriving Inhabited, DecidableEq

namespace HttpReply

/-- Whether the reply refuses the request, by a fault of the client or of the server. -/
def isRefusal (r : HttpReply) : Bool := 400 ≤ r.code && r.code < 600

end HttpReply

end ReleaseControl
