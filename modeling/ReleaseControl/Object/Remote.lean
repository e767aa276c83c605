import ReleaseControl.Codec.Once
import ReleaseControl.Http.Reply
import ReleaseControl.Http.Request
import ReleaseControl.Json.Reader
import ReleaseControl.Object.Codec

/-!
# Objects of an API server

An object is fetched by its namespace and its name. The reply has to be the object itself, with no
field twice and with values that are not nested too deeply.

* `HelmRelease.query?`: the request for an object.
* `HelmRelease.ofReply?`: the object of a reply.
-/

namespace ReleaseControl

namespace HelmRelease

/-- The request for an object; none where the names make no path. -/
def query? (ns name : String) : Option HttpRequest :=
  if name = "" then none
  else
    (HttpRequest.target?
      ("/apis/" ++ apiVersion ++ "/namespaces/" ++ ns ++ "/helmreleases/" ++ name ++ "?")).map
        fun target => { method := "GET", target := target }

/-- How many arrays and objects the values of a chart may be nested, the object and its
specification being two more around them. -/
def maxValuesDepth : Nat := 125

/-- The object of a reply, unless the reply refuses the request or holds something else. -/
def ofReply? (r : HttpReply) : Option HelmRelease := do
  if r.isRefusal then none
  else
    let v ← Json.read? r.body
    let o ← (codec.decodeOnce v).toOption
    if (o.spec.values.map (·.depth)).getD 0 ≤ maxValuesDepth then some o else none

end HelmRelease

end ReleaseControl
