import ReleaseControl.Event.Basic
import ReleaseControl.Http.Request

/-!
# Publishing events

An event is published in the namespace of its object. No reply changes anything for the one who
publishes.
-/

namespace ReleaseControl

namespace EventReporter

/-- The request that publishes a notice about an object; none where the namespace makes no path. -/
def publication? (r : EventReporter) (now : Instant) (o : HelmRelease) (n : Notice) :
    Option HttpRequest :=
  (HttpRequest.target?
    ("/apis/events.k8s.io/v1/namespaces/" ++ o.metadata.ns.getD "" ++ "/events?")).map
      fun target => ⟨"POST", target, some (r.event now o n)⟩

end EventReporter

end ReleaseControl
