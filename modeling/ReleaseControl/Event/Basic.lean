import ReleaseControl.Object.Codec
import ReleaseControl.Settings
import ReleaseControl.Text.Cut

/-!
# Events

What is told about an object, and the form in which an API server is told.

* `Notice`: what an action tells about the object.
* `EventReporter.event`: the event of a notice.
-/

namespace ReleaseControl

/-- How grave an event is. -/
inductive Severity where
  | normal
  | warning
deriving DecidableEq

def Severity.name : Severity → String
  | .normal => "Normal"
  | .warning => "Warning"

/-- Which release an event is about. -/
structure EventMetadata where
  /-- The version of the chart. -/
  revision : String
  /-- The digest of the values. -/
  token : String
deriving DecidableEq

def EventMetadata.annotations (m : EventMetadata) : Table String String :=
  Table.ofList
    [("helm.microscaler.io/revision", m.revision), ("helm.microscaler.io/token", m.token)]

/-- What an action tells about an object. -/
structure Notice where
  metadata : EventMetadata
  severity : Severity
  reason : String
  message : String
deriving DecidableEq

/-- The most bytes that the note of an event may have. -/
def maxNoteBytes : Nat := 1024

/-- The note of an event: the start of the message that fits. -/
def eventNote (message : String) : String := cutText maxNoteBytes message

/-- Who reports events. -/
structure EventReporter where
  controller : String
  instanceName : String
deriving DecidableEq

namespace EventReporter

/-- The reporter of the settings; its instance is the pod, where its name is known. -/
def ofSettings (s : Settings) (podName : Option String) : EventReporter where
  controller := s.eventReporter
  instanceName := podName.getD s.eventReporter

/-- The entry of a field that may be unset. -/
def textEntry (name : String) (value : Option String) : List (String × Json) :=
  value.toList.map fun s => (name, .str s)

/-- The reference to an object that an event is about. -/
def reference (o : HelmRelease) : Json :=
  .obj (("apiVersion", .str apiVersion) :: ("kind", .str objectKind)
    :: (textEntry "name" o.metadata.name ++ textEntry "namespace" o.metadata.ns
      ++ textEntry "uid" o.metadata.uid))

/-- The metadata of the event of a notice about an object. -/
def eventMetadata (o : HelmRelease) (n : Notice) : Json :=
  .obj (("annotations", (Codec.table .string).encode n.metadata.annotations)
    :: ("generateName", .str (o.metadata.name.getD "" ++ "."))
    :: textEntry "namespace" o.metadata.ns)

/-- The event of a notice about an object, reported at a time. -/
def event (r : EventReporter) (now : Instant) (o : HelmRelease) (n : Notice) : Json :=
  .obj
    [("action", .str n.reason),
     ("apiVersion", .str "events.k8s.io/v1"),
     ("eventTime", .str now.eventText),
     ("kind", .str "Event"),
     ("metadata", eventMetadata o n),
     ("note", .str (eventNote n.message)),
     ("reason", .str n.reason),
     ("regarding", reference o),
     ("reportingController", .str r.controller),
     ("reportingInstance", .str r.instanceName),
     ("type", .str n.severity.name)]

end EventReporter

end ReleaseControl
