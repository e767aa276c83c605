import ReleaseControl.Object.Basic

/-!
# Overviews

What is shown to a reader of an object: the release that it declares, then its status with the
counters, the history from the latest release on, and the conditions.

* `HelmRelease.overview`: the lines of the overview.
-/

namespace ReleaseControl

def labelled (label value : String) : String := label ++ ": " ++ value

def counterText (n : Int64) : String := String.ofList (intChars n.toInt)

/-- Chart and version, or the chart alone where any version will do. -/
def ChartRef.text (c : ChartRef) : String :=
  match c.version with
  | some version => c.name ++ "@" ++ version
  | none => c.name

def Snapshot.line (s : Snapshot) : String :=
  "  " ++ s.fullReleaseName ++ " " ++ s.versionedChartName ++ " (" ++ s.status ++ ")"

def Condition.lines (c : Condition) : List String :=
  [labelled ("  " ++ c.type.name) c.status.name, labelled "    Reason" c.reason,
   labelled "    Message" c.message]
    ++ (c.lastTransitionTime.map (labelled "    Last Transition")).toList

/-- Lines under a heading, and an empty line in front; nothing when there are no lines. -/
def underHeading (heading : String) (lines : List String) : List String :=
  if lines.isEmpty then [] else "" :: heading :: lines

namespace HelmReleaseStatus

def counterLines (s : HelmReleaseStatus) : List String :=
  labelled "  Observed Generation" (counterText s.observedGeneration)
    :: (s.lastAttempted.map fun a => labelled "  Last Attempted Action" a.label).toList
    ++ [labelled "  Failures" (counterText s.failures),
        labelled "  Install Failures" (counterText s.installFailures),
        labelled "  Upgrade Failures" (counterText s.upgradeFailures)]

def lines (s : HelmReleaseStatus) : List String :=
  underHeading "Status:" s.counterLines
    ++ underHeading "History:" (s.history.reverse.map (·.line))
    ++ underHeading "Conditions:" (s.conditions.flatMap (·.lines))

end HelmReleaseStatus

namespace HelmRelease

def releaseLines (o : HelmRelease) : List String :=
  ["Release:", labelled "  Name" o.releaseName, labelled "  Namespace" o.releaseNamespace,
   labelled "  Storage Namespace" o.storageNamespace, labelled "  Chart" o.spec.chart.text]

def statusLines (o : HelmRelease) : List String :=
  match o.status with
  | some s => s.lines
  | none => ["", "Status: No status available (resource may not have been reconciled yet)"]

/-- The overview of the object that was asked for under a namespace and a name. -/
def overview (o : HelmRelease) (ns name : String) : List String :=
  ["Status for HelmRelease '" ++ ns ++ "/" ++ name ++ "':", ""] ++ o.releaseLines ++ o.statusLines

end HelmRelease

end ReleaseControl
