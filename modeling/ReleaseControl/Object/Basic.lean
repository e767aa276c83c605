import ReleaseControl.Condition.Ready
import ReleaseControl.History.Observed
import ReleaseControl.Number.Count

/-!
# Objects

An object declares a chart release: which chart, under which names, with which values, how a failed
install is remedied and whether tests count. Its status tells what became of it.

* `HelmRelease`: metadata, specification and status.
* `HelmRelease.releaseName`, `HelmRelease.releaseNamespace`, `HelmRelease.storageNamespace`,
  `HelmRelease.generation`: what the specification leaves to defaults.
* `HelmRelease.mark`, `HelmRelease.summarize`: conditions set at the current generation.
* `InstallRemediation`: when a failed install has used up its retries.
-/

namespace ReleaseControl

/-! ## Specification -/

/-- A chart by name and version. -/
structure ChartRef where
  name : String
  version : Option String := none
deriving Inhabited, DecidableEq

/-- How failed installs are remedied. -/
structure InstallRemediation where
  /-- Retries before giving up; a negative number stands for no limit. -/
  retries : Int64 := 0
  ignoreTestFailures : Option Bool := none
  remediateLastFailure : Option Bool := none
deriving Inhabited, DecidableEq

/-- How the chart is installed. -/
structure InstallSpec where
  remediation : Option InstallRemediation := none
  createNamespace : Bool := false
deriving Inhabited, DecidableEq

/-- How the release is tested. -/
structure TestSpec where
  enable : Bool := false
  ignoreFailures : Bool := false
deriving Inhabited, DecidableEq

/-- The specification of an object. -/
structure HelmReleaseSpec where
  chart : ChartRef
  releaseName : Option String := none
  targetNamespace : Option String := none
  storageNamespace : Option String := none
  install : Option InstallSpec := none
  test : Option TestSpec := none
  values : Option Json := none
  suspend : Bool := false
deriving Inhabited

/-! ## Status -/

/-- An action on a release. -/
inductive ReleaseAction where
  | install
  | upgrade
  | test
  | rollback
  | uninstall
deriving DecidableEq

namespace ReleaseAction

def all : List ReleaseAction := [.install, .upgrade, .test, .rollback, .uninstall]

/-- The name in logs, events and counters. -/
def label : ReleaseAction → String
  | .install => "install"
  | .upgrade => "upgrade"
  | .test => "test"
  | .rollback => "rollback"
  | .uninstall => "uninstall"

def name : ReleaseAction → String
  | .install => "Install"
  | .upgrade => "Upgrade"
  | .test => "Test"
  | .rollback => "Rollback"
  | .uninstall => "Uninstall"

end ReleaseAction

/-- What became of an object. -/
structure HelmReleaseStatus where
  observedGeneration : Int64 := 0
  lastAttempted : Option ReleaseAction := none
  /-- Failed release actions of any kind. -/
  failures : Int64 := 0
  /-- Failed installs counted by the remediation of installs. -/
  installFailures : Int64 := 0
  /-- Failed upgrades counted by the remediation of upgrades. -/
  upgradeFailures : Int64 := 0
  history : History := []
  conditions : Conditions := []
deriving Inhabited, DecidableEq

/-- The status with one more failure, if there is a number for it. -/
def HelmReleaseStatus.countFailure? (s : HelmReleaseStatus) : Option HelmReleaseStatus :=
  (countUp? s.failures).map fun n => { s with failures := n }

/-! ## Objects -/

/-- The metadata of an object, as far as anything here reads it: other fields are neither kept nor
written. -/
structure ObjectMeta where
  name : Option String := none
  ns : Option String := none
  generation : Option Int64 := none
  labels : Option (Table String String) := none
  annotations : Option (Table String String) := none
  uid : Option String := none
  resourceVersion : Option String := none
deriving Inhabited, DecidableEq

/-- An object: what is declared, and what became of it. -/
structure HelmRelease where
  metadata : ObjectMeta
  spec : HelmReleaseSpec
  status : Option HelmReleaseStatus := none
deriving Inhabited

/-- A setting that counts only when it is not empty. -/
def nonEmpty? (s : Option String) : Option String := s.filter (· ≠ "")

namespace HelmRelease

/-- The name of the release: the one specified, else the name of the object behind the target
namespace, if there is one. -/
def releaseName (o : HelmRelease) : String :=
  match nonEmpty? o.spec.releaseName with
  | some name => name
  | none =>
    let name := o.metadata.name.getD ""
    match nonEmpty? o.spec.targetNamespace with
    | some target => target ++ "-" ++ name
    | none => name

/-- A namespace: the one specified, else that of the object, else `default`. -/
def namespaceOr (o : HelmRelease) (specified : Option String) : String :=
  ((nonEmpty? specified).or o.metadata.ns).getD "default"

/-- The namespace that the release is installed into. -/
def releaseNamespace (o : HelmRelease) : String := o.namespaceOr o.spec.targetNamespace

def storageNamespace (o : HelmRelease) : String := o.namespaceOr o.spec.storageNamespace

def install (o : HelmRelease) : InstallSpec := o.spec.install.getD {}

def test (o : HelmRelease) : TestSpec := o.spec.test.getD {}

def generation (o : HelmRelease) : Int64 := o.metadata.generation.getD 0

/-- The status, that of a new object when there is none. -/
def statusOrNew (o : HelmRelease) : HelmReleaseStatus := o.status.getD {}

/-- The object with its status changed, a new one when there is none. -/
def modifyStatus (o : HelmRelease) (f : HelmReleaseStatus → HelmReleaseStatus) : HelmRelease :=
  { o with status := some (f o.statusOrNew) }

/-- The object with its status changed, if it can be. -/
def modifyStatus? (o : HelmRelease) (f : HelmReleaseStatus → Option HelmReleaseStatus) :
    Option HelmRelease :=
  (f o.statusOrNew).map fun s => { o with status := some s }

/-- The object with a condition set at its current generation. -/
def mark (now : Instant) (type : ConditionType) (status : ConditionStatus)
    (reason message : String) (o : HelmRelease) : HelmRelease :=
  o.modifyStatus fun s =>
    { s with
      conditions := s.conditions.set now
        { type := type
          status := status
          reason := reason
          message := message
          observedGeneration := o.generation } }

/-- Whether the result of tests counts towards readiness. -/
def testsCount (o : HelmRelease) : Bool := o.test.enable && !o.test.ignoreFailures

/-- The object with its readiness computed anew. An object without status stays as it is. -/
def summarize (now : Instant) (o : HelmRelease) : HelmRelease :=
  { o with
    status := o.status.map fun s =>
      { s with conditions := s.conditions.summarize now o.generation o.testsCount } }

/-- The object with the observed snapshots merged into its history. -/
def mergeObserved (observed : ObservedSet) (o : HelmRelease) : HelmRelease :=
  o.modifyStatus fun s => { s with history := observed.mergeInto s.history }

end HelmRelease

/-! ## Remediation -/

/-- How failed installs are remedied, the defaults where nothing is specified. -/
def InstallSpec.remediationOrDefault (s : InstallSpec) : InstallRemediation :=
  s.remediation.getD {}

namespace InstallRemediation

def ignoresTestFailures (r : InstallRemediation) (default : Bool) : Bool :=
  r.ignoreTestFailures.getD default

/-- Whether the last failure is remedied once the retries are used up. -/
def remediatesLastFailure (r : InstallRemediation) : Bool := r.remediateLastFailure.getD false

def failureCount (_ : InstallRemediation) (s : HelmReleaseStatus) : Int64 := s.installFailures

/-- The status with one more failure counted, if there is a number for it. -/
def countFailure? (_ : InstallRemediation) (s : HelmReleaseStatus) : Option HelmReleaseStatus :=
  (countUp? s.installFailures).map fun n => { s with installFailures := n }

def retriesExhausted (r : InstallRemediation) (s : HelmReleaseStatus) : Bool :=
  0 ≤ r.retries && r.retries < r.failureCount s

end InstallRemediation

end ReleaseControl
