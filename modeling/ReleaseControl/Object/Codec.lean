import ReleaseControl.Object.Basic

/-!
# Objects as JSON

The codecs of objects and their parts. An object is written with its API version and its kind,
whatever it was read with.
-/

namespace ReleaseControl

def apiVersion : String := "helm.microscaler.io/v1"

def objectKind : String := "HelmRelease"

/-! ## Specification -/

def ChartRef.record : Record ChartRef where
  name := "ChartRef"
  blank := default
  fields :=
    [.required "name" .string (·.name) fun v s => { s with name := v },
     .optional "version" .string (·.version) fun v s => { s with version := v }]

def ChartRef.codec : Codec ChartRef := ChartRef.record.codec

def InstallRemediation.record : Record InstallRemediation where
  name := "InstallRemediation"
  blank := default
  fields :=
    [.defaulted "retries" .int64 0 (·.retries) fun v s => { s with retries := v },
     .optional "ignoreTestFailures" .bool (·.ignoreTestFailures)
       fun v s => { s with ignoreTestFailures := v },
     .optional "remediateLastFailure" .bool (·.remediateLastFailure)
       fun v s => { s with remediateLastFailure := v }]

def InstallRemediation.codec : Codec InstallRemediation := InstallRemediation.record.codec

def InstallSpec.record : Record InstallSpec where
  name := "InstallSpec"
  blank := default
  fields :=
    [.optional "remediation" InstallRemediation.codec (·.remediation)
       fun v s => { s with remediation := v },
     .defaulted "createNamespace" .bool false (·.createNamespace)
       fun v s => { s with createNamespace := v }]

def InstallSpec.codec : Codec InstallSpec := InstallSpec.record.codec

def TestSpec.record : Record TestSpec where
  name := "TestSpec"
  blank := default
  fields :=
    [.defaulted "enable" .bool false (·.enable) fun v s => { s with enable := v },
     .defaulted "ignoreFailures" .bool false (·.ignoreFailures)
       fun v s => { s with ignoreFailures := v }]

def TestSpec.codec : Codec TestSpec := TestSpec.record.codec

def HelmReleaseSpec.record : Record HelmReleaseSpec where
  name := "HelmReleaseSpec"
  blank := default
  fields :=
    [.required "chart" ChartRef.codec (·.chart) fun v s => { s with chart := v },
     .optional "releaseName" .string (·.releaseName) fun v s => { s with releaseName := v },
     .optional "targetNamespace" .string (·.targetNamespace)
       fun v s => { s with targetNamespace := v },
     .optional "storageNamespace" .string (·.storageNamespace)
       fun v s => { s with storageNamespace := v },
     .optional "install" InstallSpec.codec (·.install) fun v s => { s with install := v },
     .optional "test" TestSpec.codec (·.test) fun v s => { s with test := v },
     .optional "values" .json (·.values) fun v s => { s with values := v },
     .defaulted "suspend" .bool false (·.suspend) fun v s => { s with suspend := v }]

def HelmReleaseSpec.codec : Codec HelmReleaseSpec := HelmReleaseSpec.record.codec

/-! ## Status -/

def ReleaseAction.codec : Codec ReleaseAction := .enumeration ReleaseAction.all ReleaseAction.name

def HelmReleaseStatus.record : Record HelmReleaseStatus where
  name := "HelmReleaseStatus"
  blank := default
  fields :=
    [.defaulted "observedGeneration" .int64 0 (·.observedGeneration)
       fun v s => { s with observedGeneration := v },
     .optional "lastAttemptedReleaseAction" ReleaseAction.codec (·.lastAttempted)
       fun v s => { s with lastAttempted := v },
     .defaulted "failures" .int64 0 (·.failures) fun v s => { s with failures := v },
     .defaulted "installFailures" .int64 0 (·.installFailures)
       fun v s => { s with installFailures := v },
     .defaulted "upgradeFailures" .int64 0 (·.upgradeFailures)
       fun v s => { s with upgradeFailures := v },
     .defaulted "history" History.codec [] (·.history) fun v s => { s with history := v },
     .defaulted "conditions" Conditions.codec [] (·.conditions)
       fun v s => { s with conditions := v }]

def HelmReleaseStatus.codec : Codec HelmReleaseStatus := HelmReleaseStatus.record.codec

/-! ## Objects -/

def ObjectMeta.record : Record ObjectMeta where
  name := "ObjectMeta"
  blank := default
  lenient := true
  fields :=
    [.optional "annotations" (.table .string) (·.annotations)
       fun v s => { s with annotations := v },
     .optional "generation" .int64 (·.generation) fun v s => { s with generation := v },
     .optional "labels" (.table .string) (·.labels) fun v s => { s with labels := v },
     .optional "name" .string (·.name) fun v s => { s with name := v },
     .optional "namespace" .string (·.ns) fun v s => { s with ns := v },
     .optional "resourceVersion" .string (·.resourceVersion)
       fun v s => { s with resourceVersion := v },
     .optional "uid" .string (·.uid) fun v s => { s with uid := v }]

def ObjectMeta.codec : Codec ObjectMeta := ObjectMeta.record.codec

def HelmRelease.record : Record HelmRelease where
  name := "HelmRelease"
  blank := default
  fields :=
    [.required "metadata" ObjectMeta.codec (·.metadata) fun v s => { s with metadata := v },
     .required "spec" HelmReleaseSpec.codec (·.spec) fun v s => { s with spec := v },
     .nullable "status" HelmReleaseStatus.codec (·.status) fun v s => { s with status := v }]

/-- How an object is written: its API version and kind go in front of its fields. -/
def HelmRelease.codec : Codec HelmRelease :=
  { HelmRelease.record.codec with
    encode := fun o =>
      .obj (("apiVersion", .str apiVersion) :: ("kind", .str objectKind)
        :: HelmRelease.record.entries o) }

end ReleaseControl
