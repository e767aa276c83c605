import ReleaseControl.Object.Codec

/-!
# Definition of the resource

How an API server is told of the kind of objects: its names, its scope, and the schema of its
specification and its status.

* `Definition.resource`: the definition as a value.
-/

namespace ReleaseControl.Definition

/-! ## Schemas -/

abbrev Schema := List (String × Json)

/-- A description of what a schema is for. -/
def about (text : String) : Schema := [("description", .str text)]

def nullable : Schema := [("nullable", .bool true)]

/-- The value of a field that is missing. -/
def byDefault (v : Json) : Schema := [("default", v)]

def text : Schema := [("type", .str "string")]

def oneOf (names : List String) : Schema := ("enum", .arr (names.map .str)) :: text

def flag : Schema := [("type", .str "boolean")]

/-- A whole number of so many bits. -/
def whole (format : String) : Schema := [("format", .str format), ("type", .str "integer")]

def list (item : Schema) : Schema := [("items", .obj item), ("type", .str "array")]

def table (value : Schema) : Schema :=
  [("additionalProperties", .obj value), ("type", .str "object")]

/-- A record with the given fields, some of them required. -/
def record (required : List String) (fields : List (String × Schema)) : Schema :=
  [("properties", .obj (fields.map fun (name, schema) => (name, .obj schema))),
   ("type", .str "object")]
    ++ if required.isEmpty then [] else [("required", .arr (required.map .str))]

def counter : Schema := byDefault (.int default) ++ whole "int64"

def switch : Schema := byDefault (.bool false) ++ flag

/-! ## Specification -/

def chart : Schema :=
  record ["name"]
    [("name", about "Chart name" ++ text),
     ("version", about "Chart version or semver range" ++ nullable ++ text)]

def remediation : Schema :=
  record []
    [("ignoreTestFailures",
       about ("Ignore test failures when deciding whether to remediate\n"
         ++ "Defaults to `test.ignoreFailures`") ++ nullable ++ flag),
     ("remediateLastFailure",
       about "Remediate the last failure once retries are exhausted" ++ nullable ++ flag),
     ("retries",
       about "Number of retries before giving up; negative means unlimited" ++ counter)]

def install : Schema :=
  record []
    [("createNamespace", about "Create the target namespace if it does not exist" ++ switch),
     ("remediation", about "Remediation strategy for failed installs" ++ nullable ++ remediation)]

def test : Schema :=
  record []
    [("enable", about "Run the chart's test hooks after install and upgrade" ++ switch),
     ("ignoreFailures",
       about "Do not let test failures affect readiness or trigger remediation" ++ switch)]

/-- What a specification is for, with an example. -/
def specificationText : String :=
  String.intercalate "\n"
    ["HelmRelease Custom Resource Definition",
     "",
     "Declares a chart and the values to release it with. The controller",
     "installs, upgrades, tests and remediates the release to match.",
     "",
     "# Example",
     "",
     "```yaml",
     "apiVersion: helm.microscaler.io/v1",
     "kind: HelmRelease",
     "metadata:",
     "  name: podinfo",
     "  namespace: apps",
     "spec:",
     "  chart:",
     "    name: podinfo",
     "    version: 6.5.4",
     "  install:",
     "    remediation:",
     "      retries: 3",
     "  test:",
     "    enable: true",
     "  values:",
     "    replicaCount: 2",
     "```"]

def specification : Schema :=
  about specificationText ++ record ["chart"]
    [("chart", about "Chart to release" ++ chart),
     ("install", about "Install action configuration" ++ nullable ++ install),
     ("releaseName",
       about ("Name of the Helm release\n"
         ++ "Defaults to `<targetNamespace>-<name>` when a target namespace is set,\n"
         ++ "otherwise to the object name") ++ nullable ++ text),
     ("storageNamespace",
       about ("Namespace of the Helm release storage\n"
         ++ "Defaults to the namespace of the HelmRelease") ++ nullable ++ text),
     ("suspend", about "Suspend reconciliation of this release" ++ switch),
     ("targetNamespace",
       about ("Namespace the release is installed into\n"
         ++ "Defaults to the namespace of the HelmRelease") ++ nullable ++ text),
     ("test", about "Test action configuration" ++ nullable ++ test),
     ("values",
       about "Values passed to the chart"
         ++ [("type", .str "object"), ("x-kubernetes-preserve-unknown-fields", .bool true)])]

/-! ## Status -/

def condition : Schema :=
  about "Condition represents a condition of a resource" ++ record ["status", "type"]
    [("lastTransitionTime", about "Last transition time (RFC3339)" ++ nullable ++ text),
     ("message", byDefault (.str "") ++ about "Message describing the condition" ++ text),
     ("observedGeneration", about "Generation the condition was computed against" ++ counter),
     ("reason", byDefault (.str "") ++ about "Reason for the condition" ++ text),
     ("status",
       about "Status of the condition (True, False, Unknown)"
         ++ oneOf (ConditionStatus.all.map (·.name))),
     ("type", about "Type of condition" ++ oneOf (ConditionType.all.map (·.name)))]

def testHook : Schema :=
  about "Last run of a test hook" ++ record []
    [("lastCompleted", nullable ++ text),
     ("lastStarted", nullable ++ text),
     ("phase", nullable ++ text)]

def snapshot : Schema :=
  about "Snapshot of a release as written to the Helm storage" ++ record
    ["chartName", "chartVersion", "configDigest", "digest", "name", "namespace", "status",
     "version"]
    [("appVersion", about "Chart application version" ++ nullable ++ text),
     ("chartName", about "Chart name" ++ text),
     ("chartVersion", about "Chart version" ++ text),
     ("configDigest", about "Digest of the values the release was made with" ++ text),
     ("deleted",
       about "Deletion time (RFC3339), set when the record was removed from storage"
         ++ nullable ++ text),
     ("digest", about "Digest of the stored release record" ++ text),
     ("firstDeployed", about "First deployment time (RFC3339)" ++ nullable ++ text),
     ("lastDeployed", about "Last deployment time (RFC3339)" ++ nullable ++ text),
     ("name", about "Release name" ++ text),
     ("namespace", about "Release namespace" ++ text),
     ("status", about "Release status (deployed, failed, pending-install, ...)" ++ text),
     ("testHooks",
       about "Test hooks by name; present once the release has been tested"
         ++ nullable ++ table testHook),
     ("version", about "Release revision" ++ whole "int32")]

/-- The schema of the last action, which may be none. -/
def lastAction : Schema :=
  [("enum", .arr (ReleaseAction.all.map (fun a => .str a.name) ++ [.null]))] ++ nullable ++ text

def status : Schema :=
  about ("Status of the HelmRelease resource\n\n"
    ++ "The durable state of the reconciliation core. Every field must\n"
    ++ "round-trip through the API server unchanged.") ++ nullable ++ record []
    [("conditions",
       byDefault (.arr []) ++ about "Conditions represent the latest available observations"
         ++ list condition),
     ("failures",
       about ("Total number of failed release actions\n"
         ++ "Reset by policy outside the action reconcilers") ++ counter),
     ("history",
       byDefault (.arr []) ++ about "Releases made for this object, most recent last"
         ++ list snapshot),
     ("installFailures",
       about "Failed install attempts counted by the install remediation strategy" ++ counter),
     ("lastAttemptedReleaseAction",
       about "Last release action the controller attempted" ++ lastAction),
     ("observedGeneration", about "Last generation the controller reconciled" ++ counter),
     ("upgradeFailures",
       about "Failed upgrade attempts counted by the upgrade remediation strategy" ++ counter)]

/-! ## Resource -/

def objectSchema : Schema :=
  [("title", .str objectKind)]
    ++ about "Auto-generated derived type for HelmReleaseSpec via `CustomResource`"
    ++ record ["spec"] [("spec", specification), ("status", status)]

/-- A column that shows a part of the condition of readiness. -/
def readyColumn (name part : String) : Json :=
  .obj
    [("jsonPath", .str (".status.conditions[?(@.type==\"Ready\")]." ++ part)),
     ("name", .str name),
     ("type", .str "string")]

/-- The version of objects that is served. -/
def version : Json :=
  .obj
    [("additionalPrinterColumns",
       .arr [readyColumn "Ready" "status", readyColumn "Status" "message"]),
     ("name", .str "v1"),
     ("schema", .obj [("openAPIV3Schema", .obj objectSchema)]),
     ("served", .bool true),
     ("storage", .bool true),
     ("subresources", .obj [("status", .obj [])])]

def resource : Json :=
  Json.normalize <| .obj
    [("apiVersion", .str "apiextensions.k8s.io/v1"),
     ("kind", .str "CustomResourceDefinition"),
     ("metadata", .obj [("name", .str "helmreleases.helm.microscaler.io")]),
     ("spec", .obj
       [("group", .str "helm.microscaler.io"),
        ("names", .obj
          [("categories", .arr []),
           ("kind", .str objectKind),
           ("plural", .str "helmreleases"),
           ("shortNames", .arr [.str "hr"]),
           ("singular", .str "helmrelease")]),
        ("scope", .str "Namespaced"),
        ("versions", .arr [version])])]

end ReleaseControl.Definition
