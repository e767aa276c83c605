import ReleaseControl.CommandLine.Arguments
import ReleaseControl.Object.Definition
import ReleaseControl.Object.Overview
import ReleaseControl.Object.Remote
import ReleaseControl.Yaml.Text
import ReleaseControl.Yaml.Typed

/-!
# Reports

What a command leaves: an exit code, what it prints, and what it has to say about an error.

* `CommandError`: why a command fails, with its `message`.
* `Report.summary`, `Report.status`, `Report.definition`, `Report.refusal`: the reports of the
  commands, from what was read for them.
-/

namespace ReleaseControl

/-! ## Errors -/

/-- Why a command fails. -/
inductive CommandError where
  /-- The standard input is no text. -/
  | unreadableInput
  /-- A file is missing or no text. -/
  | unreadableFile (file : String)
  /-- What was read is no manifest of an object. -/
  | noManifest (file : String)
  /-- There is no cluster to ask. -/
  | noCluster
  /-- The cluster does not answer with the object. -/
  | noObject (ns name : String)
deriving DecidableEq

def CommandError.message : CommandError → String
  | .unreadableInput => "Failed to read HelmRelease from stdin"
  | .unreadableFile file => "Failed to read " ++ file
  | .noManifest file => "Failed to parse HelmRelease from " ++ file
  | .noCluster => "Failed to create Kubernetes client. Ensure kubeconfig is configured."
  | .noObject ns name => "Failed to get HelmRelease '" ++ ns ++ "/" ++ name ++ "'"

/-! ## Reports -/

/-- What a command leaves. -/
structure Report where
  exitCode : Nat := 0
  /-- What goes to the standard output. -/
  output : String := ""
  /-- What goes to the standard error. -/
  complaint : String := ""
deriving Inhabited, DecidableEq

/-- The file name that stands for the standard input. -/
def standardInput : String := "-"

def joinLines (lines : List String) : String := String.join (lines.map (· ++ "\n"))

def usageLines : List String :=
  ["HelmRelease controller CLI",
   "",
   "Usage: hrctl <COMMAND>",
   "",
   "Commands:",
   "  summarize --file <FILE>                         Recompute the Ready condition",
   "  status --name <NAME> [--namespace <NAMESPACE>]  Show status of a HelmRelease resource",
   "  crd                                             Print the CustomResourceDefinition"]

namespace Report

def ofError (e : CommandError) : Report :=
  { exitCode := 1, complaint := "Error: " ++ e.message ++ "\n" }

/-- The report of what a command prints, or of the error that it fails with. -/
def ofResult : Except CommandError String → Report
  | .ok text => { output := text }
  | .error e => ofError e

/-- The report when there is no command to run. -/
def refusal : Refusal → Report
  | .help => { output := joinLines usageLines }
  | .usage => { exitCode := 2, complaint := joinLines usageLines }

/-- The conditions of the object of a manifest, with its readiness computed anew. -/
def summarized (now : Instant) (file : String) (text : Option String) :
    Except CommandError String :=
  match text with
  | none => .error (if file = standardInput then .unreadableInput else .unreadableFile file)
  | some text =>
    match HelmRelease.codec.ofYaml? text with
    | none => .error (.noManifest file)
    | some o => .ok (Conditions.codec.encode (o.summarize now).statusOrNew.conditions).yamlText

/-- The report of a summary of a file, from the text of the file if it could be read. -/
def summary (now : Instant) (file : String) (text : Option String) : Report :=
  ofResult (summarized now file text)

/-- The report of the status of an object, from the reply to the request for it if there was
one. -/
def status (ns name : String) (reply : Option HttpReply) : Report :=
  match reply.bind HelmRelease.ofReply? with
  | some o => { output := joinLines (o.overview ns name) }
  | none => ofError (.noObject ns name)

/-- The report of the definition of the resource. -/
def definition : Report := { output := Definition.resource.yamlText }

end Report

end ReleaseControl
