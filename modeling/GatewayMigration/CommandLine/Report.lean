import GatewayMigration.CommandLine.Command
import GatewayMigration.Gce.Provider
import GatewayMigration.Json.Printer
import GatewayMigration.Manifest.File
import GatewayMigration.Yaml.Printer

/-!
# Reports

What the program prints and with which code it ends. The objects go to the output, advice and
errors to the error output. Field errors end the program with a code of its own, though all that
could be converted is printed.

## Main definitions

* `Report`: the two outputs and the code
* `Report.print`: the report of a request
* `Report.ofArguments`: the report of the arguments of the program
-/

namespace GatewayMigration

/-- The providers of the program. -/
def Registry.standard : Registry := Registry.register ∅ Gce.provider.name Gce.provider

/-- What the program prints, and the code with which it ends. -/
structure Report where
  code : UInt8
  output : String
  errorOutput : String
  deriving DecidableEq, Inhabited, Repr

/-- Why the program ends with an error. -/
inductive Fault where
  | unknownProvider (name : String) (known : List String)
  /-- There is no cluster to read from. -/
  | noCluster
  | failure (cause : Failure)
  | fieldErrors (count : Nat)
  deriving DecidableEq, Repr

/-- The words for the end of the program. -/
def Fault.text : Fault → String
  | .unknownProvider name known =>
    "unknown provider " ++ name ++ ", known providers: " ++ ", ".intercalate known
  | .noCluster => "failed to load kubeconfig"
  | .failure cause => cause.headline
  | .fieldErrors count => "conversion finished with " ++ toString count ++ " error(s)"

namespace Report

/-- The line of a fault. -/
def faultLine (f : Fault) : String := "Error: " ++ f.text ++ "\n"

/-- A report of nothing but a fault. -/
def ofFault (f : Fault) : Report := ⟨1, "", faultLine f⟩

/-- The advice and the field errors of a provider. -/
def diagnostics (o : Output) : String :=
  (if o.notifications.isEmpty then ""
    else Notification.table o.provider o.notifications ++ "\n")
    ++ String.join (o.errors.map fun e => "error: " ++ o.provider ++ ": " ++ e.text ++ "\n")

/-- Documents in a format: one after the other, or as the items of a list. -/
def documents (format : OutputFormat) (docs : List Json) : String :=
  match format with
  | .yaml => String.join (docs.map fun d => "---\n" ++ Yaml.print d)
  | .json =>
    (Json.ofMembers [("apiVersion", .str "v1"), ("kind", .str "List"), ("items", .arr docs)]).pretty
      ++ "\n"

/-- The report of what the providers produced. -/
def ofOutputs (format : OutputFormat) (outputs : List Output) : Report :=
  let count := (outputs.flatMap Output.errors).length
  let body := documents format (outputs.flatMap fun o => o.resources.documents)
  let advice := String.join (outputs.map diagnostics)
  if count = 0 then ⟨0, body, advice⟩ else ⟨1, body, advice ++ faultLine (.fieldErrors count)⟩

/-- The files that the program can read. -/
abbrev Files := String → Except FileFault ByteArray

/-- The report of a request. All providers have to be known before anything is read. -/
def print (files : Files) (r : PrintRequest) : Report :=
  -- a name that is not known is reported before the manifest is looked at
  let known := Registry.standard.names
  match r.providers.find? (!known.contains ·) with
  | some name => ofFault (.unknownProvider name known)
  | none =>
    match r.inputFile with
    | none => ofFault .noCluster
    | some path =>
      let source := Source.manifest (Manifest.ofFile path (files path))
      match (Registry.standard.run r.ns source r.providers).1 with
      | .error cause => ofFault (.failure cause)
      | .ok outputs => ofOutputs r.format outputs

/-- The name and the version of the program. -/
def versionLine : String := "i2gw 0.1.0\n"

/-- How to call the program. -/
def usage : String :=
  "Usage: i2gw [--log-json] print --providers <PROVIDERS>... [--input-file <FILE>]\n" ++
  "         [-n <NAMESPACE> | -A] [-o yaml|json]\n"

/-- The report of the arguments of the program. -/
def ofArguments (files : Files) (arguments : List String) : Report :=
  match Command.ofArguments? arguments with
  | none => ⟨2, "", usage⟩
  | some .usage => ⟨0, usage, ""⟩
  | some .version => ⟨0, versionLine, ""⟩
  | some (.print r) => print files r

end Report

end GatewayMigration
