/-!
# Failures

A failure ends a conversion without a result, where a field error only leaves something out.

## Main definitions

* `Failure`: the causes
* `Failure.headline`: the words for a cause, without the details that its source adds
-/

namespace GatewayMigration

/-- Why a file cannot be read. -/
inductive FileFault where
  | notFound
  | isDirectory
  /-- The bytes are not UTF-8. -/
  | invalidData
  | inaccessible
  deriving DecidableEq, Inhabited, Repr

/-- Why a conversion ends without a result. -/
inductive Failure where
  | unreadable (path : String) (fault : FileFault)
  /-- The text of a manifest is not YAML. -/
  | malformed (path : String)
  /-- An object has the type asked for but not its shape. -/
  | undecodable (kind name : String)
  /-- The cluster does not list the kind; `code` is the code of its error, if it sent one. -/
  | unlistable (kind : String) (code : Option Nat)
  /-- A provider cannot read its input. -/
  | provider (name : String) (source : Failure)
  | unknownProvider (name : String)
  deriving DecidableEq, Inhabited, Repr

namespace Failure

/-- The words for a failure, without the details of its source. -/
def headline : Failure → String
  | .unreadable path _ => "failed to read " ++ path
  | .malformed path => "failed to parse manifest " ++ path
  | .undecodable kind name => "failed to decode " ++ kind ++ " " ++ name
  | .unlistable kind _ => "failed to list " ++ kind ++ " from the cluster"
  | .provider name source => "failed to read " ++ name ++ " resources: " ++ source.headline
  | .unknownProvider name => "unknown provider: " ++ name

/-- The words for a failure, up to where the details of its source follow. -/
def message : Failure → String
  | .unknownProvider name => headline (.unknownProvider name)
  | .provider name source => "failed to read " ++ name ++ " resources: " ++ source.message
  | f => f.headline ++ ": "

end Failure

end GatewayMigration
