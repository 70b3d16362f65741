/-!
# Names made from hosts

A host becomes part of an object name by writing a dash for each run of characters that such a
name cannot hold.

## Main definitions

* `Protocol`: the protocol of a listener
* `HostName.objectName`: the part of an object name that stands for a host
* `HostName.routeName`, `HostName.listenerName`: the names of the routes and listeners of a host
-/

namespace GatewayMigration

/-- The protocol of a listener. -/
inductive Protocol where
  | http
  | https
  deriving DecidableEq, Inhabited, Repr

namespace Protocol

def text : Protocol → String
  | .http => "HTTP"
  | .https => "HTTPS"

/-- The end of a listener's name. -/
def suffix : Protocol → String
  | .http => "http"
  | .https => "https"

def ofText? : String → Option Protocol
  | "HTTP" => some .http
  | "HTTPS" => some .https
  | _ => none

@[simp] theorem ofText?_text (p : Protocol) : ofText? p.text = some p := by cases p <;> rfl

end Protocol

namespace HostName

/-- An ASCII letter or digit. -/
def isNameChar (c : Char) : Bool := c.isAlphanum

/-- The characters with a dash in place of each run of characters that are no letter or digit; a
run that began before the first character leaves no dash. -/
def dashed : (inRun : Bool) → List Char → List Char
  | _, [] => []
  | inRun, c :: cs =>
    if isNameChar c then c :: dashed false cs
    else if inRun then dashed true cs
    else '-' :: dashed true cs

/-- Runs become single dashes, and a run at the front is dropped. -/
def sanitize (cs : List Char) : List Char := dashed true cs

/-- The part of an object name that stands for a host. A wildcard before a domain has a word of
its own, so that it does not meet the domain itself. -/
def objectName (host : String) : String :=
  match host.toList with
  | [] | ['*'] => "all-hosts"
  | '*' :: '.' :: domain => "wildcard-" ++ String.ofList (sanitize domain)
  | cs => String.ofList (sanitize cs)

/-- The name of the route of a host that the Ingress is the first to mention. -/
def routeName (ingress host : String) : String := ingress ++ "-" ++ objectName host

/-- The name of the listener of a host, or of the listener for all hosts. -/
def listenerName (host : Option String) (protocol : Protocol) : String :=
  match host with
  | none | some "" => protocol.suffix
  | some host => objectName host ++ "-" ++ protocol.suffix

end HostName

end GatewayMigration
