import GatewayMigration.Gce.Inventory
import GatewayMigration.Json.Raw
import GatewayMigration.Notification

/-!
# References to configuration objects

A Service names its BackendConfig in an annotation whose value is a JSON text, with an annotation
for each version. Only a single configuration for all ports can be converted.

## Main definitions

* `Gce.PortConfigs`: what an annotation says
* `Gce.ConfigVersion`: the two versions, with their annotations
* `Gce.resolve`: the configuration that a Service refers to
* `Gce.referrers`: the Services that refer to each configuration of a version
-/

namespace GatewayMigration.Gce

/-- What an annotation says: the configuration for all ports, and those for single ports. -/
structure PortConfigs where
  default : String
  ports : OrderedMap String String

namespace PortConfigs

/-- A string that has a value. -/
def string? : RawJson → Option String
  | .str s => s
  | _ => none

/-- A map with string values. -/
def ports? : RawJson → Option (OrderedMap String String)
  | .obj members =>
    (members.mapM fun (m : Option String × RawJson) => do
      return (← m.1, ← string? m.2)).map .ofList
  | _ => none

/-- Read the members of an object. A member that is not known may hold anything, but every key
must have a value, and neither of the known members may be repeated. -/
def ofMembers? (members : List (Option String × RawJson)) : Option PortConfigs := do
  let named ← members.mapM fun m => m.1.map (·, m.2)
  let only (k : String) : Option (Option RawJson) :=
    match named.filter (·.1 == k) with
    | [] => some none
    | [m] => some (some m.2)
    | _ => none
  let default ← match ← only "default" with
    | none => some ""
    | some v => string? v
  let ports ← match ← only "ports" with
    | none => some ∅
    | some v => ports? v
  return ⟨default, ports⟩

/-- Read the value of an annotation, which may also be the array of the leading members. -/
def ofRaw? : RawJson → Option PortConfigs
  | .obj members => ofMembers? members
  | .arr [] => some ⟨"", ∅⟩
  | .arr [d] => do return ⟨← string? d, ∅⟩
  | .arr [d, p] => do return ⟨← string? d, ← ports? p⟩
  | _ => none

/-- Read the text of an annotation. -/
def ofText? (text : String) : Option PortConfigs := (RawJson.ofText? text).bind ofRaw?

/-- The one configuration that an annotation names, or why it names none. -/
def single (text : String) : Except String String :=
  match ofText? text with
  | none => .error "BackendConfig annotation is invalid json"
  | some c =>
    if c.default.isEmpty && c.ports.isEmpty then
      .error "No BackendConfig's found in annotation"
    else if !c.ports.isEmpty then
      .error ("Only config with default is supported since HealthCheckPolicy is attached on the "
        ++ "whole service")
    else
      .ok c.default

end PortConfigs

/-- The versions of a BackendConfig. -/
inductive ConfigVersion where
  | v1
  | v1beta1
  deriving DecidableEq, Inhabited

namespace ConfigVersion

def text : ConfigVersion → String
  | .v1 => "v1"
  | .v1beta1 => "v1beta1"

/-- The annotation of a Service that names a BackendConfig of the version. -/
def annotation : ConfigVersion → String
  | .v1 => "cloud.google.com/backend-config"
  | .v1beta1 => "beta.cloud.google.com/backend-config"

/-- The BackendConfigs of the version. -/
def configs (v : ConfigVersion) (inventory : Inventory) : OrderedMap ObjectName BackendConfig :=
  match v with
  | .v1 => inventory.backendConfigs
  | .v1beta1 => inventory.betaBackendConfigs

end ConfigVersion

/-- The configuration that a Service names for a version, and a notification if its annotation
cannot be used. -/
def namedConfig (v : ConfigVersion) (s : Service) : Option String × List Notification :=
  match s.metadata.annotation? v.annotation with
  | none => (none, [])
  | some text =>
    match PortConfigs.single text with
    | .ok name => (some name, [])
    | .error message => (none, [⟨.error, message, some s.ref⟩])

/-- The version and the name of the configuration that a Service refers to, and notifications for
annotations that cannot be used. The annotation of the version before is looked at only where the
other one names nothing. -/
def resolve (s : Service) : Option (ConfigVersion × String) × List Notification :=
  match namedConfig .v1 s with
  | (some name, notes) => (some (.v1, name), notes)
  | (none, notes) =>
    let (name, more) := namedConfig .v1beta1 s
    (name.map (.v1beta1, ·), notes ++ more)

/-- The Services that refer to each configuration of a version, in order. -/
def referrers (v : ConfigVersion) (services : OrderedMap ObjectName Service) :
    OrderedMap ObjectName (List ObjectName) :=
  services.entries.foldl (fun m e =>
    match (resolve e.2).1 with
    | some (v', name) =>
      if v' = v then m.upsert ⟨e.1.ns, name⟩ (fun l => l.getD [] ++ [e.1]) else m
    | none => m) ∅

end GatewayMigration.Gce
