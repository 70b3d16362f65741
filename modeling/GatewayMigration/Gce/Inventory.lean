import GatewayMigration.Cluster
import GatewayMigration.Gce.Config
import GatewayMigration.Manifest
import GatewayMigration.Service

/-!
# What is read for Google Cloud

## Main definitions

* `Gce.Inventory`: the objects that take part in a conversion, by name
* `Gce.Inventory.ofDocuments`: those of a manifest
* `Gce.Inventory.ofCluster`: those of a cluster
-/

namespace GatewayMigration.Gce

/-- The ingress class of external load balancers. -/
def externalClass : String := "gce"

/-- The ingress class of internal load balancers. -/
def internalClass : String := "gce-internal"

/-- An Ingress without a class belongs to Google Cloud; one of another class does not. -/
def isOurs (i : Ingress) : Bool :=
  match i.className? with
  | none => true
  | some c => c == externalClass || c == internalClass

/-- The objects that take part in a conversion. -/
structure Inventory where
  ingresses : OrderedMap ObjectName Ingress
  services : OrderedMap ObjectName Service
  /-- The BackendConfigs in the stable version. -/
  backendConfigs : OrderedMap ObjectName BackendConfig
  /-- The BackendConfigs in the version before. -/
  betaBackendConfigs : OrderedMap ObjectName BackendConfig
  frontendConfigs : OrderedMap ObjectName FrontendConfig
  deriving DecidableEq, Inhabited

namespace Inventory

/-- Nothing was read. -/
def empty : Inventory := ⟨∅, ∅, ∅, ∅, ∅⟩

/-- The inventory of lists of objects; Ingresses of other classes are left out. -/
def ofLists (ingresses : List Ingress) (services : List Service)
    (backendConfigs betaBackendConfigs : List BackendConfig)
    (frontendConfigs : List FrontendConfig) : Inventory where
  ingresses := Ingress.resource.index (ingresses.filter isOurs)
  services := Service.resource.index services
  backendConfigs := BackendConfig.v1.index backendConfigs
  betaBackendConfigs := BackendConfig.v1beta1.index betaBackendConfigs
  frontendConfigs := FrontendConfig.resource.index frontendConfigs

/-- The objects of a manifest, in one namespace if one is given. -/
def ofDocuments (ns : Option String) (docs : List Json) : Except Failure Inventory := do
  let ingresses ← Manifest.decode Ingress.resource ns docs
  let services ← Manifest.decode Service.resource ns docs
  let backendConfigs ← Manifest.decode BackendConfig.v1 ns docs
  let betaBackendConfigs ← Manifest.decode BackendConfig.v1beta1 ns docs
  let frontendConfigs ← Manifest.decode FrontendConfig.resource ns docs
  return ofLists ingresses services backendConfigs betaBackendConfigs frontendConfigs

/-- The objects of a cluster, in one namespace if one is given. -/
def ofCluster (ns : Option String) : Session Inventory := do
  let ingresses ← Session.list Ingress.resource ns
  let services ← Session.list Service.resource ns
  let backendConfigs ← Session.list BackendConfig.v1 ns
  let betaBackendConfigs ← Session.list BackendConfig.v1beta1 ns
  let frontendConfigs ← Session.list FrontendConfig.resource ns
  return ofLists ingresses services backendConfigs betaBackendConfigs frontendConfigs

end Inventory

end GatewayMigration.Gce
