import GatewayMigration.Conversion
import GatewayMigration.Gce.Enrichment
import GatewayMigration.Provider

/-!
# The provider for Google Cloud

Ingresses of the two classes of Google Cloud, and those without a class, become Gateways of the
matching classes. BackendConfigs and FrontendConfigs become policies.

## Main definitions

* `Gce.specificPath`: the match of a path with the meaning that Google Cloud gives it
* `Gce.setClasses`: put the class of the Gateway controller in place of the ingress class
* `Gce.convert`: the topology of what was read
* `Gce.provider`: the provider
-/

namespace GatewayMigration.Gce

/-- A path that ends in a wildcard matches what starts with the rest of it, and any other path
itself only. -/
def specificPath (path : String) : PathMatch :=
  if "/*".toList.isSuffixOf path.toList then
    let front := String.ofList (path.toList.take (path.length - 2))
    .pathPrefix (if front.isEmpty then "/" else front)
  else
    .exact path

/-- What Google Cloud decides about Ingresses. -/
def options : ConversionOptions := ⟨some specificPath, some externalClass⟩

/-- The class of the Gateway controller for an ingress class. -/
def gatewayClass? (ingressClass : String) : Option String :=
  if ingressClass = externalClass then some "gke-l7-global-external-managed"
  else if ingressClass = internalClass then some "gke-l7-rilb"
  else none

/-- The Gateways of a class that the controller does not have. -/
def unsupported (t : Topology) : List ObjectName :=
  (t.gateways.entries.filter fun e => (gatewayClass? e.2.className).isNone).map (·.1)

/-- Put the class of the Gateway controller in place of the ingress class. A Gateway of any other
class is removed with its routes, and reported for each Ingress of the class. -/
def setClasses (ingresses : List Ingress) (t : Topology) : Topology × List FieldError :=
  let gone := unsupported t
  ({ t with
     gateways := (t.gateways.filter fun key _ => !gone.contains key).mapValues fun _ g =>
       { g with className := (gatewayClass? g.className).getD g.className }
     httpRoutes := t.httpRoutes.filter fun key route =>
       !route.parents.any fun p => gone.contains (p.target key) },
   ingresses.filterMap fun i =>
     if gone.contains (gatewayOf i) then
       some ((FieldError.here .notSupported
         ("Ingress class not supported: " ++ i.className?.getD externalClass)).ofObject i.ref)
     else none)

/-- The topology of what was read, with field errors and notifications. -/
def convert (inventory : Inventory) : Topology × List FieldError × List Notification :=
  let ingresses := inventory.ingresses.values
  let (topology, errors) := GatewayMigration.convert options ingresses
  let (topology, classErrors) := setClasses ingresses topology
  let (topology, notifications) :=
    configureGateways inventory (configureServices inventory topology)
  (topology, errors ++ classErrors, notifications)

/-- The provider for Google Cloud. -/
def provider : Provider where
  name := "gce"
  Store := Inventory
  initial := .empty
  ofDocuments := Inventory.ofDocuments
  ofCluster := Inventory.ofCluster
  convert := convert
  lower := lower

end GatewayMigration.Gce
