import GatewayMigration.FieldError
import GatewayMigration.Gce.Policy

/-!
# Gateway API objects

A topology is written as Gateway API objects, one for each Gateway and route. Policies of providers
come after them.

## Main definitions

* `GatewayResources`: the objects of a conversion
* `GatewayResources.documents`: all of them in the order in which they are printed
* `Topology.lower`: the objects of a topology, with the routes whose Gateway is missing
-/

namespace GatewayMigration

open Json

/-- The objects of a conversion, each as its document, and the policies of providers. -/
structure GatewayResources where
  gateways : OrderedMap ObjectName Json
  httpRoutes : OrderedMap ObjectName Json
  tlsRoutes : OrderedMap ObjectName Json
  tcpRoutes : OrderedMap ObjectName Json
  udpRoutes : OrderedMap ObjectName Json
  referenceGrants : OrderedMap ObjectName Json
  policies : List Gce.Policy
  deriving DecidableEq

namespace GatewayResources

/-- There is no object and no policy. -/
def isEmpty (r : GatewayResources) : Bool :=
  r.gateways.isEmpty && r.httpRoutes.isEmpty && r.tlsRoutes.isEmpty && r.tcpRoutes.isEmpty
    && r.udpRoutes.isEmpty && r.referenceGrants.isEmpty && r.policies.isEmpty

/-- All documents, Gateways first and policies last. -/
def documents (r : GatewayResources) : List Json :=
  r.gateways.values ++ r.httpRoutes.values ++ r.tlsRoutes.values ++ r.tcpRoutes.values
    ++ r.udpRoutes.values ++ r.referenceGrants.values ++ r.policies.map Gce.Policy.toJson

end GatewayResources

/-- A document of the Gateway API. -/
def gatewayApiDocument (kind : String) (name : ObjectName) (spec : Json) : Json :=
  .object [
    ("apiVersion", some (.str "gateway.networking.k8s.io/v1")),
    ("kind", some (.str kind)),
    ("metadata", some (Metadata.ofName name).toJson),
    ("spec", some spec)]

namespace Listener

/-- A listener in the specification of a Gateway. -/
def toSpec (l : Listener) : Json :=
  .object [
    ("hostname", l.hostname.map .str),
    ("name", some (.str l.name)),
    ("port", some (.ofUInt16 l.port)),
    ("protocol", some (.str l.protocol.text)),
    ("tls", l.certificates.map fun names => .object [
      ("certificateRefs", some (.arr (names.map fun n => .object [("name", some (.str n))])))])]

end Listener

namespace Gateway

/-- The document of a Gateway. -/
def toDocument (name : ObjectName) (g : Gateway) : Json :=
  gatewayApiDocument "Gateway" name (.object [
    ("gatewayClassName", some (.str g.className)),
    ("listeners", some (.arr (g.listeners.map Listener.toSpec)))])

end Gateway

namespace ParentRef

/-- A Gateway in the specification of a route. -/
def toSpec (r : ParentRef) : Json :=
  .object [
    ("name", some (.str r.name)), ("namespace", r.ns.map .str),
    ("sectionName", r.sectionName.map .str)]

end ParentRef

namespace PathMatch

/-- A match in the specification of a route. -/
def toSpec (m : PathMatch) : Json :=
  .object [("path", some (.object [
    ("type", some (.str m.parts.1)), ("value", some (.str m.parts.2))]))]

end PathMatch

namespace BackendRef

/-- A backend in the specification of a route. -/
def toSpec : BackendRef → Json
  | .service name port => .object [("name", some (.str name)), ("port", some (.ofUInt16 port))]
  | .resource group kind name =>
    .object [("group", group.map .str), ("kind", some (.str kind)), ("name", some (.str name))]

end BackendRef

namespace RouteRule

/-- A rule in the specification of a route. -/
def toSpec (r : RouteRule) : Json :=
  .object [
    ("backendRefs", some (.arr (r.backends.map BackendRef.toSpec))),
    ("matches", ofNonempty (r.pathMatches.map PathMatch.toSpec))]

end RouteRule

namespace HttpRoute

/-- The document of a route. -/
def toDocument (name : ObjectName) (r : HttpRoute) : Json :=
  gatewayApiDocument "HTTPRoute" name (.object [
    ("hostnames", ofNonempty (r.hostnames.map .str)),
    ("parentRefs", some (.arr (r.parents.map ParentRef.toSpec))),
    ("rules", some (.arr (r.rules.map RouteRule.toSpec)))])

/-- The first Gateway of a route that does not exist, with its position. -/
def missingParent? (gateways : OrderedMap ObjectName Gateway) (name : ObjectName) (r : HttpRoute) :
    Option (Nat × ObjectName) :=
  (r.parents.mapIdx fun i p => (i, p.target name)).find? fun p => !gateways.contains p.2

/-- The error of a route whose Gateway does not exist. -/
def parentError? (gateways : OrderedMap ObjectName Gateway) (name : ObjectName) (r : HttpRoute) :
    Option FieldError :=
  (r.missingParent? gateways name).map fun p =>
    ((FieldError.here .notFound ("Gateway " ++ p.2.text ++ " does not exist")).under
      [.field "spec", .field "parentRefs", .index p.1]).ofObject ⟨"HTTPRoute", name⟩

end HttpRoute

namespace Topology

/-- The Gateway API objects of a topology. Each route with a Gateway that does not exist is
reported once, and written all the same. -/
def lower (t : Topology) : GatewayResources × List FieldError :=
  ({ gateways := t.gateways.mapValues Gateway.toDocument
     httpRoutes := t.httpRoutes.mapValues HttpRoute.toDocument
     tlsRoutes := t.tlsRoutes
     tcpRoutes := t.tcpRoutes
     udpRoutes := t.udpRoutes
     referenceGrants := t.referenceGrants
     policies := [] },
   t.httpRoutes.entries.filterMap fun e => e.2.parentError? t.gateways e.1)

end Topology

/-- The Gateway API objects of a topology with the policies of Google Cloud: those of the Services,
then those of the Gateways. -/
def Gce.lower (t : Topology) : GatewayResources × List FieldError :=
  let (resources, errors) := t.lower
  let ofServices := t.services.entries.flatMap fun e =>
    (e.2.gce.map (·.policies e.1)).getD []
  let ofGateways := t.gateways.entries.flatMap fun e =>
    (e.2.gce?.map (·.policies e.1)).getD []
  ({ resources with policies := ofServices ++ ofGateways }, errors)

end GatewayMigration
