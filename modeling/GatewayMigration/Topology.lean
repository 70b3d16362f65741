import GatewayMigration.Gce.Settings
import GatewayMigration.HostName
import GatewayMigration.Json
import GatewayMigration.Object

/-!
# Routing topologies

Gateways with their listeners, the routes that attach to them, and what providers add to Gateways
and Services. Ingresses are converted into a topology, a provider adds its settings, and the
result is written as Gateway API objects.

## Main definitions

* `Listener`, `Gateway`: a Gateway and the hosts it listens for
* `PathMatch`, `BackendRef`, `RouteRule`, `HttpRoute`: where requests go
* `Topology`: all of it, keyed by object name
* `Topology.Edit`, `Topology.edit?`: single changes, for providers that build a topology by hand
-/

namespace GatewayMigration

/-- A host and port that a Gateway listens on. -/
structure Listener where
  name : String
  /-- The host; every host when there is none. -/
  hostname : Option String
  port : UInt16
  protocol : Protocol
  /-- The Secrets with the certificates, in the namespace of the Gateway. -/
  certificates : Option (List String)
  deriving DecidableEq, Inhabited

/-- What providers add to a Gateway; each has a field of its own. -/
structure GatewayExtension where
  gce : Option Gce.GatewaySettings
  deriving DecidableEq, Inhabited

/-- A Gateway. -/
structure Gateway where
  className : String
  listeners : List Listener
  extension : Option GatewayExtension
  deriving DecidableEq, Inhabited

namespace Gateway

/-- A Gateway of a class without listeners. -/
def ofClass (className : String) : Gateway := ⟨className, [], none⟩

/-- Add a listener, unless there is one with its name. -/
def addListener (g : Gateway) (l : Listener) : Gateway :=
  if g.listeners.any (·.name == l.name) then g else { g with listeners := g.listeners ++ [l] }

/-- Set what Google Cloud adds to a Gateway; with no value the Gateway still gets a place for
additions. -/
def extend (g : Gateway) (gce : Option Gce.GatewaySettings) : Gateway :=
  let extension := g.extension.getD ⟨none⟩
  { g with extension := some { extension with gce := gce.or extension.gce } }

/-- The Google Cloud settings. -/
def gce? (g : Gateway) : Option Gce.GatewaySettings := g.extension.bind (·.gce)

end Gateway

/-- A reference from a route to a Gateway. -/
structure ParentRef where
  name : String
  /-- The namespace of the Gateway; that of the route when there is none. -/
  ns : Option String
  sectionName : Option String
  deriving DecidableEq, Inhabited

/-- The Gateway of a name in the namespace of the route. -/
def ParentRef.gateway (name : String) : ParentRef := ⟨name, none, none⟩

/-- The Gateway that a reference from a route means. -/
def ParentRef.target (route : ObjectName) (r : ParentRef) : ObjectName :=
  ⟨r.ns.getD route.ns, r.name⟩

/-- A condition on the path of a request. -/
inductive PathMatch where
  /-- The path starts with the value, by whole segments. -/
  | pathPrefix (value : String)
  | exact (value : String)
  deriving DecidableEq, Inhabited

/-- Where a rule sends requests. -/
inductive BackendRef where
  /-- A port of a Service in the namespace of the route. -/
  | service (name : String) (port : UInt16)
  /-- Any other object in the namespace of the route. -/
  | resource (group : Option String) (kind name : String)
  deriving DecidableEq, Inhabited

/-- Requests with any of the matches go to the backends; no match stands for every request. -/
structure RouteRule where
  pathMatches : List PathMatch
  backends : List BackendRef
  deriving DecidableEq, Inhabited

/-- A route for some hosts; no host stands for every host. -/
structure HttpRoute where
  parents : List ParentRef
  hostnames : List String
  rules : List RouteRule
  deriving DecidableEq, Inhabited

/-- What providers add to a Service; each has a field of its own. -/
structure ServiceExtension where
  gce : Option Gce.ServiceSettings
  deriving DecidableEq, Inhabited

/-- A routing topology. The routes of other protocols and the grants between namespaces have no
counterpart among Ingresses and are kept as they are given. -/
structure Topology where
  gateways : OrderedMap ObjectName Gateway
  httpRoutes : OrderedMap ObjectName HttpRoute
  tlsRoutes : OrderedMap ObjectName Json
  tcpRoutes : OrderedMap ObjectName Json
  udpRoutes : OrderedMap ObjectName Json
  referenceGrants : OrderedMap ObjectName Json
  services : OrderedMap ObjectName ServiceExtension
  deriving DecidableEq, Inhabited

namespace Topology

/-- The topology with nothing in it. -/
def empty : Topology := ⟨∅, ∅, ∅, ∅, ∅, ∅, ∅⟩

instance : EmptyCollection Topology := ⟨empty⟩

/-- Change a Gateway, which has the class if it is new. -/
def withGateway (t : Topology) (key : ObjectName) (className : String) (f : Gateway → Gateway) :
    Topology :=
  { t with gateways := t.gateways.upsert key fun g => f (g.getD (.ofClass className)) }

/-- Set what Google Cloud adds to a Service; with no value the Service still gets a place for
additions. -/
def extendService (t : Topology) (key : ObjectName) (gce : Option Gce.ServiceSettings) :
    Topology :=
  { t with services := t.services.upsert key fun s => ⟨gce.or (s.bind (·.gce))⟩ }

/-- A single change of a topology. -/
inductive Edit where
  /-- Put a Gateway without listeners in place of any that is there. -/
  | newGateway (className : String)
  | addListener (listener : Listener)
  | extendGateway (gce : Option Gce.GatewaySettings)
  | extendService (gce : Option Gce.ServiceSettings)

/-- Make a change at an object name; `none` when it needs a Gateway that is not there. -/
def edit? (t : Topology) (key : ObjectName) : Edit → Option Topology
  | .newGateway className => some { t with gateways := t.gateways.insert key (.ofClass className) }
  | .addListener listener =>
    if t.gateways.contains key then
      some { t with gateways := t.gateways.adjust key (·.addListener listener) }
    else none
  | .extendGateway gce =>
    if t.gateways.contains key then
      some { t with gateways := t.gateways.adjust key (·.extend gce) }
    else none
  | .extendService gce => some (t.extendService key gce)

end Topology

end GatewayMigration
