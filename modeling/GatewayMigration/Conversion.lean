import GatewayMigration.RuleGroup

/-!
# Converting Ingresses

Every rule group becomes a route and listeners of the Gateway of its namespace and class. Groups
are taken in the order of their keys. Two hosts can have one name; the first group to use a name
of a route or listener keeps it, and a later group for another host is reported and left out as a
whole.

## Main definitions

* `RuleGroup.listeners`: the listeners of a group
* `Draft`: a topology in the making, with the conflicts so far
* `Draft.place`, `Draft.placeDefault`: add a group, or a default backend, or report it
* `convert`: the topology of a list of Ingresses, with all errors
-/

namespace GatewayMigration

/-! ### Listeners -/

namespace IngressTls

/-- A certificate without hosts is for every host, and a rule without a host is covered by every
certificate. -/
def covers (t : IngressTls) (host : String) : Bool :=
  match t.hosts with
  | none | some [] => true
  | some hosts => host.isEmpty || hosts.contains host

/-- The host of a list of certificates that holds one certificate for one host. -/
def singleHost? : List IngressTls → Option String
  | [⟨some [host], _⟩] => some host
  | _ => none

/-- The Secrets of the certificates that cover a host, each once, in order. -/
def secrets (tls : List IngressTls) (host : String) : List String :=
  ((tls.filter (·.covers host)).filterMap (·.secretName)).foldl
    (fun secrets s => if secrets.contains s then secrets else secrets ++ [s]) []

end IngressTls

/-- The listener of a host for requests that are not encrypted. -/
def Listener.plain (hostname : Option String) : Listener :=
  ⟨HostName.listenerName hostname .http, hostname, 80, .http, none⟩

/-- The listener of a host for encrypted requests. -/
def Listener.secure (hostname : Option String) (certificates : List String) : Listener :=
  ⟨HostName.listenerName hostname .https, hostname, 443, .https, some certificates⟩

namespace RuleGroup

/-- The host that the listeners of a group name. A group for every host takes the host of its
certificate, if there is exactly one. -/
def hostname? (g : RuleGroup) (host : String) : Option String :=
  if host.isEmpty then IngressTls.singleHost? g.tls else some host

/-- A group has a plain listener, and a secure one if a certificate covers its host. -/
def listeners (g : RuleGroup) (host : String) : List Listener :=
  let hostname := g.hostname? host
  match IngressTls.secrets g.tls host with
  | [] => [.plain hostname]
  | secrets => [.plain hostname, .secure hostname secrets]

/-- The route of a group. -/
def toHttpRoute (g : RuleGroup) (key : GroupKey) : HttpRoute where
  parents := [.gateway key.className]
  hostnames := if key.host.isEmpty then [] else [key.host]
  rules := g.routes.map fun r => ⟨[r.1], r.2⟩

/-- The name of the route of a group. -/
def routeName (g : RuleGroup) (key : GroupKey) : ObjectName :=
  ⟨key.ns, HostName.routeName g.ingress key.host⟩

/-- The reference to the first Ingress of a group. -/
def ingressRef (g : RuleGroup) (key : GroupKey) : ObjectRef := ⟨"Ingress", ⟨key.ns, g.ingress⟩⟩

end RuleGroup

/-! ### Conflicts -/

/-- The message for a route name that is taken. -/
def routeConflict (route : ObjectName) : String :=
  "route name " ++ route.name ++ " is already used by another host"

namespace Gateway

/-- The first listener with a name. -/
def listener? (g : Gateway) (name : String) : Option Listener :=
  g.listeners.find? (·.name == name)

/-- The message for a listener whose name is taken by a listener for another host. -/
def listenerConflict? (g : Gateway) (l : Listener) : Option String :=
  (g.listener? l.name).bind fun existing =>
    if existing.hostname = l.hostname then none
    else some ("listener name " ++ l.name ++ " is already used by host "
      ++ existing.hostname.getD "*")

end Gateway

/-! ### Placing groups -/

/-- A topology in the making, with the conflicts so far. -/
structure Draft where
  topology : Topology
  conflicts : List FieldError

namespace Draft

def empty : Draft := ⟨∅, []⟩

/-- The Gateway at a name, or a new one of the class. -/
def gateway (d : Draft) (name : ObjectName) (className : String) : Gateway :=
  (d.topology.gateways.find? name).getD (.ofClass className)

/-- Report a conflict. -/
def report (d : Draft) (e : FieldError) : Draft := { d with conflicts := d.conflicts ++ [e] }

/-- Add listeners to a Gateway, which has the class if it is new. -/
def listen (d : Draft) (name : ObjectName) (className : String) (ls : List Listener) : Draft :=
  { d with
    topology := d.topology.withGateway name className fun g => ls.foldl Gateway.addListener g }

/-- Add a route. -/
def route (d : Draft) (name : ObjectName) (r : HttpRoute) : Draft :=
  { d with topology := { d.topology with httpRoutes := d.topology.httpRoutes.insert name r } }

/-- Why a group cannot be placed: its route name is taken, or one of its listener names is taken
for another host. -/
def conflict? (d : Draft) (key : GroupKey) (g : RuleGroup) : Option String :=
  if !g.routes.isEmpty && d.topology.httpRoutes.contains (g.routeName key) then
    some (routeConflict (g.routeName key))
  else
    (g.listeners key.host).findSome? (d.gateway key.gateway key.className).listenerConflict?

/-- Place a group, or report it. The Gateway of the group is there in either case; a group without
routes only adds listeners. -/
def place (d : Draft) (entry : GroupKey × RuleGroup) : Draft :=
  let (key, g) := entry
  match d.conflict? key g with
  | some message =>
    -- the Gateway is made before the conflict is seen
    (d.listen key.gateway key.className []).report
      (((FieldError.here .invalid message).under
        [.field "spec", .field "rules", .index g.ruleIndex, .field "host"]).ofObject
          (g.ingressRef key))
  | none =>
    let d := d.listen key.gateway key.className (g.listeners key.host)
    if g.routes.isEmpty then d else d.route (g.routeName key) (g.toHttpRoute key)

/-- Place a default backend, or report it if its route name is taken. -/
def placeDefault (d : Draft) (b : DefaultRoute) : Draft :=
  let name : ObjectName := ⟨b.ingress.ns, b.ingress.name ++ "-default-backend"⟩
  if d.topology.httpRoutes.contains name then
    d.report (((FieldError.here .invalid (routeConflict name)).under
      Ingress.defaultBackendPath).ofObject ⟨"Ingress", b.ingress⟩)
  else
    (d.listen ⟨b.ingress.ns, b.className⟩ b.className [.plain none]).route name {
      parents := [.gateway b.className]
      hostnames := []
      rules := [⟨[], [b.backend]⟩] }

end Draft

/-- The topology of a list of Ingresses. What cannot be converted is left out and reported, first
the fields of each Ingress, then the conflicts. -/
def convert (options : ConversionOptions) (ingresses : List Ingress) :
    Topology × List FieldError :=
  let groups := RuleGroup.gather options (ingresses.flatMap (Ingress.sites options))
  -- default backends come last, so they never take a name from a group
  let draft := groups.entries.foldl Draft.place .empty
  let draft := (ingresses.filterMap (Ingress.defaultRoute? options)).foldl Draft.placeDefault draft
  (draft.topology, ingresses.flatMap (Ingress.fieldErrors options) ++ draft.conflicts)

end GatewayMigration
