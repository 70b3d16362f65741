import GatewayMigration.Topology

/-!
# The JSON form of a topology

Each part of a topology has a JSON form. Members are named in snake case, an option that is absent
and a list of hosts or matches that is empty leave their member out, and a variant stands in the
member `type`. Reading ignores members that it does not know, and a record may also be given as
the array of its leading members.

## Main definitions

* `Gateway.toJson`, `Gateway.ofJson?`, and the same for every part of a topology
-/

namespace GatewayMigration

open Json

/-- A bounded integer. -/
def Json.ofInt64 (n : Int64) : Json := .int n.toInt

/-- A port. -/
def Json.ofUInt16 (n : UInt16) : Json := .int n.toNat

/-- A list whose member is left out when it is empty. -/
def Json.ofNonempty (l : List Json) : Option Json := if l.isEmpty then none else some (.arr l)

/-! ### Object names -/

def ObjectName.toJson (n : ObjectName) : Json :=
  .object [("name", some (.str n.name)), ("namespace", some (.str n.ns))]

def ObjectName.ofJson? (j : Json) : Option ObjectName := do
  let m ← j.record? ["namespace", "name"]
  return ⟨← m.required string? "namespace", ← m.required string? "name"⟩

/-! ### Provider settings -/

namespace Gce

namespace SessionAffinity

def toJson (a : SessionAffinity) : Json :=
  .object [("cookie_ttl_sec", a.ttl.map .ofInt64), ("type", some (.str a.type))]

def ofJson? (j : Json) : Option SessionAffinity := do
  let (type, content) ← j.variant? "type"
  match type with
  | "GENERATED_COOKIE" =>
    let m ← content.record? ["cookie_ttl_sec"]
    return .generatedCookie (← m.optional int64? "cookie_ttl_sec")
  | _ => ofType? type Option.none

end SessionAffinity

namespace HealthCheck

def toJson (h : HealthCheck) : Json :=
  .object [
    ("check_interval_sec", h.checkInterval.map .ofInt64),
    ("healthy_threshold", h.healthyThreshold.map .ofInt64),
    ("port", h.port.map .ofInt64),
    ("protocol", some (.str h.protocol.text)),
    ("request_path", h.requestPath.map .str),
    ("timeout_sec", h.timeout.map .ofInt64),
    ("unhealthy_threshold", h.unhealthyThreshold.map .ofInt64)]

def ofJson? (j : Json) : Option HealthCheck := do
  let m ← j.record? ["check_interval_sec", "timeout_sec", "healthy_threshold",
    "unhealthy_threshold", "protocol", "port", "request_path"]
  return {
    checkInterval := ← m.optional int64? "check_interval_sec"
    timeout := ← m.optional int64? "timeout_sec"
    healthyThreshold := ← m.optional int64? "healthy_threshold"
    unhealthyThreshold := ← m.optional int64? "unhealthy_threshold"
    protocol := ← m.required (fun j => j.unitVariant?.bind ProbeProtocol.ofText?) "protocol"
    port := ← m.optional int64? "port"
    requestPath := ← m.optional string? "request_path" }

end HealthCheck

namespace ServiceSettings

def toJson (s : ServiceSettings) : Json :=
  .object [
    ("health_check", s.healthCheck.map HealthCheck.toJson),
    ("security_policy", s.securityPolicy.map .str),
    ("session_affinity", s.sessionAffinity.map SessionAffinity.toJson)]

def ofJson? (j : Json) : Option ServiceSettings := do
  let m ← j.record? ["session_affinity", "security_policy", "health_check"]
  return {
    sessionAffinity := ← m.optional SessionAffinity.ofJson? "session_affinity"
    securityPolicy := ← m.optional string? "security_policy"
    healthCheck := ← m.optional HealthCheck.ofJson? "health_check" }

end ServiceSettings

namespace GatewaySettings

def toJson (s : GatewaySettings) : Json := .object [("ssl_policy", s.sslPolicy.map .str)]

def ofJson? (j : Json) : Option GatewaySettings := do
  let m ← j.record? ["ssl_policy"]
  return ⟨← m.optional string? "ssl_policy"⟩

end GatewaySettings

end Gce

/-! ### Gateways -/

/-- The certificates of a listener. -/
def Listener.certificatesToJson (certificates : List String) : Json :=
  .object [("certificate_refs", some (.ofStrings certificates))]

def Listener.certificatesOfJson? (j : Json) : Option (List String) := do
  let m ← j.record? ["certificate_refs"]
  m.required (listOf? string?) "certificate_refs"

def Listener.toJson (l : Listener) : Json :=
  .object [
    ("hostname", l.hostname.map .str),
    ("name", some (.str l.name)),
    ("port", some (.ofUInt16 l.port)),
    ("protocol", some (.str l.protocol.text)),
    ("tls", l.certificates.map certificatesToJson)]

def Listener.ofJson? (j : Json) : Option Listener := do
  let m ← j.record? ["name", "hostname", "port", "protocol", "tls"]
  return {
    name := ← m.required string? "name"
    hostname := ← m.optional string? "hostname"
    port := ← m.required uint16? "port"
    protocol := ← m.required (fun j => j.unitVariant?.bind Protocol.ofText?) "protocol"
    certificates := ← m.optional certificatesOfJson? "tls" }

def GatewayExtension.toJson (e : GatewayExtension) : Json :=
  .object [("gce", e.gce.map Gce.GatewaySettings.toJson)]

def GatewayExtension.ofJson? (j : Json) : Option GatewayExtension := do
  let m ← j.record? ["gce"]
  return ⟨← m.optional Gce.GatewaySettings.ofJson? "gce"⟩

def Gateway.toJson (g : Gateway) : Json :=
  .object [
    ("extension", g.extension.map GatewayExtension.toJson),
    ("gateway_class_name", some (.str g.className)),
    ("listeners", some (.arr (g.listeners.map Listener.toJson)))]

def Gateway.ofJson? (j : Json) : Option Gateway := do
  let m ← j.record? ["gateway_class_name", "listeners", "extension"]
  return {
    className := ← m.required string? "gateway_class_name"
    listeners := ← m.required (listOf? Listener.ofJson?) "listeners"
    extension := ← m.optional GatewayExtension.ofJson? "extension" }

/-! ### Routes -/

def ParentRef.toJson (r : ParentRef) : Json :=
  .object [
    ("name", some (.str r.name)),
    ("namespace", r.ns.map .str),
    ("section_name", r.sectionName.map .str)]

def ParentRef.ofJson? (j : Json) : Option ParentRef := do
  let m ← j.record? ["name", "namespace", "section_name"]
  return {
    name := ← m.required string? "name"
    ns := ← m.optional string? "namespace"
    sectionName := ← m.optional string? "section_name" }

/-- The name of the kind of match and the path it compares with. -/
def PathMatch.parts : PathMatch → String × String
  | .pathPrefix value => ("PathPrefix", value)
  | .exact value => ("Exact", value)

def PathMatch.toJson (p : PathMatch) : Json :=
  .object [("type", some (.str p.parts.1)), ("value", some (.str p.parts.2))]

def PathMatch.ofJson? (j : Json) : Option PathMatch := do
  let (type, content) ← j.variant? "type"
  let m ← content.record? ["value"]
  match type with
  | "PathPrefix" => return .pathPrefix (← m.required string? "value")
  | "Exact" => return .exact (← m.required string? "value")
  | _ => none

def BackendRef.toJson : BackendRef → Json
  | .service name port =>
    .object [
      ("name", some (.str name)), ("port", some (.ofUInt16 port)), ("type", some (.str "Service"))]
  | .resource group kind name =>
    .object [
      ("group", group.map .str), ("kind", some (.str kind)), ("name", some (.str name)),
      ("type", some (.str "Resource"))]

def BackendRef.ofJson? (j : Json) : Option BackendRef := do
  let (type, content) ← j.variant? "type"
  match type with
  | "Service" =>
    let m ← content.record? ["name", "port"]
    return .service (← m.required string? "name") (← m.required uint16? "port")
  | "Resource" =>
    let m ← content.record? ["group", "kind", "name"]
    return .resource (← m.optional string? "group") (← m.required string? "kind")
      (← m.required string? "name")
  | _ => none

def RouteRule.toJson (r : RouteRule) : Json :=
  .object [
    ("backend_refs", some (.arr (r.backends.map BackendRef.toJson))),
    ("matches", ofNonempty (r.pathMatches.map PathMatch.toJson))]

def RouteRule.ofJson? (j : Json) : Option RouteRule := do
  let m ← j.record? ["matches", "backend_refs"]
  return {
    pathMatches := ← m.defaulted [] (listOf? PathMatch.ofJson?) "matches"
    backends := ← m.required (listOf? BackendRef.ofJson?) "backend_refs" }

def HttpRoute.toJson (r : HttpRoute) : Json :=
  .object [
    ("hostnames", ofNonempty (r.hostnames.map .str)),
    ("parent_refs", some (.arr (r.parents.map ParentRef.toJson))),
    ("rules", some (.arr (r.rules.map RouteRule.toJson)))]

def HttpRoute.ofJson? (j : Json) : Option HttpRoute := do
  let m ← j.record? ["parent_refs", "hostnames", "rules"]
  return {
    parents := ← m.required (listOf? ParentRef.ofJson?) "parent_refs"
    hostnames := ← m.defaulted [] (listOf? string?) "hostnames"
    rules := ← m.required (listOf? RouteRule.ofJson?) "rules" }

/-! ### Services -/

def ServiceExtension.toJson (e : ServiceExtension) : Json :=
  .object [("gce", e.gce.map Gce.ServiceSettings.toJson)]

def ServiceExtension.ofJson? (j : Json) : Option ServiceExtension := do
  let m ← j.record? ["gce"]
  return ⟨← m.optional Gce.ServiceSettings.ofJson? "gce"⟩

/-! ### Whole topologies -/

/-- A map as the list of its entries, each with its object name. -/
def OrderedMap.toJson {α : Type} (value : α → Json) (m : OrderedMap ObjectName α) : Json :=
  .arr (m.entries.map fun e =>
    .object [("name", some (.str e.1.name)), ("namespace", some (.str e.1.ns)),
      ("value", some (value e.2))])

/-- The entries of a map; of two with one object name, the last one counts. -/
def OrderedMap.ofJson? {α : Type} (value : Json → Option α) (j : Json) :
    Option (OrderedMap ObjectName α) :=
  (j.listOf? fun entry => do
    let m ← entry.fields?
    let key : ObjectName := ⟨← m.required string? "namespace", ← m.required string? "name"⟩
    let v ← value ((Json.lookup "value" m).getD .null)
    return (key, v)).map .ofList

def Topology.toJson (t : Topology) : Json :=
  .object [
    ("gateways", some (t.gateways.toJson Gateway.toJson)),
    ("http_routes", some (t.httpRoutes.toJson HttpRoute.toJson)),
    ("reference_grants", some (t.referenceGrants.toJson id)),
    ("services", some (t.services.toJson ServiceExtension.toJson)),
    ("tcp_routes", some (t.tcpRoutes.toJson id)),
    ("tls_routes", some (t.tlsRoutes.toJson id)),
    ("udp_routes", some (t.udpRoutes.toJson id))]

def Topology.ofJson? (j : Json) : Option Topology := do
  let m ← j.fields?
  let entries {α : Type} (value : Json → Option α) := m.lenient ∅ (OrderedMap.ofJson? value)
  return {
    gateways := ← entries Gateway.ofJson? "gateways"
    httpRoutes := ← entries HttpRoute.ofJson? "http_routes"
    tlsRoutes := ← entries some "tls_routes"
    tcpRoutes := ← entries some "tcp_routes"
    udpRoutes := ← entries some "udp_routes"
    referenceGrants := ← entries some "reference_grants"
    services := ← entries ServiceExtension.ofJson? "services" }

end GatewayMigration
