import GatewayMigration.Gce.Config

/-!
# Policies

The policies that the Gateway controller of Google Cloud attaches to Services and Gateways. A
policy has the name of the object that it is attached to.

## Main definitions

* `Gce.Policy`: a policy of one of the three kinds
* `Gce.Policy.kind`, `Gce.Policy.objectName`, `Gce.Policy.toJson`: its identity and its document
* `Gce.Policy.ofJson?`: the policy of a kind that a document holds
* `Gce.ServiceSettings.policies`, `Gce.GatewaySettings.policies`: the policies that settings ask for
-/

namespace GatewayMigration.Gce

open Json

/-- The object that a policy is attached to. -/
structure PolicyTarget where
  group : String
  kind : String
  name : String
  deriving DecidableEq, Inhabited

namespace PolicyTarget

def service (name : String) : PolicyTarget := ⟨"", "Service", name⟩

def gateway (name : String) : PolicyTarget := ⟨"gateway.networking.k8s.io", "Gateway", name⟩

def toJson (t : PolicyTarget) : Json :=
  .object [
    ("group", some (.str t.group)), ("kind", some (.str t.kind)), ("name", some (.str t.name))]

def ofJson? (j : Json) : Option PolicyTarget := do
  let m ← j.record? ["group", "kind", "name"]
  return {
    group := ← m.required string? "group"
    kind := ← m.required string? "kind"
    name := ← m.required string? "name" }

end PolicyTarget

/-- What a policy says, and the object it is attached to. -/
structure PolicySpec (σ : Type) where
  content : σ
  target : PolicyTarget
  deriving DecidableEq, Inhabited

namespace PolicySpec

variable {σ : Type}

def toJson (content : σ → Json) (s : PolicySpec σ) : Json :=
  .object [("default", some (content s.content)), ("targetRef", some s.target.toJson)]

def ofJson? (content : Json → Option σ) (j : Json) : Option (PolicySpec σ) := do
  let m ← j.record? ["default", "targetRef"]
  return ⟨← m.required content "default", ← m.required PolicyTarget.ofJson? "targetRef"⟩

end PolicySpec

/-! ### Contents -/

/-- Session affinity in a policy. -/
structure AffinityRule where
  type : String
  cookieTtl : Option Int64
  deriving DecidableEq, Inhabited

def AffinityRule.toJson (r : AffinityRule) : Json :=
  .object [("cookieTtlSec", r.cookieTtl.map .ofInt64), ("type", some (.str r.type))]

def AffinityRule.ofJson? (j : Json) : Option AffinityRule := do
  let m ← j.record? ["type", "cookieTtlSec"]
  return ⟨← m.required string? "type", ← m.optional int64? "cookieTtlSec"⟩

/-- The content of a policy for the backends of a Service. -/
structure BackendRules where
  sessionAffinity : Option AffinityRule
  securityPolicy : Option String
  deriving DecidableEq, Inhabited

def BackendRules.toJson (r : BackendRules) : Json :=
  .object [
    ("securityPolicy", r.securityPolicy.map .str),
    ("sessionAffinity", r.sessionAffinity.map AffinityRule.toJson)]

def BackendRules.ofJson? (j : Json) : Option BackendRules := do
  let m ← j.record? ["sessionAffinity", "securityPolicy"]
  return {
    sessionAffinity := ← m.optional AffinityRule.ofJson? "sessionAffinity"
    securityPolicy := ← m.optional string? "securityPolicy" }

/-- Where a health check sends its requests. -/
structure ProbeTarget where
  port : Option Int64
  requestPath : Option String
  deriving DecidableEq, Inhabited

def ProbeTarget.toJson (t : ProbeTarget) : Json :=
  .object [("port", t.port.map .ofInt64), ("requestPath", t.requestPath.map .str)]

def ProbeTarget.ofJson? (j : Json) : Option ProbeTarget := do
  let m ← j.record? ["port", "requestPath"]
  return ⟨← m.optional int64? "port", ← m.optional string? "requestPath"⟩

/-- The part of a health check that depends on the protocol. The member of the protocol that
`type` names is set. -/
structure Probe where
  type : String
  http : Option ProbeTarget
  https : Option ProbeTarget
  http2 : Option ProbeTarget
  deriving DecidableEq, Inhabited

def Probe.toJson (p : Probe) : Json :=
  .object [
    ("http2HealthCheck", p.http2.map ProbeTarget.toJson),
    ("httpHealthCheck", p.http.map ProbeTarget.toJson),
    ("httpsHealthCheck", p.https.map ProbeTarget.toJson),
    ("type", some (.str p.type))]

def Probe.ofJson? (j : Json) : Option Probe := do
  let m ← j.record? ["type", "httpHealthCheck", "httpsHealthCheck", "http2HealthCheck"]
  return {
    type := ← m.required string? "type"
    http := ← m.optional ProbeTarget.ofJson? "httpHealthCheck"
    https := ← m.optional ProbeTarget.ofJson? "httpsHealthCheck"
    http2 := ← m.optional ProbeTarget.ofJson? "http2HealthCheck" }

/-- The probe of a health check. -/
def Probe.ofHealthCheck (h : HealthCheck) : Probe :=
  let target : ProbeTarget := ⟨h.port, h.requestPath⟩
  match h.protocol with
  | .http => ⟨h.protocol.text, some target, none, none⟩
  | .https => ⟨h.protocol.text, none, some target, none⟩
  | .http2 => ⟨h.protocol.text, none, none, some target⟩

/-- The content of a policy for the health of a Service. -/
structure HealthRules where
  checkInterval : Option Int64
  timeout : Option Int64
  healthyThreshold : Option Int64
  unhealthyThreshold : Option Int64
  probe : Probe
  deriving DecidableEq, Inhabited

def HealthRules.toJson (r : HealthRules) : Json :=
  .object [
    ("checkIntervalSec", r.checkInterval.map .ofInt64),
    ("config", some r.probe.toJson),
    ("healthyThreshold", r.healthyThreshold.map .ofInt64),
    ("timeoutSec", r.timeout.map .ofInt64),
    ("unhealthyThreshold", r.unhealthyThreshold.map .ofInt64)]

def HealthRules.ofJson? (j : Json) : Option HealthRules := do
  let m ← j.record? ["checkIntervalSec", "timeoutSec", "healthyThreshold", "unhealthyThreshold",
    "config"]
  return {
    checkInterval := ← m.optional int64? "checkIntervalSec"
    timeout := ← m.optional int64? "timeoutSec"
    healthyThreshold := ← m.optional int64? "healthyThreshold"
    unhealthyThreshold := ← m.optional int64? "unhealthyThreshold"
    probe := ← m.required Probe.ofJson? "config" }

/-- The content of a policy for a Gateway. -/
structure GatewayRules where
  sslPolicy : Option String
  deriving DecidableEq, Inhabited

def GatewayRules.toJson (r : GatewayRules) : Json := .object [("sslPolicy", r.sslPolicy.map .str)]

def GatewayRules.ofJson? (j : Json) : Option GatewayRules := do
  let m ← j.record? ["sslPolicy"]
  return ⟨← m.optional string? "sslPolicy"⟩

/-! ### Policies -/

/-- A policy. -/
inductive Policy where
  | backend (policy : CustomObject (PolicySpec BackendRules))
  | health (policy : CustomObject (PolicySpec HealthRules))
  | gateway (policy : CustomObject (PolicySpec GatewayRules))
  deriving DecidableEq

/-- The kinds of policies. -/
inductive PolicyKind where
  | backend
  | health
  | gateway
  deriving DecidableEq, Inhabited

namespace PolicyKind

def text : PolicyKind → String
  | .backend => "GCPBackendPolicy"
  | .health => "HealthCheckPolicy"
  | .gateway => "GCPGatewayPolicy"

def ofText? : String → Option PolicyKind
  | "GCPBackendPolicy" => some .backend
  | "HealthCheckPolicy" => some .health
  | "GCPGatewayPolicy" => some .gateway
  | _ => none

end PolicyKind

namespace Policy

/-- A policy with what it is attached to. -/
def attached {σ : Type} (kind : PolicyKind) (name : ObjectName) (content : σ)
    (target : PolicyTarget) : CustomObject (PolicySpec σ) :=
  ⟨"networking.gke.io/v1", kind.text, .ofName name, ⟨content, target⟩⟩

def kind : Policy → PolicyKind
  | .backend _ => .backend
  | .health _ => .health
  | .gateway _ => .gateway

def metadata : Policy → Metadata
  | .backend p => p.metadata
  | .health p => p.metadata
  | .gateway p => p.metadata

/-- The identity of a policy. -/
def objectName (p : Policy) : ObjectName := p.metadata.objectName

def toJson : Policy → Json
  | .backend p => p.toJson (PolicySpec.toJson BackendRules.toJson)
  | .health p => p.toJson (PolicySpec.toJson HealthRules.toJson)
  | .gateway p => p.toJson (PolicySpec.toJson GatewayRules.toJson)

def ofJson? (kind : PolicyKind) (j : Json) : Option Policy :=
  match kind with
  | .backend => (CustomObject.ofJson? (PolicySpec.ofJson? BackendRules.ofJson?) j).map .backend
  | .health => (CustomObject.ofJson? (PolicySpec.ofJson? HealthRules.ofJson?) j).map .health
  | .gateway => (CustomObject.ofJson? (PolicySpec.ofJson? GatewayRules.ofJson?) j).map .gateway

end Policy

/-! ### The policies of settings -/

namespace ServiceSettings

/-- The policy for session affinity and security, if either is set. -/
def backendPolicy? (s : ServiceSettings) (service : ObjectName) : Option Policy :=
  if s.sessionAffinity.isNone && s.securityPolicy.isNone then none
  else
    some (.backend (Policy.attached .backend service
      ⟨s.sessionAffinity.map fun a => ⟨a.type, a.ttl⟩, s.securityPolicy⟩
      (.service service.name)))

/-- The policy for the health check, if there is one. -/
def healthPolicy? (s : ServiceSettings) (service : ObjectName) : Option Policy :=
  s.healthCheck.map fun h =>
    .health (Policy.attached .health service
      ⟨h.checkInterval, h.timeout, h.healthyThreshold, h.unhealthyThreshold, .ofHealthCheck h⟩
      (.service service.name))

/-- The policies of a Service. -/
def policies (s : ServiceSettings) (service : ObjectName) : List Policy :=
  (s.backendPolicy? service).toList ++ (s.healthPolicy? service).toList

end ServiceSettings

/-- The policies of a Gateway. -/
def GatewaySettings.policies (s : GatewaySettings) (gateway : ObjectName) : List Policy :=
  (s.sslPolicy.map fun p =>
    .gateway (Policy.attached .gateway gateway ⟨some p⟩ (.gateway gateway.name))).toList

end GatewayMigration.Gce
