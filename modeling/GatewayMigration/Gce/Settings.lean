/-!
# Load balancer settings

What the objects of a Google Cloud load balancer say beside its routes, the same for every version
of those objects.

## Main definitions

* `Gce.SessionAffinity`: how clients are pinned to backends
* `Gce.HealthCheck`: how backends are probed
* `Gce.ServiceSettings`, `Gce.GatewaySettings`: the settings of a Service and of a Gateway
-/

namespace GatewayMigration.Gce

/-- How a load balancer pins clients to backends. -/
inductive SessionAffinity where
  | clientIp
  /-- A cookie with an optional lifetime in seconds. -/
  | generatedCookie (ttl : Option Int64)
  | none
  deriving DecidableEq, Inhabited

namespace SessionAffinity

/-- The affinity of a type; the lifetime of a cookie counts for a cookie only. -/
def ofType? (type : String) (ttl : Option Int64) : Option SessionAffinity :=
  match type with
  | "CLIENT_IP" => some .clientIp
  | "GENERATED_COOKIE" => some (.generatedCookie ttl)
  | "NONE" => some .none
  | _ => Option.none

def type : SessionAffinity → String
  | .clientIp => "CLIENT_IP"
  | .generatedCookie _ => "GENERATED_COOKIE"
  | .none => "NONE"

def ttl : SessionAffinity → Option Int64
  | .generatedCookie ttl => ttl
  | _ => Option.none

@[simp] theorem ofType?_type (a : SessionAffinity) : ofType? a.type a.ttl = some a := by
  cases a <;> rfl

end SessionAffinity

/-- The protocol of a health check. -/
inductive ProbeProtocol where
  | http
  | https
  | http2
  deriving DecidableEq, Inhabited

namespace ProbeProtocol

def text : ProbeProtocol → String
  | .http => "HTTP"
  | .https => "HTTPS"
  | .http2 => "HTTP2"

def ofText? : String → Option ProbeProtocol
  | "HTTP" => some .http
  | "HTTPS" => some .https
  | "HTTP2" => some .http2
  | _ => none

@[simp] theorem ofText?_text (p : ProbeProtocol) : ofText? p.text = some p := by cases p <;> rfl

end ProbeProtocol

/-- How backends are probed. -/
structure HealthCheck where
  checkInterval : Option Int64
  timeout : Option Int64
  healthyThreshold : Option Int64
  unhealthyThreshold : Option Int64
  protocol : ProbeProtocol
  port : Option Int64
  requestPath : Option String
  deriving DecidableEq, Inhabited

/-- The settings of a Service. -/
structure ServiceSettings where
  sessionAffinity : Option SessionAffinity
  /-- The name of a security policy. -/
  securityPolicy : Option String
  healthCheck : Option HealthCheck
  deriving DecidableEq, Inhabited

/-- No setting is made. -/
def ServiceSettings.isEmpty (s : ServiceSettings) : Bool :=
  s.sessionAffinity.isNone && s.securityPolicy.isNone && s.healthCheck.isNone

/-- The settings of a Gateway. -/
structure GatewaySettings where
  /-- The name of the policy that all HTTPS listeners follow. -/
  sslPolicy : Option String
  deriving DecidableEq, Inhabited

end GatewayMigration.Gce
