import GatewayMigration.Topology.Codec
import GatewayMigration.Metadata

/-!
# Configuration objects

The custom resources that configure a Google Cloud load balancer. A BackendConfig has two versions
of one content; a FrontendConfig has one version. Only what is converted is kept.

## Main definitions

* `Gce.BackendConfig`, `Gce.FrontendConfig`: the two kinds of objects
* `Gce.BackendConfig.v1`, `Gce.BackendConfig.v1beta1`, `Gce.FrontendConfig.resource`: as types of
  objects that are read
-/

namespace GatewayMigration.Gce

open Json

/-- Session affinity as it is configured. -/
structure AffinityOptions where
  affinityType : Option String
  cookieTtl : Option Int64
  deriving DecidableEq, Inhabited

/-- A health check as it is configured. -/
structure HealthCheckOptions where
  checkInterval : Option Int64
  timeout : Option Int64
  healthyThreshold : Option Int64
  unhealthyThreshold : Option Int64
  protocol : Option String
  port : Option Int64
  requestPath : Option String
  deriving DecidableEq, Inhabited

/-- The content of a BackendConfig. -/
structure BackendOptions where
  sessionAffinity : Option AffinityOptions
  /-- The name of the security policy. -/
  securityPolicy : Option String
  healthCheck : Option HealthCheckOptions
  deriving DecidableEq, Inhabited

/-- A redirect to HTTPS. -/
structure RedirectOptions where
  enabled : Bool
  responseCode : Option String
  deriving DecidableEq, Inhabited

/-- The content of a FrontendConfig. -/
structure FrontendOptions where
  sslPolicy : Option String
  redirectToHttps : Option RedirectOptions
  deriving DecidableEq, Inhabited

/-- The configuration of the backends of a Service. -/
abbrev BackendConfig := CustomObject BackendOptions

/-- The configuration of the frontend of an Ingress. -/
abbrev FrontendConfig := CustomObject FrontendOptions

/-! ### JSON -/

def AffinityOptions.ofJson? (j : Json) : Option AffinityOptions := do
  let m ← j.record? ["affinityType", "affinityCookieTtlSec"]
  return ⟨← m.optional string? "affinityType", ← m.optional int64? "affinityCookieTtlSec"⟩

def AffinityOptions.toJson (a : AffinityOptions) : Json :=
  .object [
    ("affinityCookieTtlSec", a.cookieTtl.map .ofInt64), ("affinityType", a.affinityType.map .str)]

def HealthCheckOptions.ofJson? (j : Json) : Option HealthCheckOptions := do
  let m ← j.record? ["checkIntervalSec", "timeoutSec", "healthyThreshold", "unhealthyThreshold",
    "type", "port", "requestPath"]
  return {
    checkInterval := ← m.optional int64? "checkIntervalSec"
    timeout := ← m.optional int64? "timeoutSec"
    healthyThreshold := ← m.optional int64? "healthyThreshold"
    unhealthyThreshold := ← m.optional int64? "unhealthyThreshold"
    protocol := ← m.optional string? "type"
    port := ← m.optional int64? "port"
    requestPath := ← m.optional string? "requestPath" }

def HealthCheckOptions.toJson (h : HealthCheckOptions) : Json :=
  .object [
    ("checkIntervalSec", h.checkInterval.map .ofInt64),
    ("healthyThreshold", h.healthyThreshold.map .ofInt64),
    ("port", h.port.map .ofInt64),
    ("requestPath", h.requestPath.map .str),
    ("timeoutSec", h.timeout.map .ofInt64),
    ("type", h.protocol.map .str),
    ("unhealthyThreshold", h.unhealthyThreshold.map .ofInt64)]

namespace BackendOptions

/-- The name of a security policy, from the member that holds it. -/
def policyOfJson? (j : Json) : Option String := do
  let m ← j.record? ["name"]
  m.required string? "name"

/-- The content is part of an open object, so an array does not stand for it. -/
def ofJson? (j : Json) : Option BackendOptions := do
  let m ← j.fields?
  return {
    sessionAffinity := ← m.optional AffinityOptions.ofJson? "sessionAffinity"
    securityPolicy := ← m.optional policyOfJson? "securityPolicy"
    healthCheck := ← m.optional HealthCheckOptions.ofJson? "healthCheck" }

def toJson (o : BackendOptions) : Json :=
  .object [
    ("healthCheck", o.healthCheck.map HealthCheckOptions.toJson),
    ("securityPolicy", o.securityPolicy.map fun name => .object [("name", some (.str name))]),
    ("sessionAffinity", o.sessionAffinity.map AffinityOptions.toJson)]

end BackendOptions

def RedirectOptions.ofJson? (j : Json) : Option RedirectOptions := do
  let m ← j.record? ["enabled", "responseCodeName"]
  return ⟨← m.defaulted false bool? "enabled", ← m.optional string? "responseCodeName"⟩

def RedirectOptions.toJson (r : RedirectOptions) : Json :=
  .object [("enabled", some (.bool r.enabled)), ("responseCodeName", r.responseCode.map .str)]

def FrontendOptions.ofJson? (j : Json) : Option FrontendOptions := do
  let m ← j.record? ["sslPolicy", "redirectToHttps"]
  return {
    sslPolicy := ← m.optional string? "sslPolicy"
    redirectToHttps := ← m.optional RedirectOptions.ofJson? "redirectToHttps" }

def FrontendOptions.toJson (o : FrontendOptions) : Json :=
  .object [
    ("redirectToHttps", o.redirectToHttps.map RedirectOptions.toJson),
    ("sslPolicy", o.sslPolicy.map .str)]

/-! ### Types of objects -/

namespace BackendConfig

/-- BackendConfigs in a version. -/
def version (v : String) : ResourceType BackendConfig where
  group := "/apis/cloud.google.com/" ++ v
  plural := "backendconfigs"
  apiVersion := "cloud.google.com/" ++ v
  kind := "BackendConfig"
  isCustom := true
  metadata := CustomObject.metadata
  ofJson? := CustomObject.ofJson? BackendOptions.ofJson?

/-- BackendConfigs in the stable version. -/
def v1 : ResourceType BackendConfig := version "v1"

/-- BackendConfigs in the version before. -/
def v1beta1 : ResourceType BackendConfig := version "v1beta1"

end BackendConfig

/-- FrontendConfigs. -/
def FrontendConfig.resource : ResourceType FrontendConfig where
  group := "/apis/networking.gke.io/v1beta1"
  plural := "frontendconfigs"
  apiVersion := "networking.gke.io/v1beta1"
  kind := "FrontendConfig"
  isCustom := true
  metadata := CustomObject.metadata
  ofJson? := CustomObject.ofJson? FrontendOptions.ofJson?

end GatewayMigration.Gce
