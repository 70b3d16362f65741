import GatewayMigration.Ingress

/-!
# Services

Only the metadata of a Service is used; the rest must have its declared shape.

## Main definitions

* `Service`: a Service
* `Service.resource`: Services as a type of objects that are read
-/

namespace GatewayMigration

/-- A Service. -/
structure Service where
  metadata : Metadata
  deriving DecidableEq, Inhabited

namespace Service

/-- The specification of a Service. -/
def specShape : Shape :=
  .options [
    ("allocateLoadBalancerNodePorts", .flag),
    ("clusterIP", .text),
    ("clusterIPs", .listOf .text),
    ("externalIPs", .listOf .text),
    ("externalName", .text),
    ("externalTrafficPolicy", .text),
    ("healthCheckNodePort", .int32),
    ("internalTrafficPolicy", .text),
    ("ipFamilies", .listOf .text),
    ("ipFamilyPolicy", .text),
    ("loadBalancerClass", .text),
    ("loadBalancerIP", .text),
    ("loadBalancerSourceRanges", .listOf .text),
    ("ports", .listOf (.record [
      ("appProtocol", false, .text),
      ("name", false, .text),
      ("nodePort", false, .int32),
      ("port", true, .int32),
      ("protocol", false, .text),
      ("targetPort", false, .int32OrText)])),
    ("publishNotReadyAddresses", .flag),
    ("selector", .mapOf .text),
    ("sessionAffinity", .text),
    ("sessionAffinityConfig", .options [("clientIP", .options [("timeoutSeconds", .int32)])]),
    ("trafficDistribution", .text),
    ("type", .text)]

/-- The status of a Service. -/
def statusShape : Shape :=
  .options [
    ("conditions", .listOf (.record [
      ("lastTransitionTime", true, .instant),
      ("message", true, .text),
      ("observedGeneration", false, .int64),
      ("reason", true, .text),
      ("status", true, .text),
      ("type", true, .text)])),
    ("loadBalancer", .options [("ingress", .listOf (.options [
      ("hostname", .text),
      ("ip", .text),
      ("ipMode", .text),
      ("ports", .listOf (.record [
        ("error", false, .text), ("port", true, .int32), ("protocol", true, .text)]))]))])]

def ofJson? (j : Json) : Option Service := do
  let m ← j.fields?
  m.matching "v1" "apiVersion"
  m.matching "Service" "kind"
  let _ ← m.optional specShape.read? "spec"
  let _ ← m.optional statusShape.read? "status"
  return ⟨← m.lenient .empty Metadata.ofJson? "metadata"⟩

/-- Services as a type of objects that are read. -/
def resource : ResourceType Service where
  group := "/api/v1"
  plural := "services"
  apiVersion := "v1"
  kind := "Service"
  isCustom := false
  metadata := metadata
  ofJson? := ofJson?

/-- The identity of a Service. -/
def objectName (s : Service) : ObjectName := s.metadata.objectName

/-- The reference to a Service. -/
def ref (s : Service) : ObjectRef := ⟨"Service", s.objectName⟩

end Service

end GatewayMigration
