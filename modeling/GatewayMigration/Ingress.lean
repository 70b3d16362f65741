import GatewayMigration.Metadata

/-!
# Ingresses

## Main definitions

* `Ingress`: rules that send requests for hosts and paths to backends
* `Ingress.className?`: the ingress class that an Ingress names
* `Ingress.resource`: Ingresses as a type of objects that are read
-/

namespace GatewayMigration

open Json

/-- A port of a Service, by number or by name. -/
structure ServicePort where
  name : Option String
  number : Option Int32
  deriving DecidableEq, Inhabited

/-- A Service that takes requests. -/
structure IngressService where
  name : String
  port : Option ServicePort
  deriving DecidableEq, Inhabited

/-- Another object that takes requests. -/
structure IngressResource where
  apiGroup : Option String
  kind : String
  name : String
  deriving DecidableEq, Inhabited

/-- Where requests go. -/
structure IngressBackend where
  service : Option IngressService
  resource : Option IngressResource
  deriving DecidableEq, Inhabited

/-- A path, how it is compared, and where its requests go. -/
structure IngressPath where
  path : Option String
  pathType : String
  backend : IngressBackend
  deriving DecidableEq, Inhabited

/-- The paths of a host. -/
structure IngressRule where
  host : Option String
  /-- The paths; `none` when the rule says nothing about HTTP. -/
  paths : Option (List IngressPath)
  deriving DecidableEq, Inhabited

/-- A Secret with a certificate and the hosts that it is for. -/
structure IngressTls where
  hosts : Option (List String)
  secretName : Option String
  deriving DecidableEq, Inhabited

structure IngressSpec where
  defaultBackend : Option IngressBackend
  className : Option String
  rules : Option (List IngressRule)
  tls : Option (List IngressTls)
  deriving DecidableEq, Inhabited

/-- An Ingress. -/
structure Ingress where
  metadata : Metadata
  spec : Option IngressSpec
  deriving DecidableEq, Inhabited

/-! ### JSON -/

def ServicePort.ofJson? (j : Json) : Option ServicePort := do
  let m ← j.fields?
  return ⟨← m.optional string? "name", ← m.optional int32? "number"⟩

def ServicePort.toJson (p : ServicePort) : Json :=
  .object [("name", p.name.map .str), ("number", p.number.map fun n => .int n.toInt)]

def IngressService.ofJson? (j : Json) : Option IngressService := do
  let m ← j.fields?
  return ⟨← m.lenient "" string? "name", ← m.optional ServicePort.ofJson? "port"⟩

def IngressService.toJson (s : IngressService) : Json :=
  .object [("name", some (.str s.name)), ("port", s.port.map ServicePort.toJson)]

def IngressResource.ofJson? (j : Json) : Option IngressResource := do
  let m ← j.fields?
  return {
    apiGroup := ← m.optional string? "apiGroup"
    kind := ← m.lenient "" string? "kind"
    name := ← m.lenient "" string? "name" }

def IngressResource.toJson (r : IngressResource) : Json :=
  .object [
    ("apiGroup", r.apiGroup.map .str), ("kind", some (.str r.kind)), ("name", some (.str r.name))]

/-- A backend that names nothing. -/
def IngressBackend.empty : IngressBackend := ⟨none, none⟩

def IngressBackend.ofJson? (j : Json) : Option IngressBackend := do
  let m ← j.fields?
  return {
    service := ← m.optional IngressService.ofJson? "service"
    resource := ← m.optional IngressResource.ofJson? "resource" }

def IngressBackend.toJson (b : IngressBackend) : Json :=
  .object [
    ("resource", b.resource.map IngressResource.toJson),
    ("service", b.service.map IngressService.toJson)]

def IngressPath.ofJson? (j : Json) : Option IngressPath := do
  let m ← j.fields?
  return {
    path := ← m.optional string? "path"
    pathType := ← m.lenient "" string? "pathType"
    backend := ← m.lenient .empty IngressBackend.ofJson? "backend" }

def IngressPath.toJson (p : IngressPath) : Json :=
  .object [
    ("backend", some p.backend.toJson), ("path", p.path.map .str),
    ("pathType", some (.str p.pathType))]

/-- The paths of a rule, from its member for HTTP. -/
def IngressRule.pathsOfJson? (j : Json) : Option (List IngressPath) := do
  let m ← j.fields?
  m.lenient [] (listOf? IngressPath.ofJson?) "paths"

def IngressRule.ofJson? (j : Json) : Option IngressRule := do
  let m ← j.fields?
  return ⟨← m.optional string? "host", ← m.optional pathsOfJson? "http"⟩

def IngressRule.toJson (r : IngressRule) : Json :=
  .object [
    ("host", r.host.map .str),
    ("http", r.paths.map fun ps => .object [("paths", some (.arr (ps.map IngressPath.toJson)))])]

def IngressTls.ofJson? (j : Json) : Option IngressTls := do
  let m ← j.fields?
  return ⟨← m.optional (listOf? string?) "hosts", ← m.optional string? "secretName"⟩

def IngressTls.toJson (t : IngressTls) : Json :=
  .object [("hosts", t.hosts.map .ofStrings), ("secretName", t.secretName.map .str)]

def IngressSpec.ofJson? (j : Json) : Option IngressSpec := do
  let m ← j.fields?
  return {
    defaultBackend := ← m.optional IngressBackend.ofJson? "defaultBackend"
    className := ← m.optional string? "ingressClassName"
    rules := ← m.optional (listOf? IngressRule.ofJson?) "rules"
    tls := ← m.optional (listOf? IngressTls.ofJson?) "tls" }

def IngressSpec.toJson (s : IngressSpec) : Json :=
  .object [
    ("defaultBackend", s.defaultBackend.map IngressBackend.toJson),
    ("ingressClassName", s.className.map .str),
    ("rules", s.rules.map fun rs => .arr (rs.map IngressRule.toJson)),
    ("tls", s.tls.map fun ts => .arr (ts.map IngressTls.toJson))]

/-- The status of an Ingress, which is not converted. -/
def Ingress.statusShape : Shape :=
  .options [("loadBalancer", .options [("ingress", .listOf (.options [
    ("hostname", .text),
    ("ip", .text),
    ("ports", .listOf (.record [
      ("error", false, .text), ("port", true, .int32), ("protocol", true, .text)]))]))])]

/-- A member that may be missing, and otherwise has to be the given text. -/
def Json.Fields.matching (text : String) (m : Json.Fields) (k : String) : Option Unit :=
  match lookup k m with
  | none => some ()
  | some v => if v.string? = some text then some () else none

def Ingress.ofJson? (j : Json) : Option Ingress := do
  let m ← j.fields?
  m.matching "networking.k8s.io/v1" "apiVersion"
  m.matching "Ingress" "kind"
  let _ ← m.optional Ingress.statusShape.read? "status"
  return {
    metadata := ← m.lenient .empty Metadata.ofJson? "metadata"
    spec := ← m.optional IngressSpec.ofJson? "spec" }

namespace Ingress

/-- Ingresses as a type of objects that are read. -/
def resource : ResourceType Ingress where
  group := "/apis/networking.k8s.io/v1"
  plural := "ingresses"
  apiVersion := "networking.k8s.io/v1"
  kind := "Ingress"
  isCustom := false
  metadata := metadata
  ofJson? := ofJson?

/-- The identity of an Ingress. -/
def objectName (i : Ingress) : ObjectName := i.metadata.objectName

/-- The reference to an Ingress. -/
def ref (i : Ingress) : ObjectRef := ⟨"Ingress", i.objectName⟩

/-- The annotation that names the ingress class where the specification does not. -/
def classAnnotation : String := "kubernetes.io/ingress.class"

/-- A text that is present and not empty. -/
def nonempty? (s : Option String) : Option String := s.filter fun s => !s.isEmpty

/-- The ingress class that the specification names, or else the annotation. -/
def className? (i : Ingress) : Option String :=
  (nonempty? (i.spec.bind (·.className))).or (nonempty? (i.metadata.annotation? classAnnotation))

/-- The rules of an Ingress. -/
def rules (i : Ingress) : List IngressRule := (i.spec.bind (·.rules)).getD []

/-- The certificates of an Ingress. -/
def tls (i : Ingress) : List IngressTls := (i.spec.bind (·.tls)).getD []

/-- The backend for requests that no rule takes. -/
def defaultBackend? (i : Ingress) : Option IngressBackend := i.spec.bind (·.defaultBackend)

end Ingress

end GatewayMigration
