import GatewayMigration.FieldError
import GatewayMigration.Ingress
import GatewayMigration.Topology

/-!
# Rule groups

The rules of all Ingresses, gathered by namespace, ingress class and host. Paths of a group that
match the same requests share one entry, in the order in which their match is first seen. A path
or default backend that cannot be converted is a field error of its Ingress and nothing else.

## Main definitions

* `ConversionOptions`: what a provider decides about Ingresses
* `RuleSite`: a rule with the Ingress that holds it
* `RuleGroup`: the rules of one key
* `RuleGroup.gather`: the groups of a list of rules
* `Ingress.fieldErrors`: what of an Ingress cannot be converted
-/

namespace GatewayMigration

/-- What a provider decides about Ingresses. -/
structure ConversionOptions where
  /-- The match for a path whose meaning is left to the provider; without it such a path is not
  supported. -/
  specificPath : Option (String → PathMatch)
  /-- The ingress class of an Ingress that names none; without it, the name of the Ingress. -/
  defaultClass : Option String

/-! ### Paths and backends -/

/-- The path from a backend to the port of its Service. -/
def servicePortPath : FieldPath := [.field "service", .field "port"]

/-- A port number between 1 and 65535. -/
def ServicePort.toPort? (number : Int32) : Option UInt16 :=
  if 1 ≤ number.toInt ∧ number.toInt ≤ 65535 then some (UInt16.ofNat number.toInt.toNat) else none

/-- The backend of a port of a Service. A named port is not supported, and a number is needed. -/
def IngressService.toBackendRef (s : IngressService) : Except FieldError BackendRef :=
  match s.port with
  | none => .error ((FieldError.here .required "service port is required").under servicePortPath)
  | some port =>
    if (Ingress.nonempty? port.name).isSome then
      .error ((FieldError.here .notSupported "named ports not supported").under
        (servicePortPath ++ [.field "name"]))
    else
      match port.number with
      | none =>
        .error ((FieldError.here .required "service port number is required").under
          (servicePortPath ++ [.field "number"]))
      | some number =>
        match ServicePort.toPort? number with
        | some p => .ok (.service s.name p)
        | none =>
          .error ((FieldError.here .invalid "port must be between 1 and 65535").under
            (servicePortPath ++ [.field "number"]))

/-- The backend that an Ingress names; a Service counts before any other object. -/
def IngressBackend.toBackendRef (b : IngressBackend) : Except FieldError BackendRef :=
  match b.service, b.resource with
  | some service, _ => service.toBackendRef
  | none, some r => .ok (.resource (Ingress.nonempty? r.apiGroup) r.kind r.name)
  | none, none =>
    .error (.here .required "a backend must reference either a service or a resource")

/-- The match of a path. A path that is missing or empty matches every request. -/
def IngressPath.toPathMatch (options : ConversionOptions) (p : IngressPath) :
    Except FieldError PathMatch :=
  match Ingress.nonempty? p.path with
  | none => .ok (.pathPrefix "/")
  | some value =>
    match p.pathType with
    | "" | "Prefix" => .ok (.pathPrefix value)
    | "Exact" => .ok (.exact value)
    | "ImplementationSpecific" =>
      match options.specificPath with
      | some specific => .ok (specific value)
      | none =>
        .error ((FieldError.here .notSupported
          "implementation specific path type is not supported by this provider").inField
            "pathType")
    | other =>
      .error ((FieldError.here .notSupported ("unsupported path type: " ++ other)).inField
        "pathType")

/-- The match and the backend of a path. -/
def IngressPath.convert (options : ConversionOptions) (p : IngressPath) :
    Except FieldError (PathMatch × BackendRef) := do
  let m ← p.toPathMatch options
  let b ← p.backend.toBackendRef.mapError (·.inField "backend")
  return (m, b)

/-! ### Rules -/

/-- Rules with one key share a route. Keys are ordered by namespace, then class, then host. -/
structure GroupKey where
  /-- The namespace. -/
  ns : String
  className : String
  /-- The host; empty for every host. -/
  host : String
  deriving DecidableEq, Inhabited

namespace GroupKey

/-- The order of keys. -/
def cmp : GroupKey → GroupKey → Ordering :=
  compareLex (compareOn ns) (compareLex (compareOn className) (compareOn host))

instance : Ord GroupKey := ⟨cmp⟩

instance : Std.TransOrd GroupKey := inferInstanceAs (Std.TransCmp
  (compareLex (compareOn ns) (compareLex (compareOn className) (compareOn host))))

theorem compare_eq (a b : GroupKey) :
    compare a b =
      (compare a.ns b.ns).then ((compare a.className b.className).then (compare a.host b.host)) :=
  rfl

instance : Std.LawfulEqOrd GroupKey where
  eq_of_compare {a b} h := by
    rw [compare_eq, Ordering.then_eq_eq, Ordering.then_eq_eq] at h
    obtain ⟨_, _, _⟩ := a
    obtain ⟨_, _, _⟩ := b
    simp_all

/-- The Gateway that the group attaches to. -/
def gateway (k : GroupKey) : ObjectName := ⟨k.ns, k.className⟩

end GroupKey

/-- A rule and where it stands. -/
structure RuleSite where
  ingress : ObjectName
  className : String
  /-- The position of the rule in its Ingress. -/
  index : Nat
  rule : IngressRule
  /-- The certificates of the Ingress. -/
  tls : List IngressTls

/-- The ingress class that an Ingress is converted under. -/
def Ingress.conversionClass (options : ConversionOptions) (i : Ingress) : String :=
  (i.className?.or options.defaultClass).getD i.objectName.name

/-- The rules of an Ingress. -/
def Ingress.sites (options : ConversionOptions) (i : Ingress) : List RuleSite :=
  i.rules.mapIdx fun index rule =>
    ⟨i.objectName, i.conversionClass options, index, rule, i.tls⟩

namespace RuleSite

def key (s : RuleSite) : GroupKey := ⟨s.ingress.ns, s.className, s.rule.host.getD ""⟩

/-- The field of the rule in its Ingress. -/
def path (s : RuleSite) : FieldPath := [.field "spec", .field "rules", .index s.index]

/-- The paths of the rule, each converted or with its error, which is seen from the Ingress. -/
def conversions (options : ConversionOptions) (s : RuleSite) :
    List (Except FieldError (PathMatch × BackendRef)) :=
  (s.rule.paths.getD []).mapIdx fun j p =>
    (p.convert options).mapError
      (·.under (s.path ++ [.field "http", .field "paths", .index j]))

/-- The paths of the rule that convert. -/
def routed (options : ConversionOptions) (s : RuleSite) : List (PathMatch × BackendRef) :=
  (s.conversions options).filterMap fun c => c.toOption

/-- The errors of the paths that do not convert. -/
def errors (options : ConversionOptions) (s : RuleSite) : List FieldError :=
  (s.conversions options).filterMap fun
    | .error e => some e
    | .ok _ => none

end RuleSite

/-! ### Groups -/

/-- The rules of one key. -/
structure RuleGroup where
  /-- The name of the first Ingress of the group. -/
  ingress : String
  /-- The position of the group's first rule in that Ingress. -/
  ruleIndex : Nat
  /-- The certificates of the Ingress of each rule, one rule after the other. -/
  tls : List IngressTls
  /-- The backends of each match, matches in the order in which they are first seen. -/
  routes : List (PathMatch × List BackendRef)
  deriving DecidableEq, Inhabited

namespace RuleGroup

/-- Add a backend to those of its match. -/
def addBackend (m : PathMatch) (b : BackendRef) :
    List (PathMatch × List BackendRef) → List (PathMatch × List BackendRef)
  | [] => [(m, [b])]
  | (m', bs) :: rest =>
    if m' = m then (m', bs ++ [b]) :: rest else (m', bs) :: addBackend m b rest

/-- Add the backends of paths, in their order. -/
def addBackends (routes : List (PathMatch × List BackendRef)) (l : List (PathMatch × BackendRef)) :
    List (PathMatch × List BackendRef) :=
  l.foldl (fun routes p => addBackend p.1 p.2 routes) routes

/-- Add a rule to the group of its key, if there is one yet. -/
def absorb (options : ConversionOptions) (s : RuleSite) (group : Option RuleGroup) : RuleGroup :=
  let g := group.getD ⟨s.ingress.name, s.index, [], []⟩
  { g with tls := g.tls ++ s.tls, routes := addBackends g.routes (s.routed options) }

/-- The groups of a list of rules. -/
def gather (options : ConversionOptions) (sites : List RuleSite) : OrderedMap GroupKey RuleGroup :=
  sites.foldl (fun groups s => groups.upsert s.key (absorb options s)) ∅

end RuleGroup

/-! ### Default backends -/

/-- A default backend that converts, and where it comes from. -/
structure DefaultRoute where
  ingress : ObjectName
  className : String
  backend : BackendRef
  deriving DecidableEq, Inhabited

namespace Ingress

/-- The field of the default backend. -/
def defaultBackendPath : FieldPath := [.field "spec", .field "defaultBackend"]

/-- The default backend of an Ingress, converted or with its error. -/
def defaultConversion (options : ConversionOptions) (i : Ingress) :
    Option (Except FieldError DefaultRoute) :=
  i.defaultBackend?.map fun b =>
    (b.toBackendRef.mapError (·.under defaultBackendPath)).map
      (⟨i.objectName, i.conversionClass options, ·⟩)

/-- The default backend of an Ingress, if it has one that converts. -/
def defaultRoute? (options : ConversionOptions) (i : Ingress) : Option DefaultRoute :=
  (i.defaultConversion options).bind Except.toOption

/-- What of an Ingress cannot be converted: its rules in order, then its default backend. -/
def fieldErrors (options : ConversionOptions) (i : Ingress) : List FieldError :=
  let ofRules := (i.sites options).flatMap (RuleSite.errors options)
  let ofDefault :=
    match i.defaultConversion options with
    | some (.error e) => [e]
    | _ => []
  (ofRules ++ ofDefault).map (·.ofObject i.ref)

end Ingress

end GatewayMigration
