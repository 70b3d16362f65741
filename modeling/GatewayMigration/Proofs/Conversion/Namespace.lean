import GatewayMigration.Conversion
import GatewayMigration.Proofs.OrderedMap
import GatewayMigration.Proofs.RuleGroup.Paths

/-!
# Conversions in one namespace

Every key that a conversion looks something up with has the namespace of the Ingress that asks for
it. So the objects of a namespace are converted as if there were no others: what a step does in
another namespace cannot be seen from this one.

## Main definitions

* `OrderedMap.within`, `Topology.within`, `Draft.within`: what is there in a namespace
* `FieldError.isIn`: the error is about an object of a namespace

## Main results

* `Draft.within_place`, `Draft.within_placeDefault`: a step is seen in its own namespace only
* `convert_filter`: the conversion of the Ingresses of a namespace
-/

namespace GatewayMigration

universe u

/-! ### Parts of topologies -/

/-- The entries of a namespace. -/
def OrderedMap.within {α : Type u} (m : OrderedMap ObjectName α) (ns : String) :
    OrderedMap ObjectName α :=
  m.restrict fun k => k.ns = ns

/-- The objects of a namespace. -/
def Topology.within (t : Topology) (ns : String) : Topology where
  gateways := t.gateways.within ns
  httpRoutes := t.httpRoutes.within ns
  tlsRoutes := t.tlsRoutes.within ns
  tcpRoutes := t.tcpRoutes.within ns
  udpRoutes := t.udpRoutes.within ns
  referenceGrants := t.referenceGrants.within ns
  services := t.services.within ns

/-- The error is about an object of the namespace. -/
def FieldError.isIn (e : FieldError) (ns : String) : Bool := e.object.any (·.name.ns = ns)

/-- The objects and the conflicts of a namespace. -/
def Draft.within (d : Draft) (ns : String) : Draft :=
  ⟨d.topology.within ns, d.conflicts.filter (·.isIn ns)⟩

variable {ns : String}

theorem FieldError.isIn_ofObject (kind : FieldErrorKind) (message : String) (path : FieldPath)
    (object : ObjectRef) :
    (((here kind message).under path).ofObject object).isIn ns = decide (object.name.ns = ns) := rfl

namespace OrderedMap

variable {α : Type u} (m : OrderedMap ObjectName α)

theorem entries_within : (m.within ns).entries = m.entries.filter fun e => e.1.ns = ns := rfl

theorem find?_within {k : ObjectName} (hk : k.ns = ns) : (m.within ns).find? k = m.find? k := by
  rw [within, find?_restrict, if_pos (decide_eq_true hk)]

theorem find?_within_of_ne {k : ObjectName} (hk : k.ns ≠ ns) : (m.within ns).find? k = none := by
  rw [within, find?_restrict, if_neg (by simpa using hk)]

theorem within_upsert (k : ObjectName) (f : Option α → α) :
    (m.upsert k f).within ns =
      if k.ns = ns then (m.within ns).upsert k f else m.within ns := by
  simp only [within, restrict_upsert, decide_eq_true_eq]

end OrderedMap

namespace Draft

variable (d : Draft)

/-! ### Steps -/

theorem within_report (e : FieldError) :
    (d.report e).within ns = if e.isIn ns then (d.within ns).report e else d.within ns := by
  unfold report within
  by_cases he : e.isIn ns <;> simp [he, List.filter_append]

theorem within_listen (name : ObjectName) (className : String) (ls : List Listener) :
    (d.listen name className ls).within ns =
      if name.ns = ns then (d.within ns).listen name className ls else d.within ns := by
  unfold listen within Topology.withGateway Topology.within
  by_cases hn : name.ns = ns <;> simp [hn, OrderedMap.within_upsert]

theorem within_route (name : ObjectName) (r : HttpRoute) :
    (d.route name r).within ns =
      if name.ns = ns then (d.within ns).route name r else d.within ns := by
  unfold route within Topology.within OrderedMap.insert
  by_cases hn : name.ns = ns <;> simp [hn, OrderedMap.within_upsert]

/-- A conflict of a group is seen in the namespace of the group. -/
theorem conflict?_within {key : GroupKey} (hk : key.ns = ns) (g : RuleGroup) :
    (d.within ns).conflict? key g = d.conflict? key g := by
  have hroute : (d.within ns).topology.httpRoutes.contains (g.routeName key) =
      d.topology.httpRoutes.contains (g.routeName key) :=
    congrArg Option.isSome (OrderedMap.find?_within _ hk)
  have hgateway : (d.within ns).gateway key.gateway key.className =
      d.gateway key.gateway key.className := by
    have hfind : (d.within ns).topology.gateways.find? key.gateway =
        d.topology.gateways.find? key.gateway := OrderedMap.find?_within _ hk
    rw [gateway, hfind, gateway]
  unfold conflict?
  rw [hroute, hgateway]

/-- **A group is placed in its own namespace** and nowhere else. -/
theorem within_place (e : GroupKey × RuleGroup) :
    (d.place e).within ns = if e.1.ns = ns then (d.within ns).place e else d.within ns := by
  obtain ⟨key, g⟩ := e
  have hconflict : key.ns = ns → (d.within ns).conflict? key g = d.conflict? key g := fun hk =>
    conflict?_within d hk g
  simp only [place]
  -- in its own namespace the step is made on both sides, and in no other it is seen
  cases hc : d.conflict? key g with
  | some message =>
    by_cases hk : key.ns = ns <;>
      simp [hconflict, hc, hk, within_report, within_listen, FieldError.isIn_ofObject,
        RuleGroup.ingressRef, GroupKey.gateway]
  | none =>
    by_cases hr : g.routes.isEmpty = true <;> by_cases hk : key.ns = ns <;>
      simp [hconflict, hc, hk, hr, within_route, within_listen, RuleGroup.routeName,
        GroupKey.gateway]

/-- A default backend is placed in its own namespace and nowhere else. -/
theorem within_placeDefault (b : DefaultRoute) :
    (d.placeDefault b).within ns =
      if b.ingress.ns = ns then (d.within ns).placeDefault b else d.within ns := by
  by_cases hb : b.ingress.ns = ns
  · have hroute : ∀ name, (d.within ns).topology.httpRoutes.contains ⟨b.ingress.ns, name⟩ =
        d.topology.httpRoutes.contains ⟨b.ingress.ns, name⟩ := fun name =>
      congrArg Option.isSome (OrderedMap.find?_within _ hb)
    simp only [placeDefault, if_pos hb, hroute]
    split
    · simp [within_report, FieldError.isIn_ofObject, hb]
    · simp [within_route, within_listen, hb]
  · simp only [placeDefault, if_neg hb]
    split
    · simp [within_report, FieldError.isIn_ofObject, hb]
    · simp [within_route, within_listen, hb]

/-! ### Runs -/

theorem within_foldl_place (es : List (GroupKey × RuleGroup)) :
    (es.foldl place d).within ns =
      (es.filter fun e => e.1.ns = ns).foldl place (d.within ns) :=
  foldl_filter_of_step (f := fun d : Draft => d.within ns) (fun e _ d => d.within_place e) d

theorem within_foldl_placeDefault (bs : List DefaultRoute) :
    (bs.foldl placeDefault d).within ns =
      (bs.filter fun b => b.ingress.ns = ns).foldl placeDefault (d.within ns) :=
  foldl_filter_of_step (f := fun d : Draft => d.within ns)
    (fun b _ d => d.within_placeDefault b) d

end Draft

/-! ### Conversions -/

variable (options : ConversionOptions) (ingresses : List Ingress)

theorem filter_sites :
    (ingresses.flatMap (Ingress.sites options)).filter (fun s => s.key.ns = ns) =
      (ingresses.filter fun i => i.objectName.ns = ns).flatMap (Ingress.sites options) := by
  refine filter_flatMap_of_forall fun i _ s hs => ?_
  rw [RuleSite.key, Ingress.ingress_of_mem_sites options hs]

/-- A default backend that converts has the name and the class of its Ingress. -/
theorem Ingress.eq_of_defaultRoute? {i : Ingress} {b : DefaultRoute}
    (h : i.defaultRoute? options = some b) :
    b = ⟨i.objectName, i.conversionClass options, b.backend⟩ := by
  unfold defaultRoute? defaultConversion at h
  cases hb : i.defaultBackend? with
  | none => simp [hb] at h
  | some backend =>
    cases hr : backend.toBackendRef with
    | error e => simp [hb, hr, Except.mapError, Except.map, Except.toOption] at h
    | ok r =>
      simp only [hb, hr, Except.mapError, Except.map, Except.toOption, Option.map_some,
        Option.bind_some, Option.some.injEq] at h
      rw [← h]

theorem Ingress.ingress_of_defaultRoute? {i : Ingress} {b : DefaultRoute}
    (h : i.defaultRoute? options = some b) : b.ingress = i.objectName := by
  rw [eq_of_defaultRoute? options h]

theorem filter_defaultRoutes :
    (ingresses.filterMap (Ingress.defaultRoute? options)).filter (fun b => b.ingress.ns = ns) =
      (ingresses.filter fun i => i.objectName.ns = ns).filterMap
        (Ingress.defaultRoute? options) := by
  refine filter_filterMap_of_forall fun i _ b hb => ?_
  rw [Ingress.ingress_of_defaultRoute? options hb]

theorem filter_fieldErrors :
    (ingresses.flatMap (Ingress.fieldErrors options)).filter (·.isIn ns) =
      (ingresses.filter fun i => i.objectName.ns = ns).flatMap
        (Ingress.fieldErrors options) := by
  refine filter_flatMap_of_forall fun i _ e he => ?_
  rw [FieldError.isIn, Ingress.object_of_mem_fieldErrors he]
  rfl

theorem entries_gather_filter (sites : List RuleSite) :
    (RuleGroup.gather options (sites.filter fun s => s.key.ns = ns)).entries =
      (RuleGroup.gather options sites).entries.filter fun e => e.1.ns = ns := by
  have h := OrderedMap.restrict_foldl_upsert (p := fun k : GroupKey => k.ns = ns) RuleSite.key
    (RuleGroup.absorb options) sites ∅
  exact (congrArg OrderedMap.entries h).symm

/-- **The Ingresses of a namespace are converted as if there were no others.** -/
theorem convert_filter :
    convert options (ingresses.filter fun i => i.objectName.ns = ns) =
      ((convert options ingresses).1.within ns,
        (convert options ingresses).2.filter (·.isIn ns)) := by
  simp only [convert, ← filter_sites, ← filter_defaultRoutes, ← filter_fieldErrors,
    entries_gather_filter, List.filter_append]
  -- the draft of the namespace is the part of the draft of all
  rw [← show Draft.empty.within ns = .empty from rfl, ← Draft.within_foldl_place,
    ← Draft.within_foldl_placeDefault]
  rfl

end GatewayMigration
