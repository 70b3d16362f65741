import GatewayMigration.Proofs.Conversion.Settlement

/-!
# What a conversion is determined by

The topology of a conversion has Gateways and routes and nothing else, and both are made from what
is attached. So two conversions make the same topology if their Gateways have the same names, the
same listeners are attached to each in the same order, and the same routes are attached in any
order.

## Main definitions

* `Topology.rest`: what is there besides Gateways and routes for HTTP

## Main results

* `rest_convert`: a conversion makes nothing else
* `Conversion.topology_ext`: a conversion is determined by what it attaches
-/

namespace GatewayMigration

/-! ### What a conversion does not make -/

/-- What is there besides Gateways and routes for HTTP. -/
def Topology.rest (t : Topology) : Topology := { t with gateways := ∅, httpRoutes := ∅ }

theorem Topology.ext_rest {t t' : Topology} (hgateways : t.gateways = t'.gateways)
    (hroutes : t.httpRoutes = t'.httpRoutes) (hrest : t.rest = t'.rest) : t = t' := by
  obtain ⟨gateways, routes, tls, tcp, udp, grants, services⟩ := t
  obtain ⟨gateways', routes', tls', tcp', udp', grants', services'⟩ := t'
  simp only [rest, Topology.mk.injEq, true_and] at hrest
  obtain ⟨rfl, rfl, rfl, rfl, rfl⟩ := hrest
  obtain rfl : gateways = gateways' := hgateways
  obtain rfl : routes = routes' := hroutes
  rfl

theorem Draft.rest_place (d : Draft) (e : KeyedGroup) :
    (d.place e).topology.rest = d.topology.rest := by
  obtain ⟨key, g⟩ := e
  simp only [place]
  cases d.conflict? key g with
  | some message => rfl
  | none =>
    dsimp only
    split <;> rfl

theorem Draft.rest_placeDefault (d : Draft) (b : DefaultRoute) :
    (d.placeDefault b).topology.rest = d.topology.rest := by
  simp only [placeDefault]
  split <;> rfl

/-- **A conversion makes Gateways and routes for HTTP** and nothing else. -/
theorem rest_convert (options : ConversionOptions) (ingresses : List Ingress) :
    (convert options ingresses).1.rest = ∅ := by
  have hgroups : ∀ (es : List KeyedGroup) (d : Draft),
      (es.foldl Draft.place d).topology.rest = d.topology.rest :=
    apply_foldl_eq (f := fun d : Draft => d.topology.rest) Draft.rest_place
  have hdefaults : ∀ (bs : List DefaultRoute) (d : Draft),
      (bs.foldl Draft.placeDefault d).topology.rest = d.topology.rest :=
    apply_foldl_eq (f := fun d : Draft => d.topology.rest) Draft.rest_placeDefault
  exact (hdefaults _ _).trans (hgroups _ _)

/-! ### What it makes -/

/-- Maps with the same entries in some order are the same map. -/
theorem OrderedMap.ext_perm {α : Type} {m n : OrderedMap ObjectName α}
    (h : m.entries.Perm n.entries) : m = n := by
  apply ext_find?
  intro k
  apply Option.ext
  intro v
  rw [find?_eq_some_iff, find?_eq_some_iff]
  exact h.mem_iff

namespace Conversion

open Attachment

variable {options options' : ConversionOptions} {ingresses ingresses' : List Ingress}

/-- **A conversion is determined by what it attaches.** -/
theorem topology_ext
    (hnames : ∀ name, name ∈ gatewayNames options ingresses ↔
      name ∈ gatewayNames options' ingresses')
    (hlisteners : ∀ name, listenersAt (attachments options ingresses) name =
      listenersAt (attachments options' ingresses') name)
    (hroutes : (routes (attachments options ingresses)).Perm
      (routes (attachments options' ingresses'))) :
    (convert options ingresses).1 = (convert options' ingresses').1 := by
  apply Topology.ext_rest
  case hgateways =>
    apply OrderedMap.ext_find?
    intro name
    rw [find?_gateways_convert, find?_gateways_convert, gatewayAt, gatewayAt, hlisteners]
    simp only [hnames]
  case hroutes =>
    apply OrderedMap.ext_perm
    exact (perm_httpRoutes_convert options ingresses).trans
      (hroutes.trans (perm_httpRoutes_convert options' ingresses').symm)
  case hrest => rw [rest_convert, rest_convert]

end Conversion

end GatewayMigration
