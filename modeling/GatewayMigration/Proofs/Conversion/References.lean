import GatewayMigration.GatewayApi
import GatewayMigration.Proofs.Conversion.Certificates
import GatewayMigration.Proofs.Gce.Routing

/-!
# References from routes to Gateways

Every route of a conversion attaches to one Gateway, and that Gateway listens for the host of the
route. The passes for Google Cloud take a Gateway away only together with its routes, so writing
what they make as Gateway API objects never finds a Gateway missing.

## Main definitions

* `Gateway.ListensFor`: a Gateway takes requests for a host without encryption
* `Topology.Serves`: a route has one Gateway, which listens for it

## Main results

* `Conversion.plain_mem_of_mem_keptGroups`: a kept group has its plain listener on its Gateway
* `Topology.lower_errors_eq_nil_iff`: when no Gateway is missing
* `reference_integrity`: every reference is met
-/

namespace GatewayMigration

namespace Conversion

open Attachment

variable {options : ConversionOptions} {ingresses : List Ingress} {name : ObjectName}

/-! ### Routes and their Gateways -/

/-- A plain listener that is attached leaves a plain listener of its name on the Gateway. -/
theorem exists_plain_of_mem_attachments {a : Attachment} (ha : a ∈ attachments options ingresses)
    {hostname : Option String} (hl : Listener.plain hostname ∈ a.listeners) :
    ∃ hostname', Listener.plain hostname' ∈
      (gatewayAt (attachments options ingresses) a.gateway).listeners := by
  obtain ⟨l, hmem, hn⟩ := exists_mem_gatewayAt ha hl
  rw [(standard_of_mem_gatewayAt hmem).eq_plain hn] at hmem
  exact ⟨_, hmem⟩

/-- **A kept group has its plain listener on its Gateway.** -/
theorem plain_mem_of_mem_keptGroups {e : KeyedGroup} (he : e ∈ keptGroups options ingresses) :
    Listener.plain (e.2.hostname? e.1.host) ∈
      (gatewayAt (attachments options ingresses) e.gateway).listeners := by
  have hl : Listener.plain (e.2.hostname? e.1.host) ∈ e.listeners :=
    RuleGroup.mem_listeners_iff.mpr (.inl rfl)
  obtain ⟨l, hmem, hn, hh, -⟩ := exists_listener_of_mem_keptGroups he hl
  have hp := (standard_of_mem_gatewayAt hmem).eq_plain hn
  rw [hh] at hp
  rwa [hp] at hmem

end Conversion

/-! ### Served routes -/

/-- A Gateway takes requests that are not encrypted, for a host or for every host. -/
def Gateway.ListensFor (g : Gateway) (hostname : Option String) : Prop :=
  ∃ l ∈ g.listeners, l.protocol = .http ∧ l.port = 80 ∧ l.hostname = hostname

theorem Gateway.listensFor_of_plain_mem {g : Gateway} {hostname : Option String}
    (h : Listener.plain hostname ∈ g.listeners) : g.ListensFor hostname :=
  ⟨_, h, rfl, rfl, rfl⟩

namespace Topology

/-- A route has one parent, a Gateway in its own namespace that is there and listens for each of
its hosts; it has some listener for a route without hosts. -/
structure Serves (t : Topology) (name : ObjectName) (r : HttpRoute) (p : ParentRef)
    (g : Gateway) : Prop where
  parents : r.parents = [p]
  ns : (p.target name).ns = name.ns
  gateway : t.gateways.find? (p.target name) = some g
  hosts : ∀ host ∈ r.hostnames, g.ListensFor (some host)
  anyHost : r.hostnames = [] → ∃ hostname, g.ListensFor hostname

theorem Serves.contains {t : Topology} {name : ObjectName} {r : HttpRoute} {p : ParentRef}
    {g : Gateway} (h : t.Serves name r p g) : t.gateways.contains (p.target name) = true := by
  rw [OrderedMap.contains, h.gateway]
  rfl

end Topology

namespace Conversion

open Attachment

variable {options : ConversionOptions} {ingresses : List Ingress} {name : ObjectName}

theorem serves_of_mem_keptGroups {e : KeyedGroup} (he : e ∈ keptGroups options ingresses) :
    (convert options ingresses).1.Serves e.routeName (e.2.toHttpRoute e.1)
      (.gateway e.1.className) (gatewayAt (attachments options ingresses) e.gateway) := by
  have hplain := Gateway.listensFor_of_plain_mem (plain_mem_of_mem_keptGroups he)
  constructor
  case parents => rfl
  case ns => rfl
  case gateway => exact find?_gateways_of_mem_keptGroups he
  case hosts =>
    intro host hhost
    -- with a host of its own, a group does not take that of a certificate
    by_cases h : e.1.host.isEmpty
    · simp [RuleGroup.toHttpRoute, h] at hhost
    · have hh : host = e.1.host := by simpa [RuleGroup.toHttpRoute, h] using hhost
      rw [RuleGroup.hostname?, if_neg h] at hplain
      rwa [hh]
  case anyHost => exact fun _ => ⟨_, hplain⟩

theorem serves_of_mem_placedDefaults {b : DefaultRoute}
    (hb : b ∈ placedDefaults options ingresses) :
    (convert options ingresses).1.Serves b.routeName b.toHttpRoute
      (.gateway b.className) (gatewayAt (attachments options ingresses) b.gateway) := by
  have ha : b.attachment ∈ attachments options ingresses :=
    List.mem_append_right _ (List.mem_map.mpr ⟨b, hb, rfl⟩)
  constructor
  case parents => rfl
  case ns => rfl
  case gateway => exact find?_gateways_of_mem_attachments ha
  case hosts => simp [DefaultRoute.toHttpRoute]
  case anyHost =>
    intro _
    obtain ⟨hostname, hl⟩ := exists_plain_of_mem_attachments ha (List.mem_singleton.mpr rfl)
    exact ⟨hostname, Gateway.listensFor_of_plain_mem hl⟩

/-- **Every route of a conversion is served** by one Gateway of the conversion. -/
theorem exists_serves_of_find?_eq_some {r : HttpRoute}
    (h : (convert options ingresses).1.httpRoutes.find? name = some r) :
    ∃ p g, (convert options ingresses).1.Serves name r p g := by
  rw [OrderedMap.find?_eq_some_iff, mem_httpRoutes_convert_iff] at h
  rcases h with ⟨e, he, -, rfl, rfl⟩ | ⟨b, hb, rfl, rfl⟩
  · exact ⟨_, _, serves_of_mem_keptGroups he⟩
  · exact ⟨_, _, serves_of_mem_placedDefaults hb⟩

end Conversion

/-! ### Missing Gateways -/

theorem HttpRoute.parentError?_eq_none_iff {gateways : OrderedMap ObjectName Gateway}
    {name : ObjectName} {r : HttpRoute} :
    r.parentError? gateways name = none ↔
      ∀ p ∈ r.parents, gateways.contains (p.target name) = true := by
  simp only [parentError?, missingParent?, Option.map_eq_none_iff, List.find?_eq_none,
    Bool.not_eq_true', Bool.not_eq_false]
  constructor
  · intro h p hp
    obtain ⟨i, hi, rfl⟩ := List.getElem_of_mem hp
    exact h (i, _) (List.mem_mapIdx.mpr ⟨i, hi, rfl⟩)
  · rintro h _ hq
    obtain ⟨i, hi, rfl⟩ := List.mem_mapIdx.mp hq
    exact h _ (List.getElem_mem hi)

/-- Writing a topology reports nothing just when the Gateways of all routes are there. -/
theorem Topology.lower_errors_eq_nil_iff {t : Topology} :
    t.lower.2 = [] ↔ ∀ e ∈ t.httpRoutes.entries, ∀ p ∈ e.2.parents,
      t.gateways.contains (p.target e.1) = true := by
  simp only [lower, List.filterMap_eq_nil_iff, HttpRoute.parentError?_eq_none_iff]

namespace Gce

/-- The classes leave a Gateway that the controller has. -/
theorem contains_gateways_setClasses {ingresses : List Ingress} {t : Topology} {name : ObjectName}
    (hname : name ∉ unsupported t) :
    (setClasses ingresses t).1.gateways.contains name = t.gateways.contains name := by
  rw [OrderedMap.contains, find?_gateways_setClasses, if_neg hname, Option.isSome_map]
  rfl

/-- **No Gateway is missing** after the passes for Google Cloud. -/
theorem lower_errors_convert (inventory : Inventory) : (lower (convert inventory).1).2 = [] := by
  have hr := sameRouting_convert inventory
  refine Topology.lower_errors_eq_nil_iff.mpr ?_
  rintro ⟨name, r⟩ he p hp
  rw [hr.httpRoutes, mem_httpRoutes_setClasses] at he
  obtain ⟨he, hsupported⟩ := he
  obtain ⟨p', g, hserves⟩ :=
    Conversion.exists_serves_of_find?_eq_some (OrderedMap.find?_eq_some_iff.mpr he)
  -- the route kept its Gateway: they go together
  have hpp : p = p' := by
    rw [hserves.parents] at hp
    exact List.mem_singleton.mp hp
  rw [hr.contains_eq, contains_gateways_setClasses (hsupported p hp), hpp]
  exact hserves.contains

end Gce

/-- **Every reference is met.** A route of a conversion has one Gateway, of the same topology and
namespace, that listens for it without encryption; and what the provider for Google Cloud makes of
any inventory is written without an error. -/
theorem reference_integrity :
    (∀ (options : ConversionOptions) (ingresses : List Ingress) (name : ObjectName) (r : HttpRoute),
      (convert options ingresses).1.httpRoutes.find? name = some r →
      ∃ p g, r.parents = [p] ∧ (p.target name).ns = name.ns ∧
        (convert options ingresses).1.gateways.find? (p.target name) = some g ∧
        (∀ host ∈ r.hostnames, ∃ l ∈ g.listeners,
          l.protocol = .http ∧ l.port = 80 ∧ l.hostname = some host) ∧
        (r.hostnames = [] → ∃ l ∈ g.listeners, l.protocol = .http ∧ l.port = 80)) ∧
    ∀ inventory : Gce.Inventory, (Gce.lower (Gce.convert inventory).1).2 = [] := by
  refine ⟨fun options ingresses name r h => ?_, Gce.lower_errors_convert⟩
  obtain ⟨p, g, hserves⟩ := Conversion.exists_serves_of_find?_eq_some h
  refine ⟨p, g, hserves.parents, hserves.ns, hserves.gateway, hserves.hosts, fun hnil => ?_⟩
  obtain ⟨_, l, hl, hprotocol, hport, -⟩ := hserves.anyHost hnil
  exact ⟨l, hl, hprotocol, hport⟩

theorem reference_integrity_single :
    let t := (convert ⟨none, none⟩ [.single "web" "gce" (some "foo.com") []]).1
    ∃ r, t.httpRoutes.find? ⟨"default", "web-foo-com"⟩ = some r ∧ r.hostnames = ["foo.com"] ∧
      ∃ p g, r.parents = [p] ∧ (p.target ⟨"default", "web-foo-com"⟩).ns = "default" ∧
        t.gateways.find? (p.target ⟨"default", "web-foo-com"⟩) = some g ∧
        ∃ l ∈ g.listeners, l.protocol = .http ∧ l.port = 80 ∧ l.hostname = some "foo.com" := by
  let r : HttpRoute :=
    ⟨[.gateway "gce"], ["foo.com"], [⟨[.pathPrefix "/"], [.service "web" 80]⟩]⟩
  have hr : (convert ⟨none, none⟩ [.single "web" "gce" (some "foo.com") []]).1.httpRoutes.find?
      ⟨"default", "web-foo-com"⟩ = some r := by decide +kernel
  obtain ⟨p, g, hp, hns, hg, hhosts, -⟩ := reference_integrity.1 _ _ _ r hr
  exact ⟨r, hr, rfl, p, g, hp, hns, hg, hhosts "foo.com" (List.mem_singleton.mpr rfl)⟩

end GatewayMigration
