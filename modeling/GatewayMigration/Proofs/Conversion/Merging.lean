import GatewayMigration.Proofs.Conversion.Accounting
import GatewayMigration.Proofs.Conversion.Certificates
import GatewayMigration.Proofs.RuleGroup.Merging

/-!
# The rules of routes

The route of a kept group is made from the paths of the group alone, read in the order of the
Ingresses, of the rules of each and of the paths of each. Paths that convert to one match share a
rule, whatever rule or Ingress they come from and however they are written; the others are passed
over. The only other routes are those of default backends.

## Main definitions

* `MergedRoutes`: the routes of a conversion and what they are made from

## Main results

* `Conversion.merges_of_mem_groups`: the rules of a group are made from its paths
* `mergedRoutes_convert`: all routes of a conversion are made like that
-/

namespace GatewayMigration

namespace Conversion

variable {options : ConversionOptions} {ingresses : List Ingress} {e : KeyedGroup}

theorem routes_of_mem_groups (he : e ∈ groups options ingresses) : e.2.routes =
    RuleGroup.addBackends []
      ((pathSites options ingresses e.1).filterMap (PathSite.routed? options)) := by
  rw [filterMap_pathSites]
  exact RuleGroup.routes_of_ofSites (mem_groups_iff.mp he)

/-- **The rules of a group are made from its paths.** -/
theorem merges_of_mem_groups (he : e ∈ groups options ingresses) :
    Merges options (pathSites options ingresses e.1) (e.2.toHttpRoute e.1).rules := by
  rw [RuleGroup.toHttpRoute, routes_of_mem_groups he]
  exact merges_addBackends options _

/-- A group with a path that has a match has a route. -/
theorem routes_ne_nil_of_match (he : e ∈ groups options ingresses) {p : PathSite}
    (hp : p ∈ pathSites options ingresses e.1) {m : PathMatch} (hm : p.match? options = some m) :
    e.2.routes ≠ [] := by
  obtain ⟨c, hc, -⟩ := Option.map_eq_some_iff.mp hm
  have hmem : c ∈ (pathSites options ingresses e.1).filterMap (PathSite.routed? options) :=
    List.mem_filterMap.mpr ⟨p, hp, hc⟩
  rw [routes_of_mem_groups he, ne_eq, RuleGroup.addBackends_eq_nil_iff]
  rintro ⟨-, hnil⟩
  rw [hnil] at hmem
  cases hmem

/-- A default backend that is placed is the one that an Ingress names. -/
theorem exists_ingress_of_mem_placedDefaults {b : DefaultRoute}
    (hb : b ∈ placedDefaults options ingresses) :
    ∃ i ∈ ingresses, ∃ backend, i.defaultBackend? = some backend ∧ backend.Denotes b.backend := by
  have hmem : b ∈ defaultRoutes options ingresses :=
    (DefaultRoute.perm_placed_refused _ _).mem_iff.mp (List.mem_append_left _ hb)
  obtain ⟨i, hi, hroute⟩ := List.mem_filterMap.mp hmem
  unfold Ingress.defaultRoute? Ingress.defaultConversion at hroute
  cases hbackend : i.defaultBackend? with
  | none =>
    rw [hbackend] at hroute
    cases hroute
  | some backend =>
    rw [hbackend, Option.map_some] at hroute
    refine ⟨i, hi, backend, hbackend, IngressBackend.toBackendRef_eq_ok_iff.mp ?_⟩
    cases hr : backend.toBackendRef with
    | error cause =>
      rw [hr] at hroute
      cases hroute
    | ok r =>
      rw [hr] at hroute
      cases hroute
      rfl

end Conversion

open Conversion

/-- The routes of a conversion and what they are made from. -/
structure MergedRoutes (options : ConversionOptions) (ingresses : List Ingress) : Prop where
  /-- A kept group with a path that converts has a route, and its rules are made from the paths of
  the group. -/
  kept : ∀ e ∈ keptGroups options ingresses,
    (∃ p ∈ pathSites options ingresses e.1, ∃ m, p.match? options = some m) →
    ∃ r, (convert options ingresses).1.httpRoutes.find? e.routeName = some r ∧
      Merges options (pathSites options ingresses e.1) r.rules
  /-- There is no other route, but that of a default backend, which sends all requests to the
  backend that an Ingress names. -/
  only : ∀ name r, (convert options ingresses).1.httpRoutes.find? name = some r →
    (∃ e ∈ keptGroups options ingresses, e.routeName = name ∧
      Merges options (pathSites options ingresses e.1) r.rules) ∨
    ∃ b ∈ placedDefaults options ingresses, b.routeName = name ∧ r.rules = [⟨[], [b.backend]⟩] ∧
      ∃ i ∈ ingresses, ∃ backend, i.defaultBackend? = some backend ∧ backend.Denotes b.backend

/-- **Rules are merged by match**, in the order in which the matches first occur, with one backend
for each path that converts, whatever the Ingresses, the default class and the match for paths left
to the provider. -/
theorem mergedRoutes_convert (options : ConversionOptions) (ingresses : List Ingress) :
    MergedRoutes options ingresses where
  kept e he hpath := by
    obtain ⟨p, hp, m, hm⟩ := hpath
    have hgroup := mem_groups_of_mem_keptGroups he
    have hne := routes_ne_nil_of_match hgroup hp hm
    refine ⟨e.2.toHttpRoute e.1, ?_, merges_of_mem_groups hgroup⟩
    rw [OrderedMap.find?_eq_some_iff, mem_httpRoutes_convert_iff]
    exact .inl ⟨e, he, hne, rfl, rfl⟩
  only name r hr := by
    rw [OrderedMap.find?_eq_some_iff, mem_httpRoutes_convert_iff] at hr
    rcases hr with ⟨e, he, -, rfl, rfl⟩ | ⟨b, hb, rfl, rfl⟩
    · exact .inl ⟨e, he, rfl, merges_of_mem_groups (mem_groups_of_mem_keptGroups he)⟩
    · exact .inr ⟨b, hb, rfl, rfl, exists_ingress_of_mem_placedDefaults hb⟩

/-- Two Ingresses for one host share the rule of their path. -/
example : ((convert ⟨none, none⟩ [.single "a" "gce" (some "foo.com") [],
    .single "b" "gce" (some "foo.com") []]).1.httpRoutes.find? ⟨"default", "a-foo-com"⟩).map
      (·.rules) = some [⟨[.pathPrefix "/"], [.service "a" 80, .service "b" 80]⟩] := by
  decide +kernel

end GatewayMigration
