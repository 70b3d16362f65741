import GatewayMigration.Gce.Provider
import GatewayMigration.Proofs.OrderedMap

/-!
# What the passes for Google Cloud leave alone

The settings of Services and the SSL policies of Gateways are put beside the routing of a
topology: Gateways, their listeners and routes are as before. Putting the class of the Gateway
controller in place of the ingress class takes away whole Gateways, with the routes that attach to
them, or nothing.

## Main definitions

* `Topology.SameRouting`: two topologies with the same Gateways, listeners and routes

## Main results

* `sameRouting_configureServices`, `sameRouting_configureGateways`: settings leave the routing
* `find?_gateways_setClasses`, `mem_httpRoutes_setClasses`: what is left of Gateways and routes
* `exists_gateway_of_convert`: the Gateways of a conversion come from its Ingresses
-/

namespace GatewayMigration

/-! ### Routing -/

/-- What a Gateway does, apart from what providers add to it. -/
def Gateway.routing (g : Gateway) : String × List Listener := (g.className, g.listeners)

/-- The topologies have the same Gateways, with the same classes and listeners, and the same
routes. -/
structure Topology.SameRouting (t t' : Topology) : Prop where
  httpRoutes : t'.httpRoutes = t.httpRoutes
  gateways : ∀ name,
    (t'.gateways.find? name).map Gateway.routing = (t.gateways.find? name).map Gateway.routing

namespace Topology.SameRouting

theorem refl (t : Topology) : SameRouting t t := ⟨rfl, fun _ => rfl⟩

theorem trans {t t' t'' : Topology} (h : SameRouting t t') (h' : SameRouting t' t'') :
    SameRouting t t'' :=
  ⟨h'.httpRoutes.trans h.httpRoutes, fun name => (h'.gateways name).trans (h.gateways name)⟩

theorem contains_eq {t t' : Topology} (h : SameRouting t t') (name : ObjectName) :
    t'.gateways.contains name = t.gateways.contains name := by
  have hs := congrArg Option.isSome (h.gateways name)
  simpa [OrderedMap.contains] using hs

end Topology.SameRouting

namespace Gce

variable (inventory : Inventory)

/-! ### Settings -/

theorem sameRouting_foldl_extendService (s : Option ServiceSettings) (services : List ObjectName)
    (t : Topology) :
    Topology.SameRouting t (services.foldl (fun t service => t.extendService service s) t) := by
  induction services generalizing t with
  | nil => exact .refl t
  | cons service services ih =>
    have h : Topology.SameRouting t (t.extendService service s) := ⟨rfl, fun _ => rfl⟩
    exact h.trans (ih _)

theorem sameRouting_configure (v : ConfigVersion) (state : Noted)
    (entry : ObjectName × List ObjectName) :
    Topology.SameRouting state.1 (configure v inventory state entry).1 := by
  obtain ⟨t, notes⟩ := state
  obtain ⟨key, services⟩ := entry
  simp only [configure]
  cases (v.configs inventory).find? key with
  | none => exact .refl _
  | some config =>
    dsimp only
    split
    · exact .refl _
    · exact sameRouting_foldl_extendService _ _ _

theorem sameRouting_foldl_configure (v : ConfigVersion) (state : Noted)
    (entries : List (ObjectName × List ObjectName)) :
    Topology.SameRouting state.1 (entries.foldl (configure v inventory) state).1 := by
  induction entries generalizing state with
  | nil => exact .refl _
  | cons entry entries ih => exact (sameRouting_configure inventory v state entry).trans (ih _)

theorem sameRouting_configureServices (t : Topology) :
    Topology.SameRouting t (configureServices inventory t).1 := by
  let unusable := inventory.services.values.flatMap fun s => (resolve s).2
  exact (sameRouting_foldl_configure inventory .v1beta1 (t, unusable) _).trans
    (sameRouting_foldl_configure inventory .v1 _ _)

theorem sameRouting_requireSslPolicy (state : Noted) (gateway : ObjectName) (config : ObjectRef)
    (policy : String) :
    Topology.SameRouting state.1 (requireSslPolicy state gateway config policy).1 := by
  obtain ⟨t, notes⟩ := state
  simp only [requireSslPolicy]
  cases hg : t.gateways.find? gateway with
  | none => exact .refl _
  | some g =>
    dsimp only
    cases g.gce?.bind (·.sslPolicy) with
    | some existing => exact .refl _
    | none =>
      -- the Gateway is put back with its settings
      refine ⟨rfl, fun name => ?_⟩
      show ((t.gateways.insert gateway _).find? name).map _ = _
      rw [OrderedMap.find?_insert]
      split
      case isTrue hn => rw [hn, hg]; rfl
      case isFalse => rfl

theorem sameRouting_configureGateway (state : Noted) (entry : ObjectName × Ingress) :
    Topology.SameRouting state.1 (configureGateway inventory state entry).1 := by
  obtain ⟨t, notes⟩ := state
  obtain ⟨key, ingress⟩ := entry
  simp only [configureGateway]
  cases ingress.metadata.annotation? frontendAnnotation with
  | none => exact .refl _
  | some name =>
    dsimp only
    cases inventory.frontendConfigs.find? ⟨key.ns, name⟩ with
    | none => exact .refl _
    | some frontend =>
      dsimp only
      cases Ingress.nonempty? frontend.spec.sslPolicy with
      | none => exact .refl _
      | some policy => exact sameRouting_requireSslPolicy (t, _) _ _ policy

theorem sameRouting_configureGateways (state : Noted) :
    Topology.SameRouting state.1 (configureGateways inventory state).1 := by
  unfold configureGateways
  generalize inventory.ingresses.entries = entries
  induction entries generalizing state with
  | nil => exact .refl _
  | cons entry entries ih => exact (sameRouting_configureGateway inventory state entry).trans (ih _)

/-! ### Classes -/

variable (ingresses : List Ingress) (t : Topology)

theorem find?_gateways_setClasses (name : ObjectName) :
    (setClasses ingresses t).1.gateways.find? name =
      if name ∈ unsupported t then none
      else (t.gateways.find? name).map fun g =>
        { g with className := (gatewayClass? g.className).getD g.className } := by
  simp only [setClasses, OrderedMap.find?_mapValues, OrderedMap.find?_filter]
  by_cases hn : name ∈ unsupported t
  · cases t.gateways.find? name <;> simp [hn]
  · cases t.gateways.find? name <;> simp [hn]

theorem mem_httpRoutes_setClasses {name : ObjectName} {r : HttpRoute} :
    (name, r) ∈ (setClasses ingresses t).1.httpRoutes.entries ↔
      (name, r) ∈ t.httpRoutes.entries ∧ ∀ p ∈ r.parents, p.target name ∉ unsupported t := by
  simp [setClasses, OrderedMap.filter]

/-! ### Conversions -/

/-- After the classes are set, a conversion leaves the routing. -/
theorem sameRouting_convert :
    Topology.SameRouting
      (setClasses inventory.ingresses.values
        (GatewayMigration.convert options inventory.ingresses.values).1).1
      (convert inventory).1 :=
  (sameRouting_configureServices inventory _).trans (sameRouting_configureGateways inventory _)

/-- The Gateways of a conversion come from its Ingresses, with their listeners. -/
theorem exists_gateway_of_convert {name : ObjectName} {g : Gateway}
    (h : (convert inventory).1.gateways.find? name = some g) :
    ∃ g', (GatewayMigration.convert options inventory.ingresses.values).1.gateways.find? name =
      some g' ∧ g.listeners = g'.listeners := by
  have hr := (sameRouting_convert inventory).gateways name
  rw [h, find?_gateways_setClasses] at hr
  split at hr
  -- a Gateway that is there was not taken away
  case isTrue => cases hr
  case isFalse =>
    cases hg : (GatewayMigration.convert options inventory.ingresses.values).1.gateways.find? name
      with
    | none => rw [hg] at hr; cases hr
    | some g' =>
      rw [hg] at hr
      exact ⟨g', rfl, congrArg Prod.snd (Option.some.inj hr)⟩

end Gce

end GatewayMigration
