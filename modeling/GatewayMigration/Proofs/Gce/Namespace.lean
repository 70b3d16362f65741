import GatewayMigration.Proofs.Conversion.Namespace
import GatewayMigration.Proofs.Conversion.References
import GatewayMigration.Proofs.Gce.Assignment
import GatewayMigration.Proofs.Gce.Documents
import GatewayMigration.Proofs.Gce.Reading
import GatewayMigration.Proofs.Gce.Resolution

/-!
# One namespace of a manifest

Settings, SSL policies and classes are looked up in the namespace of the object that they are for.
So what is read of a namespace is converted as if nothing else had been read.

## Main definitions

* `Notification.isIn`: the notification is about an object of a namespace
* `Gce.Inventory.within`, `Gce.Noted.within`: what is there in a namespace

## Main results

* `within_configure`, `within_configureGateway`: a step is seen in its own namespace only
* `setClasses_within`: the classes of a namespace
* `convert_within`: the conversion of what is read of a namespace
-/

namespace GatewayMigration

/-- The notification is about an object of the namespace. -/
def Notification.isIn (n : Notification) (ns : String) : Bool := n.related.any (·.name.ns = ns)

namespace Gce

/-- What is read of a namespace. -/
def Inventory.within (inventory : Inventory) (ns : String) : Inventory where
  ingresses := inventory.ingresses.within ns
  services := inventory.services.within ns
  backendConfigs := inventory.backendConfigs.within ns
  betaBackendConfigs := inventory.betaBackendConfigs.within ns
  frontendConfigs := inventory.frontendConfigs.within ns

/-- Ingresses and Services are kept under their own names. -/
structure Inventory.Named (inventory : Inventory) : Prop where
  ingresses : ∀ e ∈ inventory.ingresses.entries, e.2.objectName = e.1
  services : ∀ e ∈ inventory.services.entries, e.2.objectName = e.1

/-- The objects and the notifications of a namespace. -/
def Noted.within (state : Noted) (ns : String) : Noted :=
  (state.1.within ns, state.2.filter (·.isIn ns))

variable {ns : String} {inventory : Inventory}

theorem values_within {α : Type} {m : OrderedMap ObjectName α} {name : α → ObjectName}
    (h : ∀ e ∈ m.entries, name e.2 = e.1) :
    (m.within ns).values = m.values.filter fun x => (name x).ns = ns := by
  refine (filter_map_of_forall fun e he => ?_).symm
  rw [h e he]

/-! ### Services -/

section Services

variable {services : OrderedMap ObjectName Service} {v : ConfigVersion}

theorem references_within :
    references (services.within ns) = (references services).filter (·.config.ns = ns) := by
  refine (filter_filterMap_of_forall fun e _ r hr => ?_).symm
  obtain ⟨t, -, rfl⟩ := Option.map_eq_some_iff.mp hr
  rfl

/-- The index of the references of a namespace is a part of the index. -/
theorem referrers_within : referrers v (services.within ns) = (referrers v services).within ns := by
  have hbuckets : (OrderedMap.buckets (referencesTo v services)).within ns =
      OrderedMap.buckets ((referencesTo v services).filter fun p => p.1.ns = ns) :=
    OrderedMap.restrict_buckets _
  rw [referrers_eq, referrers_eq, hbuckets]
  congr 1
  simp only [referencesTo, references_within, List.filter_map, List.filter_filter, Bool.and_comm,
    Function.comp_def]

/-- The Services of a bucket are in the namespace of its configuration. -/
theorem ns_of_mem_referrers {e : ObjectName × List ObjectName}
    (he : e ∈ (referrers v services).entries) {service : ObjectName} (hs : service ∈ e.2) :
    service.ns = e.1.ns := by
  rw [mem_referrers_iff he] at hs
  obtain ⟨s, -, hr⟩ := Option.bind_eq_some_iff.mp hs
  obtain ⟨t, -, hr⟩ := Option.map_eq_some_iff.mp hr
  exact congrArg (·.config.ns) hr

theorem find?_configs_within {key : ObjectName} (hk : key.ns = ns) :
    (v.configs (inventory.within ns)).find? key = (v.configs inventory).find? key := by
  cases v <;> exact OrderedMap.find?_within _ hk

theorem record?_within {key : ObjectName} (hk : key.ns = ns) :
    record? (inventory.within ns) v key = record? inventory v key := by
  rw [record?, find?_configs_within hk, record?]

theorem isIn_bucketNotes {e : ObjectName × List ObjectName} (he : ∀ s ∈ e.2, s.ns = e.1.ns)
    {n : Notification} (hn : n ∈ bucketNotes inventory v e) : n.isIn ns = decide (e.1.ns = ns) := by
  unfold bucketNotes at hn
  split at hn
  · obtain ⟨s, hs, rfl⟩ := List.mem_map.mp hn
    rw [← he s hs]
    rfl
  · unfold BackendOptions.unsupported unknownType at hn
    rcases List.mem_append.mp hn with hn | hn <;> obtain ⟨type, -, rfl⟩ := List.mem_map.mp hn <;>
      rfl

theorem filter_bucketNotes {e : ObjectName × List ObjectName} (he : ∀ s ∈ e.2, s.ns = e.1.ns) :
    (bucketNotes inventory v e).filter (·.isIn ns) =
      if e.1.ns = ns then bucketNotes (inventory.within ns) v e else [] := by
  rw [filter_eq_of_forall fun n hn => isIn_bucketNotes he hn]
  by_cases hk : e.1.ns = ns
  · rw [if_pos (decide_eq_true hk), if_pos hk, bucketNotes, bucketNotes, find?_configs_within hk]
  · rw [if_neg (by simpa using hk), if_neg hk]

theorem within_extendServices (s : ServiceSettings) {config : ObjectName} (keys : List ObjectName)
    (hkeys : ∀ k ∈ keys, k.ns = config.ns) (t : Topology) :
    (keys.foldl (fun t service => t.extendService service (some s)) t).within ns =
      if config.ns = ns then
        keys.foldl (fun t service => t.extendService service (some s)) (t.within ns)
      else t.within ns := by
  induction keys generalizing t with
  | nil => simp
  | cons k keys ih =>
    have hstep : (t.extendService k (some s)).within ns =
        if config.ns = ns then (t.within ns).extendService k (some s) else t.within ns := by
      rw [← hkeys k (List.mem_cons_self ..)]
      unfold Topology.extendService Topology.within
      by_cases hk : k.ns = ns <;> simp [hk, OrderedMap.within_upsert]
    rw [List.foldl_cons, ih (fun k' hk' => hkeys k' (List.mem_cons_of_mem _ hk')), hstep]
    by_cases hc : config.ns = ns <;> simp [hc]

/-- **A bucket is seen in its own namespace** and nowhere else. -/
theorem within_configure (state : Noted) {e : ObjectName × List ObjectName}
    (he : ∀ s ∈ e.2, s.ns = e.1.ns) :
    (configure v inventory state e).within ns =
      if e.1.ns = ns then configure v (inventory.within ns) (state.within ns) e
      else state.within ns := by
  simp only [configure_eq, Noted.within, List.filter_append, filter_bucketNotes he]
  by_cases hk : e.1.ns = ns
  · -- the same configuration is found on both sides
    simp only [if_pos hk, record?_within hk]
    cases record? inventory v e.1 with
    | none => rfl
    | some s => rw [within_extendServices s e.2 he, if_pos hk]
  · simp only [if_neg hk, List.append_nil]
    cases record? inventory v e.1 with
    | none => rfl
    | some s => rw [within_extendServices s e.2 he, if_neg hk]

theorem within_foldl_configure (l : List (ObjectName × List ObjectName))
    (hl : ∀ e ∈ l, ∀ s ∈ e.2, s.ns = e.1.ns) (state : Noted) :
    (l.foldl (configure v inventory) state).within ns =
      (l.filter fun e => e.1.ns = ns).foldl (configure v (inventory.within ns))
        (state.within ns) :=
  foldl_filter_of_step (f := fun state : Noted => state.within ns)
    (fun e he state => within_configure state (hl e he)) state

theorem within_foldl_referrers (state : Noted) :
    ((referrers v inventory.services).entries.foldl (configure v inventory) state).within ns =
      (referrers v (inventory.within ns).services).entries.foldl
        (configure v (inventory.within ns)) (state.within ns) := by
  rw [within_foldl_configure _ fun e he s hs => ns_of_mem_referrers he hs]
  rw [show (inventory.within ns).services = inventory.services.within ns from rfl,
    referrers_within]
  rfl

theorem isIn_of_mem_resolve {s : Service} {n : Notification} (hn : n ∈ (resolve s).2) :
    n.isIn ns = decide (s.objectName.ns = ns) := by
  rw [resolve_eq] at hn
  obtain ⟨v, -, hr⟩ := List.mem_filterMap.mp hn
  obtain ⟨text, -, hr⟩ := Option.bind_eq_some_iff.mp hr
  split at hr
  · cases hr
  · cases hr
    rfl

/-- The settings of the Services of a namespace are made as if there were no others. -/
theorem within_configureServices (hinventory : inventory.Named) (t : Topology) :
    (configureServices inventory t).within ns =
      configureServices (inventory.within ns) (t.within ns) := by
  have hunusable : (inventory.services.values.flatMap fun s => (resolve s).2).filter (·.isIn ns) =
      (inventory.within ns).services.values.flatMap fun s => (resolve s).2 := by
    rw [show (inventory.within ns).services = inventory.services.within ns from rfl,
      values_within hinventory.services]
    exact filter_flatMap_of_forall fun s _ n hn => isIn_of_mem_resolve hn
  unfold configureServices
  rw [within_foldl_referrers, within_foldl_referrers, ← hunusable]
  rfl

end Services

/-! ### Gateways -/

theorem within_requireSslPolicy (state : Noted) {gateway : ObjectName} {config : ObjectRef}
    (hconfig : config.name.ns = gateway.ns) (policy : String) :
    (requireSslPolicy state gateway config policy).within ns =
      if gateway.ns = ns then requireSslPolicy (state.within ns) gateway config policy
      else state.within ns := by
  obtain ⟨t, notes⟩ := state
  have hfind : gateway.ns = ns →
      (t.gateways.within ns).find? gateway = t.gateways.find? gateway := OrderedMap.find?_within _
  simp only [requireSslPolicy, Noted.within, Topology.within]
  cases hg : t.gateways.find? gateway with
  | none => by_cases hns : gateway.ns = ns <;> simp [hfind, hg, hns]
  | some g =>
    cases hp : g.gce?.bind (·.sslPolicy) with
    | none =>
      by_cases hns : gateway.ns = ns <;>
        simp [hfind, hg, hp, hns, OrderedMap.insert, OrderedMap.within_upsert]
    | some existing =>
      -- the warning is about the configuration, which is in the namespace of the Gateway
      by_cases he : existing = policy <;> by_cases hns : gateway.ns = ns <;>
        simp [hfind, hg, hp, hns, he, Notification.isIn, hconfig]

theorem isIn_frontendNotes {e : ObjectName × Ingress} {n : Notification}
    (hn : n ∈ frontendNotes inventory e) : n.isIn ns = decide (e.1.ns = ns) := by
  unfold frontendNotes at hn
  split at hn
  · cases hn
  · split at hn
    · rw [List.mem_singleton.mp hn]
      rfl
    · split at hn
      · rw [List.mem_singleton.mp hn]
        rfl
      · cases hn

theorem frontendNotes_within {e : ObjectName × Ingress} (he : e.1.ns = ns) :
    frontendNotes (inventory.within ns) e = frontendNotes inventory e := by
  have hfind : ∀ name, (inventory.within ns).frontendConfigs.find? ⟨e.1.ns, name⟩ =
      inventory.frontendConfigs.find? ⟨e.1.ns, name⟩ := fun name => OrderedMap.find?_within _ he
  simp only [frontendNotes, hfind]

theorem askedPolicy?_within {e : ObjectName × Ingress} (he : e.1.ns = ns) :
    askedPolicy? (inventory.within ns) e = askedPolicy? inventory e := by
  have hfind : ∀ name, (inventory.within ns).frontendConfigs.find? ⟨e.1.ns, name⟩ =
      inventory.frontendConfigs.find? ⟨e.1.ns, name⟩ := fun name => OrderedMap.find?_within _ he
  simp only [askedPolicy?, hfind]

theorem ns_of_askedPolicy? {e : ObjectName × Ingress} {config : ObjectRef} {policy : String}
    (h : askedPolicy? inventory e = some (config, policy)) : config.name.ns = e.1.ns := by
  simp only [askedPolicy?, Option.bind_eq_some_iff, Option.map_eq_some_iff] at h
  obtain ⟨name, -, frontend, -, asked, -, h⟩ := h
  cases h
  rfl

/-- **The reference of an Ingress is seen in its own namespace** and nowhere else. -/
theorem within_configureGateway (state : Noted) {e : ObjectName × Ingress}
    (he : e.2.objectName = e.1) :
    (configureGateway inventory state e).within ns =
      if e.1.ns = ns then configureGateway (inventory.within ns) (state.within ns) e
      else state.within ns := by
  have hgateway : (gatewayOf e.2).ns = e.1.ns := by rw [gatewayOf, he]
  have hnotes : (frontendNotes inventory e).filter (·.isIn ns) =
      if e.1.ns = ns then frontendNotes inventory e else [] := by
    rw [filter_eq_of_forall fun n hn => isIn_frontendNotes hn]
    simp
  have hstate : Noted.within (state.1, state.2 ++ frontendNotes inventory e) ns =
      ((state.within ns).1, (state.within ns).2 ++
        if e.1.ns = ns then frontendNotes inventory e else []) := by
    simp only [Noted.within, List.filter_append, hnotes]
  rw [configureGateway_eq, configureGateway_eq]
  cases ha : askedPolicy? inventory e with
  | none => by_cases hk : e.1.ns = ns <;> simp [hstate, hk, ha, askedPolicy?_within,
      frontendNotes_within]
  | some asked =>
    obtain ⟨config, policy⟩ := asked
    have hconfig := (ns_of_askedPolicy? ha).trans hgateway.symm
    by_cases hk : e.1.ns = ns <;>
      simp [within_requireSslPolicy _ hconfig, hgateway, hstate, hk, ha, askedPolicy?_within,
        frontendNotes_within]

/-- The SSL policies of the Gateways of a namespace are set as if there were no others. -/
theorem within_configureGateways (hinventory : inventory.Named) (state : Noted) :
    (configureGateways inventory state).within ns =
      configureGateways (inventory.within ns) (state.within ns) :=
  foldl_filter_of_step (f := fun state : Noted => state.within ns)
    (fun e he state => within_configureGateway state (hinventory.ingresses e he)) state

/-! ### Classes -/

theorem unsupported_within (t : Topology) :
    unsupported (t.within ns) = (unsupported t).filter fun name => name.ns = ns := by
  unfold unsupported Topology.within
  rw [OrderedMap.entries_within, List.filter_map, List.filter_filter, List.filter_filter]
  simp only [Bool.and_comm, Function.comp_def]

/-- The classes of a namespace are set as if there were no others, where routes attach to Gateways
of their own namespace. -/
theorem setClasses_within (ingresses : List Ingress) {t : Topology}
    (ht : ∀ name r, t.httpRoutes.find? name = some r → ∀ p ∈ r.parents,
      (p.target name).ns = name.ns) :
    setClasses (ingresses.filter fun i => i.objectName.ns = ns) (t.within ns) =
      ((setClasses ingresses t).1.within ns, (setClasses ingresses t).2.filter (·.isIn ns)) := by
  have hgone : ∀ name : ObjectName, name.ns = ns →
      (name ∈ unsupported (t.within ns) ↔ name ∈ unsupported t) := by
    intro name hname
    rw [unsupported_within]
    simp [hname]
  have hgateways : (setClasses (ingresses.filter fun i => i.objectName.ns = ns)
      (t.within ns)).1.gateways = (setClasses ingresses t).1.gateways.within ns := by
    refine OrderedMap.ext_find? fun name => ?_
    rw [find?_gateways_setClasses, Topology.within]
    by_cases hn : name.ns = ns
    · simp only [OrderedMap.find?_within _ hn, find?_gateways_setClasses, ← hgone name hn]
      rfl
    · simp [OrderedMap.find?_within_of_ne _ hn]
  have hroutes : (setClasses (ingresses.filter fun i => i.objectName.ns = ns)
      (t.within ns)).1.httpRoutes = (setClasses ingresses t).1.httpRoutes.within ns := by
    refine OrderedMap.ext_find? fun name => Option.ext fun r => ?_
    rw [OrderedMap.find?_eq_some_iff, mem_httpRoutes_setClasses, Topology.within,
      ← OrderedMap.find?_eq_some_iff]
    by_cases hn : name.ns = ns
    · rw [OrderedMap.find?_within _ hn, OrderedMap.find?_within _ hn,
        OrderedMap.find?_eq_some_iff, OrderedMap.find?_eq_some_iff, mem_httpRoutes_setClasses]
      -- the Gateways of the route are in its namespace
      refine and_congr_right fun hr => forall₂_congr fun p hp => not_congr (hgone _ ?_)
      exact (ht name r (OrderedMap.find?_eq_some_iff.mpr hr) p hp).trans hn
    · simp [OrderedMap.find?_within_of_ne _ hn]
  have herrors : (setClasses (ingresses.filter fun i => i.objectName.ns = ns)
      (t.within ns)).2 = (setClasses ingresses t).2.filter (·.isIn ns) := by
    simp only [setClasses]
    rw [filter_filterMap_of_forall fun i _ e he => ?isIn]
    case isIn =>
      split at he
      · cases he
        exact FieldError.isIn_ofObject _ _ [] _
      · cases he
    refine List.filterMap_congr fun i hi => ?_
    have hns : (gatewayOf i).ns = ns := of_decide_eq_true (List.mem_filter.mp hi).2
    simp only [List.contains_iff_mem, hgone _ hns]
  refine Prod.ext ?_ herrors
  exact congrArg₂ (fun gateways routes =>
    { t.within ns with gateways := gateways, httpRoutes := routes }) hgateways hroutes

/-! ### Conversions -/

/-- **What is read of a namespace is converted as if there were nothing else.** -/
theorem convert_within (hinventory : inventory.Named) :
    convert (inventory.within ns) =
      ((convert inventory).1.within ns, (convert inventory).2.1.filter (·.isIn ns),
        (convert inventory).2.2.filter (·.isIn ns)) := by
  have hvalues : (inventory.within ns).ingresses.values =
      inventory.ingresses.values.filter fun i => i.objectName.ns = ns :=
    values_within hinventory.ingresses
  have hclasses : setClasses (inventory.ingresses.values.filter fun i => i.objectName.ns = ns)
      ((GatewayMigration.convert options inventory.ingresses.values).1.within ns) = _ :=
    setClasses_within _ ?routes
  case routes =>
    intro name r hr p hp
    obtain ⟨p', g, hserves⟩ := Conversion.exists_serves_of_find?_eq_some hr
    rw [hserves.parents, List.mem_singleton] at hp
    rw [hp, hserves.ns]
  have hsettings : (configureGateways inventory (configureServices inventory
      (setClasses inventory.ingresses.values
        (GatewayMigration.convert options inventory.ingresses.values).1).1)).within ns = _ :=
    within_configureGateways hinventory _
  rw [within_configureServices hinventory] at hsettings
  unfold convert
  simp only [hvalues, convert_filter, hclasses, ← hsettings, List.filter_append]
  rfl

end Gce

end GatewayMigration
