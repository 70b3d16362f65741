import GatewayMigration.Proofs.Gce.Classes
import GatewayMigration.Proofs.Gce.Policies

/-!
# The SSL policies of Gateways

The Ingresses of one namespace and class share a Gateway, and each of them can ask for an SSL
policy: its annotation names a FrontendConfig that has one. The first Ingress that asks, by
namespace and name, decides. A Gateway that has a policy keeps it, so what an Ingress is warned of
can be told from the Gateways as they are in the end, whenever its turn was.

## Main definitions

* `Concerns`, `Asks`: the Ingresses of a Gateway, and those that ask for an SSL policy
* `Leads`: the Ingress that decides about a Gateway
* `Warned`: what the reference of an Ingress to a FrontendConfig is warned of
* `Assigned`: the Gateways and notifications after all references are followed

## Main results

* `find?_configureGateway`, `find?_foldl_configureGateway`: the Gateways after one reference, and
  after many
* `snd_foldl_configureGateway`: the notifications go by the Gateways in the end
* `findSome?_demand?_eq_some_iff`: the demand that counts is that of the Ingress that leads
* `mem_warnings_iff`, `nodup_warnings`: the warnings for an Ingress
* `assigned_configureGateways`: policies are assigned to Gateways that nothing was added to
* `assigned_of_read`: the SSL policies of what is read from a source
-/

namespace GatewayMigration.Gce

/-! ### Asking for a policy -/

/-- The Ingress is of the namespace and class of a Gateway. -/
def Concerns (gateway : ObjectName) (e : ObjectName × Ingress) : Prop :=
  e.1.ns = gateway.ns ∧ classOf e.2 = gateway.name

/-- The Ingress asks for an SSL policy: its annotation names a configuration that is there in its
namespace and has the policy. -/
structure Asks (inventory : Inventory) (e : ObjectName × Ingress) (config : ObjectName)
    (policy : String) : Prop where
  names : e.2.metadata.annotation? frontendAnnotation = some config.name
  ns : config.ns = e.1.ns
  stored : ∃ frontend, inventory.frontendConfigs.find? config = some frontend ∧
    frontend.spec.sslPolicy = some policy
  nonempty : policy ≠ ""

/-- The Ingress asks for the SSL policy, and of all Ingresses of the Gateway that ask for one it is
the first, by namespace and name. -/
structure Leads (inventory : Inventory) (gateway : ObjectName) (e : ObjectName × Ingress)
    (policy : String) : Prop where
  mem : e ∈ inventory.ingresses.entries
  concerns : Concerns gateway e
  asks : ∃ config, Asks inventory e config policy
  first : ∀ e' ∈ inventory.ingresses.entries, compare e'.1 e.1 = .lt → Concerns gateway e' →
    ∀ config policy', ¬Asks inventory e' config policy'

variable {inventory : Inventory} {e : ObjectName × Ingress}

theorem askedPolicy?_eq_some_iff {config : ObjectRef} {policy : String} :
    askedPolicy? inventory e = some (config, policy) ↔
      config.kind = "FrontendConfig" ∧ Asks inventory e config.name policy := by
  have hnonempty : ∀ (text : Option String) (p : String),
      Ingress.nonempty? text = some p ↔ text = some p ∧ p ≠ "" := by
    intro text p
    simp [Ingress.nonempty?, Option.filter_eq_some_iff]
  simp only [askedPolicy?, Option.bind_eq_some_iff, Option.map_eq_some_iff, hnonempty]
  constructor
  · rintro ⟨name, hname, frontend, hfind, _, ⟨hpolicy, hne⟩, heq⟩
    cases heq
    exact ⟨rfl, hname, rfl, ⟨frontend, hfind, hpolicy⟩, hne⟩
  · obtain ⟨kind, ns, name⟩ := config
    rintro ⟨rfl, hname, rfl, ⟨frontend, hfind, hpolicy⟩, hne⟩
    exact ⟨name, hname, frontend, hfind, policy, ⟨hpolicy, hne⟩, rfl⟩

/-- The Gateway of an Ingress is the one of its namespace and class. -/
theorem gatewayOf_eq_iff (he : e.2.objectName = e.1) {gateway : ObjectName} :
    gatewayOf e.2 = gateway ↔ Concerns gateway e := by
  rw [(classed e.2).lookedUp, he]
  obtain ⟨ns, name⟩ := gateway
  exact ObjectName.mk.injEq .. ▸ Iff.rfl

/-- The SSL policy that an Ingress asks of a Gateway. -/
def demand? (inventory : Inventory) (gateway : ObjectName) (e : ObjectName × Ingress) :
    Option String :=
  if gatewayOf e.2 = gateway then (askedPolicy? inventory e).map (·.2) else none

theorem demand?_eq_some_iff (he : e.2.objectName = e.1) {gateway : ObjectName} {policy : String} :
    demand? inventory gateway e = some policy ↔
      Concerns gateway e ∧ ∃ config, Asks inventory e config policy := by
  unfold demand?
  rw [← gatewayOf_eq_iff he]
  split
  case isTrue hgateway =>
    simp only [hgateway, true_and, Option.map_eq_some_iff, Prod.exists, exists_eq_right,
      askedPolicy?_eq_some_iff]
    constructor
    · rintro ⟨config, -, hasks⟩
      exact ⟨config.name, hasks⟩
    · rintro ⟨config, hasks⟩
      exact ⟨⟨"FrontendConfig", config⟩, rfl, hasks⟩
  case isFalse hgateway => simp [hgateway]

/-- **The demand that counts is that of the Ingress that leads.** -/
theorem findSome?_demand?_eq_some_iff (hinventory : inventory.Named) {gateway : ObjectName}
    {policy : String} :
    inventory.ingresses.entries.findSome? (demand? inventory gateway) = some policy ↔
      ∃ e, Leads inventory gateway e policy := by
  rw [List.findSome?_eq_some_iff]
  constructor
  · rintro ⟨before, e, after, hsplit, hdemand, hbefore⟩
    have hmem : e ∈ inventory.ingresses.entries := by rw [hsplit]; simp
    obtain ⟨hconcerns, hasks⟩ := (demand?_eq_some_iff (hinventory.ingresses e hmem)).mp hdemand
    refine ⟨e, hmem, hconcerns, hasks, fun e' he' hlt hconcerns' config policy' hasks' => ?_⟩
    -- what has a smaller key stands before, where nobody asks
    have hsorted := inventory.ingresses.sorted
    rw [hsplit] at hsorted
    have hnone := hbefore e' (OrderedMap.mem_left_of_compare hsorted (hsplit ▸ he') hlt)
    have hsome : demand? inventory gateway e' = some policy' :=
      (demand?_eq_some_iff (hinventory.ingresses e' he')).mpr ⟨hconcerns', config, hasks'⟩
    rw [hnone] at hsome
    cases hsome
  · rintro ⟨e, hmem, hconcerns, hasks, hfirst⟩
    obtain ⟨before, after, hsplit⟩ := List.append_of_mem hmem
    refine ⟨before, e, after, hsplit,
      (demand?_eq_some_iff (hinventory.ingresses e hmem)).mpr ⟨hconcerns, hasks⟩,
      fun e' he' => ?_⟩
    have hmem' : e' ∈ inventory.ingresses.entries := by
      rw [hsplit]
      exact List.mem_append_left _ he'
    have hlt : compare e'.1 e.1 = .lt := by
      have hsorted := inventory.ingresses.sorted
      rw [hsplit] at hsorted
      exact (List.pairwise_append.mp hsorted).2.2 e' he' e (List.mem_cons_self ..)
    cases hdemand : demand? inventory gateway e' with
    | none => rfl
    | some policy' =>
      obtain ⟨hconcerns', config, hasks'⟩ :=
        (demand?_eq_some_iff (hinventory.ingresses e' hmem')).mp hdemand
      exact absurd hasks' (hfirst e' hmem' hlt hconcerns' config policy')

/-! ### Following references -/

/-- A Gateway that is asked for an SSL policy; one that has a policy keeps it. -/
def withPolicy (g : Gateway) (policy : Option String) : Gateway :=
  match sslPolicy? g, policy with
  | none, some p => g.extend (some ⟨some p⟩)
  | _, _ => g

@[simp] theorem withPolicy_none (g : Gateway) : withPolicy g none = g := by
  unfold withPolicy
  split <;> simp_all

theorem withPolicy_of_some {g : Gateway} {existing : String}
    (hg : sslPolicy? g = some existing) (policy : Option String) : withPolicy g policy = g := by
  unfold withPolicy
  rw [hg]

theorem withPolicy_of_none {g : Gateway} (hg : sslPolicy? g = none) (policy : String) :
    withPolicy g (some policy) = g.extend (some ⟨some policy⟩) := by
  unfold withPolicy
  rw [hg]

@[simp] theorem sslPolicy?_withPolicy (g : Gateway) (policy : Option String) :
    sslPolicy? (withPolicy g policy) = (sslPolicy? g).or policy := by
  cases hg : sslPolicy? g with
  | some existing => rw [withPolicy_of_some hg, hg, Option.some_or]
  | none =>
    cases policy with
    | none => rw [withPolicy_none, hg, Option.or_none]
    | some p =>
      rw [withPolicy_of_none hg]
      rfl

theorem withPolicy_withPolicy (g : Gateway) (policy policy' : Option String) :
    withPolicy (withPolicy g policy) policy' = withPolicy g (policy.or policy') := by
  cases hg : sslPolicy? g with
  | some existing => simp only [withPolicy_of_some hg]
  | none =>
    cases policy with
    | none => rw [withPolicy_none, Option.none_or]
    | some p =>
      -- the first demand is met, so the second one is not
      have hp : sslPolicy? (withPolicy g (some p)) = some p := by simp [hg]
      rw [withPolicy_of_some hp, Option.some_or]

/-- **The Gateways after a policy is required.** -/
theorem find?_requireSslPolicy (state : Noted) (gateway : ObjectName) (config : ObjectRef)
    (policy : String) (name : ObjectName) :
    (requireSslPolicy state gateway config policy).1.gateways.find? name =
      (state.1.gateways.find? name).map
        (withPolicy · (if gateway = name then some policy else none)) := by
  obtain ⟨t, notes⟩ := state
  unfold requireSslPolicy
  dsimp only
  cases hg : t.gateways.find? gateway with
  | none =>
    by_cases hname : gateway = name
    · subst hname
      simp [hg]
    · simp [hname]
  | some g =>
    have hpolicy : g.gce?.bind (·.sslPolicy) = sslPolicy? g := rfl
    dsimp only
    rw [hpolicy]
    cases hp : sslPolicy? g with
    | some existing =>
      by_cases hname : gateway = name
      · subst hname
        simp [hg, withPolicy_of_some hp]
      · simp [hname]
    | none =>
      by_cases hname : gateway = name
      · subst hname
        simp [hg, withPolicy_of_none hp, OrderedMap.find?_insert]
      · simp [hname, OrderedMap.find?_insert, Ne.symm hname]

/-- **The Gateways after a reference is followed.** -/
theorem find?_configureGateway (state : Noted) (e : ObjectName × Ingress) (name : ObjectName) :
    (configureGateway inventory state e).1.gateways.find? name =
      (state.1.gateways.find? name).map (withPolicy · (demand? inventory name e)) := by
  rw [configureGateway_eq]
  unfold demand?
  cases askedPolicy? inventory e with
  | none => simp
  | some asked => simp only [find?_requireSslPolicy, Option.map_some]

/-- The warning for an Ingress that asks for another SSL policy than its Gateway has. -/
def disagreement? (inventory : Inventory) (t : Topology) (e : ObjectName × Ingress) :
    Option Notification :=
  (askedPolicy? inventory e).bind fun asked =>
    ((t.gateways.find? (gatewayOf e.2)).bind sslPolicy?).bind fun existing =>
      if existing = asked.2 then none
      else some ⟨.warning, "Gateway " ++ (gatewayOf e.2).text ++ " already uses sslPolicy "
        ++ existing ++ ", ignoring sslPolicy " ++ asked.2, some asked.1⟩

/-- The warnings for an Ingress, by the Gateways of a topology. -/
def warnings (inventory : Inventory) (t : Topology) (e : ObjectName × Ingress) :
    List Notification :=
  frontendNotes inventory e ++ (disagreement? inventory t e).toList

/-- The notifications after a reference is followed. -/
theorem snd_configureGateway (state : Noted) (e : ObjectName × Ingress) :
    (configureGateway inventory state e).2 =
      state.2 ++ warnings inventory (configureGateway inventory state e).1 e := by
  obtain ⟨t, notes⟩ := state
  unfold warnings disagreement?
  rw [find?_configureGateway, demand?, if_pos rfl, configureGateway_eq]
  cases askedPolicy? inventory e with
  | none => simp
  | some asked =>
    obtain ⟨config, policy⟩ := asked
    unfold requireSslPolicy
    dsimp only
    cases hg : t.gateways.find? (gatewayOf e.2) with
    | none => simp
    | some g =>
      have hpolicy : g.gce?.bind (·.sslPolicy) = sslPolicy? g := rfl
      dsimp only
      rw [hpolicy]
      cases hp : sslPolicy? g with
      | none => simp [hp]
      | some existing => by_cases he : existing = policy <;> simp [hp, he]

/-- **The Gateways after many references**: the first demand counts. -/
theorem find?_foldl_configureGateway (es : List (ObjectName × Ingress)) (state : Noted)
    (name : ObjectName) :
    (es.foldl (configureGateway inventory) state).1.gateways.find? name =
      (state.1.gateways.find? name).map
        (withPolicy · (es.findSome? (demand? inventory name))) := by
  induction es generalizing state with
  | nil => simp
  | cons e es ih =>
    rw [List.foldl_cons, ih, find?_configureGateway, Option.map_map, List.findSome?_cons]
    congr 1
    funext g
    rw [Function.comp_apply, withPolicy_withPolicy]
    cases demand? inventory name e <;> simp

/-- The SSL policy of the Gateway of an Ingress that has had its turn stays, and so do the warnings
for the Ingress. -/
theorem warnings_foldl_configureGateway (es : List (ObjectName × Ingress)) (state : Noted) :
    warnings inventory
        (es.foldl (configureGateway inventory) (configureGateway inventory state e)).1 e =
      warnings inventory (configureGateway inventory state e).1 e := by
  unfold warnings disagreement?
  cases hasked : askedPolicy? inventory e with
  | none => rfl
  | some asked =>
    have hdemand : demand? inventory (gatewayOf e.2) e = some asked.2 := by
      simp [demand?, hasked]
    rw [find?_foldl_configureGateway, find?_configureGateway, hdemand]
    -- after its turn there is a policy, whoever asked for it
    cases state.1.gateways.find? (gatewayOf e.2) with
    | none => rfl
    | some g => cases hg : sslPolicy? g <;> simp [hg]

/-- **The notifications go by the Gateways in the end.** -/
theorem snd_foldl_configureGateway (es : List (ObjectName × Ingress)) (state : Noted) :
    (es.foldl (configureGateway inventory) state).2 =
      state.2 ++ es.flatMap
        (warnings inventory (es.foldl (configureGateway inventory) state).1) := by
  induction es generalizing state with
  | nil => simp
  | cons e es ih =>
    rw [List.foldl_cons, ih, snd_configureGateway, List.flatMap_cons,
      warnings_foldl_configureGateway, List.append_assoc]

/-- Only Gateways are changed. -/
theorem exists_gateways_foldl_configureGateway (inventory : Inventory)
    (es : List (ObjectName × Ingress)) (state : Noted) :
    ∃ gateways, (es.foldl (configureGateway inventory) state).1 =
      { state.1 with gateways := gateways } := by
  induction es generalizing state with
  | nil => exact ⟨_, rfl⟩
  | cons e es ih =>
    obtain ⟨gateways, hgateways⟩ := exists_gateways_configureGateway inventory state e
    obtain ⟨gateways', hgateways'⟩ := ih (configureGateway inventory state e)
    exact ⟨gateways', by rw [List.foldl_cons, hgateways', hgateways]⟩

/-! ### The Gateways before -/

/-- A conversion adds nothing of a provider to a Gateway. -/
theorem extension_of_find?_gateways {options : ConversionOptions} {ingresses : List Ingress}
    {name : ObjectName} {g : Gateway}
    (h : (GatewayMigration.convert options ingresses).1.gateways.find? name = some g) :
    g.extension = none := by
  have hstep : ∀ (g : Gateway) l, (g.addListener l).extension = g.extension := by
    intro g l
    unfold Gateway.addListener
    split <;> rfl
  exact (Conversion.apply_of_find?_gateways hstep h).2

/-- The topology and the notifications before the references of the Ingresses are followed. -/
def unsecured (inventory : Inventory) : Noted :=
  configureServices inventory
    (setClasses inventory.ingresses.values (routed inventory).1).1

theorem extension_unsecured {name : ObjectName} {g : Gateway}
    (h : (unsecured inventory).1.gateways.find? name = some g) : g.extension = none := by
  have hgateways : ∀ t, (configureServices inventory t).1.gateways = t.gateways :=
    apply_configureServices (fun _ _ _ => rfl) inventory
  rw [unsecured, hgateways, find?_gateways_setClasses] at h
  split at h
  -- a Gateway that is there was not taken away
  case isTrue => cases h
  case isFalse =>
    obtain ⟨g', hg', rfl⟩ := Option.map_eq_some_iff.mp h
    show g'.extension = none
    exact extension_of_find?_gateways hg'

/-! ### Assigning policies -/

/-- The reference of an Ingress to a FrontendConfig is warned of, where the Gateways are those of
the topology. -/
inductive Warned (inventory : Inventory) (t : Topology) (e : ObjectName × Ingress) :
    Notification → Prop
  | missing {name : String}
      (names : e.2.metadata.annotation? frontendAnnotation = some name)
      (missing : inventory.frontendConfigs.find? ⟨e.1.ns, name⟩ = none) :
      Warned inventory t e
        ⟨.warning, "FrontendConfig " ++ (⟨e.1.ns, name⟩ : ObjectName).text ++ " not found",
          some ⟨"Ingress", e.1⟩⟩
  | redirect {name : String} {frontend : FrontendConfig}
      (names : e.2.metadata.annotation? frontendAnnotation = some name)
      (stored : inventory.frontendConfigs.find? ⟨e.1.ns, name⟩ = some frontend)
      (redirects : frontend.spec.redirectToHttps.any (·.enabled) = true) :
      Warned inventory t e
        ⟨.warning, "redirectToHttps is not converted, add a RequestRedirect filter to "
          ++ "the HTTP routes instead", some ⟨"FrontendConfig", ⟨e.1.ns, name⟩⟩⟩
  | disagreement {config gateway : ObjectName} {g : Gateway} {policy existing : String}
      (asks : Asks inventory e config policy)
      (concerns : Concerns gateway e)
      (found : t.gateways.find? gateway = some g)
      (set : sslPolicy? g = some existing)
      (differs : existing ≠ policy) :
      Warned inventory t e
        ⟨.warning, "Gateway " ++ gateway.text ++ " already uses sslPolicy " ++ existing
          ++ ", ignoring sslPolicy " ++ policy, some ⟨"FrontendConfig", config⟩⟩

theorem warned_of_mem_frontendNotes {t : Topology} {n : Notification}
    (h : n ∈ frontendNotes inventory e) : Warned inventory t e n := by
  unfold frontendNotes at h
  split at h
  case h_1 => cases h
  case h_2 name hname =>
    split at h
    case h_1 hmissing =>
      obtain rfl := List.mem_singleton.mp h
      exact .missing hname hmissing
    case h_2 frontend hstored =>
      split at h
      case isTrue hredirects =>
        obtain rfl := List.mem_singleton.mp h
        exact .redirect hname hstored hredirects
      case isFalse => cases h

theorem disagreement?_eq_some_iff {t : Topology} (he : e.2.objectName = e.1) {n : Notification} :
    disagreement? inventory t e = some n ↔
      ∃ config gateway g policy existing, Asks inventory e config policy ∧ Concerns gateway e ∧
        t.gateways.find? gateway = some g ∧ sslPolicy? g = some existing ∧ existing ≠ policy ∧
        n = ⟨.warning, "Gateway " ++ gateway.text ++ " already uses sslPolicy " ++ existing
          ++ ", ignoring sslPolicy " ++ policy, some ⟨"FrontendConfig", config⟩⟩ := by
  unfold disagreement?
  simp only [Option.bind_eq_some_iff, Prod.exists, askedPolicy?_eq_some_iff,
    Option.ite_none_left_eq_some, Option.some.injEq]
  constructor
  · rintro ⟨⟨_, config⟩, policy, ⟨rfl, hasks⟩, existing, ⟨g, hg, hset⟩, hne, rfl⟩
    exact ⟨config, _, g, policy, existing, hasks, (gatewayOf_eq_iff he).mp rfl, hg, hset, hne, rfl⟩
  · rintro ⟨config, gateway, g, policy, existing, hasks, hconcerns, hg, hset, hne, rfl⟩
    obtain rfl := (gatewayOf_eq_iff he).mpr hconcerns
    exact ⟨⟨_, config⟩, policy, ⟨rfl, hasks⟩, existing, ⟨g, hg, hset⟩, hne, rfl⟩

theorem mem_warnings_iff {t : Topology} (he : e.2.objectName = e.1) {n : Notification} :
    n ∈ warnings inventory t e ↔ Warned inventory t e n := by
  rw [warnings, List.mem_append, Option.mem_toList, disagreement?_eq_some_iff he]
  constructor
  · rintro (hn | ⟨config, gateway, g, policy, existing, hasks, hconcerns, hg, hset, hne, rfl⟩)
    · exact warned_of_mem_frontendNotes hn
    · exact .disagreement hasks hconcerns hg hset hne
  · intro hwarned
    cases hwarned with
    | missing hname hmissing => exact .inl (by simp [frontendNotes, hname, hmissing])
    | redirect hname hstored hredirects =>
      exact .inl (by simp [frontendNotes, hname, hstored, hredirects])
    | disagreement hasks hconcerns hg hset hne =>
      exact .inr ⟨_, _, _, _, _, hasks, hconcerns, hg, hset, hne, rfl⟩

/-- No warning is given twice for one Ingress. -/
theorem nodup_warnings (inventory : Inventory) (t : Topology) (e : ObjectName × Ingress) :
    (warnings inventory t e).Nodup := by
  -- a disagreement is told from the other two warnings by the first letter of its text
  have hreference : (frontendNotes inventory e).Nodup ∧ ∀ n ∈ frontendNotes inventory e,
      n.message.toList.head? ≠ some 'G' := by
    unfold frontendNotes
    split
    · simp
    · split
      · simp
      · split <;> simp
  have hdisagreement : (disagreement? inventory t e).toList.Nodup ∧
      ∀ n ∈ (disagreement? inventory t e).toList, n.message.toList.head? = some 'G' := by
    cases hd : disagreement? inventory t e with
    | none => simp
    | some n =>
      simp only [disagreement?, Option.bind_eq_some_iff, Option.ite_none_left_eq_some] at hd
      obtain ⟨asked, -, existing, -, -, hn⟩ := hd
      simp [← Option.some.inj hn]
  refine List.nodup_append.mpr ⟨hreference.1, hdisagreement.1, ?_⟩
  rintro n hn _ hn' rfl
  exact hreference.2 n hn (hdisagreement.2 n hn')

/-- The references of the Ingresses are followed from one topology to another. -/
structure Assigned (inventory : Inventory) (before after : Noted) : Prop where
  /-- Before, no provider has added anything to a Gateway. -/
  bare : ∀ name g, before.1.gateways.find? name = some g → g.extension = none
  /-- Gateways keep their class and their listeners, and routes stay. -/
  routing : before.1.SameRouting after.1
  /-- All but Gateways stays. -/
  rest : { after.1 with gateways := before.1.gateways } = before.1
  /-- To a Gateway is added its SSL policy, and nothing without one. -/
  additions : ∀ name g, after.1.gateways.find? name = some g →
    g.extension = (sslPolicy? g).map fun policy => ⟨some ⟨some policy⟩⟩
  /-- The SSL policy of a Gateway is the one that the Ingress that leads asks for. -/
  policy : ∀ name g, after.1.gateways.find? name = some g → ∀ policy,
    sslPolicy? g = some policy ↔ ∃ e, Leads inventory name e policy
  /-- There is none just when no Ingress of the Gateway asks for one. -/
  absent : ∀ name g, after.1.gateways.find? name = some g →
    (sslPolicy? g = none ↔ ∀ e ∈ inventory.ingresses.entries, Concerns name e →
      ∀ config policy, ¬Asks inventory e config policy)
  /-- Notifications are added for one Ingress after the other, and none is given twice for one. -/
  notes : ∃ notesOf : ObjectName × Ingress → List Notification,
    after.2 = before.2 ++ inventory.ingresses.entries.flatMap notesOf ∧
      ∀ e ∈ inventory.ingresses.entries,
        (notesOf e).Nodup ∧ ∀ n, n ∈ notesOf e ↔ Warned inventory after.1 e n

/-- A Gateway in the end is one from before, after the demand that counts. -/
theorem exists_gateway_of_configureGateways {before : Noted} {name : ObjectName} {g : Gateway}
    (h : (configureGateways inventory before).1.gateways.find? name = some g) :
    ∃ g', before.1.gateways.find? name = some g' ∧
      withPolicy g' (inventory.ingresses.entries.findSome? (demand? inventory name)) = g := by
  rw [configureGateways, find?_foldl_configureGateway] at h
  exact Option.map_eq_some_iff.mp h

/-- **Policies are assigned to Gateways that nothing was added to.** -/
theorem assigned_configureGateways (hinventory : inventory.Named) {before : Noted}
    (hbare : ∀ name g, before.1.gateways.find? name = some g → g.extension = none) :
    Assigned inventory before (configureGateways inventory before) := by
  have hsslPolicy : ∀ name g, (configureGateways inventory before).1.gateways.find? name = some g →
      sslPolicy? g = inventory.ingresses.entries.findSome? (demand? inventory name) := by
    intro name g hg
    obtain ⟨g', hg', rfl⟩ := exists_gateway_of_configureGateways hg
    have hnone : sslPolicy? g' = none := by simp [sslPolicy?, Gateway.gce?, hbare name g' hg']
    rw [sslPolicy?_withPolicy, hnone, Option.none_or]
  constructor
  case bare => exact hbare
  case routing => exact sameRouting_configureGateways inventory before
  case rest =>
    obtain ⟨gateways, hgateways⟩ :=
      exists_gateways_foldl_configureGateway inventory inventory.ingresses.entries before
    rw [configureGateways, hgateways]
  case additions =>
    intro name g hg
    rw [hsslPolicy name g hg]
    obtain ⟨g', hg', rfl⟩ := exists_gateway_of_configureGateways hg
    have hnone : sslPolicy? g' = none := by simp [sslPolicy?, Gateway.gce?, hbare name g' hg']
    cases inventory.ingresses.entries.findSome? (demand? inventory name) with
    | none => rw [withPolicy_none, hbare name g' hg', Option.map_none]
    | some policy =>
      rw [withPolicy_of_none hnone]
      rfl
  case policy =>
    intro name g hg policy
    rw [hsslPolicy name g hg, findSome?_demand?_eq_some_iff hinventory]
  case absent =>
    intro name g hg
    rw [hsslPolicy name g hg, List.findSome?_eq_none_iff]
    refine forall₂_congr fun e he => ?_
    rw [Option.eq_none_iff_forall_ne_some]
    constructor
    · intro hnone hconcerns config policy hasks
      exact hnone policy
        ((demand?_eq_some_iff (hinventory.ingresses e he)).mpr ⟨hconcerns, config, hasks⟩)
    · intro hnobody policy hdemand
      obtain ⟨hconcerns, config, hasks⟩ :=
        (demand?_eq_some_iff (hinventory.ingresses e he)).mp hdemand
      exact hnobody hconcerns config policy hasks
  case notes =>
    refine ⟨warnings inventory (configureGateways inventory before).1,
      snd_foldl_configureGateway _ before, fun e he => ?_⟩
    have hname := hinventory.ingresses e he
    exact ⟨nodup_warnings .., fun n => mem_warnings_iff hname⟩

/-! ### What is read -/

/-- What is read from a source is under the names of the objects. -/
theorem named_of_read {ns : Option String} {source : Source} {requests : List String}
    (h : provider.read ns source = (.ok inventory, requests)) : inventory.Named := by
  obtain ⟨_, _, _, _, _, rfl⟩ := exists_lists_of_read h
  exact ⟨fun _ he => ResourceType.objectName_of_mem_index he,
    fun _ he => ResourceType.objectName_of_mem_index he⟩

/-- **The SSL policies of what is read from a source**: of the Ingresses of a Gateway, the first one
that asks decides, and the conversion is otherwise as it is without FrontendConfigs. -/
theorem assigned_of_read {ns : Option String} {source : Source} {requests : List String}
    (h : provider.read ns source = (.ok inventory, requests)) :
    Assigned inventory (unsecured inventory)
      ((convert inventory).1, (convert inventory).2.2) :=
  assigned_configureGateways (named_of_read h) fun _ _ => extension_unsecured

/-- The document of an Ingress with an ingress class, a default backend and a FrontendConfig. -/
def securedIngress (name ingressClass config : String) : Json :=
  .obj [("apiVersion", .str "networking.k8s.io/v1"), ("kind", .str "Ingress"),
    ("metadata", .obj [
      ("annotations", .obj [("networking.gke.io/v1beta1.FrontendConfig", .str config)]),
      ("name", .str name), ("namespace", .str "default")]),
    ("spec", .obj [
      ("defaultBackend", .obj [("service", .obj [
        ("name", .str name), ("port", .obj [("number", .int 80)])])]),
      ("ingressClassName", .str ingressClass)])]

/-- The document of a FrontendConfig with an SSL policy. -/
def frontendDocument (name policy : String) (redirects : Bool) : Json :=
  .obj [("apiVersion", .str "networking.gke.io/v1beta1"), ("kind", .str "FrontendConfig"),
    ("metadata", .obj [("name", .str name), ("namespace", .str "default")]),
    ("spec", .obj [("redirectToHttps", .obj [("enabled", .bool redirects)]),
      ("sslPolicy", .str policy)])]

/-- Four Ingresses, of which three share a Gateway: they disagree about the policy, and the first
one names a configuration that is not there. -/
def securedIngresses : List Json :=
  [securedIngress "web" "gce" "modern", securedIngress "shop" "gce" "strict",
    securedIngress "api" "gce" "lost", securedIngress "admin" "gce-internal" "modern",
    frontendDocument "strict" "tls-12" false, frontendDocument "modern" "tls-13" true]

theorem assigned_of_read_securedIngresses :
    provider.read none (.manifest (.ok securedIngresses)) =
        (.ok (.ofObjects none securedIngresses), []) ∧
      Assigned (.ofObjects none securedIngresses) (unsecured (.ofObjects none securedIngresses))
        ((convert (.ofObjects none securedIngresses)).1,
          (convert (.ofObjects none securedIngresses)).2.2) ∧
      (convert (.ofObjects none securedIngresses)).1.gateways.entries.map
          (fun e => (e.1.name, sslPolicy? e.2)) =
        [("gce", some "tls-12"), ("gce-internal", some "tls-13")] ∧
      (convert (.ofObjects none securedIngresses)).2.2.map
          (fun n => (n.related.map fun r => (r.kind, r.name.name), n.message)) =
        [(some ("FrontendConfig", "modern"), "redirectToHttps is not converted, add a "
            ++ "RequestRedirect filter to the HTTP routes instead"),
          (some ("Ingress", "api"), "FrontendConfig default/lost not found"),
          (some ("FrontendConfig", "modern"), "redirectToHttps is not converted, add a "
            ++ "RequestRedirect filter to the HTTP routes instead"),
          (some ("FrontendConfig", "modern"),
            "Gateway default/gce already uses sslPolicy tls-12, ignoring sslPolicy tls-13")] := by
  have hreadable : Readable securedIngresses := by constructor <;> decide +kernel
  have hread : provider.read none (.manifest (.ok securedIngresses)) =
      (.ok (.ofObjects none securedIngresses), []) :=
    congrArg (·, []) (ofDocuments_eq hreadable none)
  exact ⟨hread, assigned_of_read hread, by decide +kernel, by decide +kernel⟩

end GatewayMigration.Gce
