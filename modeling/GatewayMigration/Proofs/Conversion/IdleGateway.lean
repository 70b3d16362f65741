import GatewayMigration.Proofs.Conversion.Certificates
import GatewayMigration.Proofs.Gce.Routing

/-!
# Gateways without listeners

The Gateway of a group is made before the group is compared with the others. Groups of two classes
can have one route name, and the later of them is then reported although nothing is in its way on
its own Gateway. A Gateway all of whose groups end like that is left without listeners. A default
backend is compared first and leaves no Gateway behind.

## Main definitions

* `Conversion.Deserted`: every group of a Gateway lost its route name to a group of another class

## Main results

* `KeyedGroup.overtaken_of_clash?_eq_some`: on a Gateway without listeners only route names clash
* `Conversion.listeners_eq_nil_iff_deserted`: a Gateway has no listeners just when it is deserted
* `idle_gateway_iff`: the same for the provider for Google Cloud
-/

namespace GatewayMigration

/-! ### Gateways that nothing is attached to -/

namespace Attachment

variable {as : List Attachment} {name : ObjectName}

theorem listenersAt_eq_nil_iff (hne : ∀ a ∈ as, a.listeners ≠ []) :
    listenersAt as name = [] ↔ ∀ a ∈ as, a.gateway ≠ name := by
  refine ⟨fun h a ha hg => hne a ha ?_, listenersAt_eq_nil⟩
  refine List.eq_nil_iff_forall_not_mem.mpr fun l hl => ?_
  have hmem : l ∈ listenersAt as name := mem_listenersAt.mpr ⟨a, ha, hg, hl⟩
  rw [h] at hmem
  cases hmem

end Attachment

/-- On a Gateway without listeners only route names clash. -/
theorem KeyedGroup.overtaken_of_clash?_eq_some {before : List KeyedGroup} {e : KeyedGroup}
    {message : String}
    (hnil : (Attachment.gatewayAt (before.map attachment) e.gateway).listeners = [])
    (hc : clash? before e = some message) : Overtaken before e := by
  by_contra ho
  have hnone : clash? before e = none := by
    refine clash?_eq_none_iff.mpr ⟨ho, fun l _ l' hl' => ?_⟩
    rw [Gateway.listener?, hnil] at hl'
    cases hl'
  rw [hnone] at hc
  cases hc

namespace Conversion

open Attachment

variable {options : ConversionOptions} {ingresses : List Ingress} {name : ObjectName}

theorem listeners_ne_nil_of_mem_attachments {a : Attachment}
    (ha : a ∈ attachments options ingresses) : a.listeners ≠ [] := by
  rcases List.mem_append.mp ha with ha | ha <;> obtain ⟨x, -, rfl⟩ := List.mem_map.mp ha
  · exact RuleGroup.listeners_ne_nil
  · exact List.cons_ne_nil _ _

/-- A Gateway has no listeners just when no group is kept and no default backend placed on it. -/
theorem listeners_gatewayAt_eq_nil_iff :
    (gatewayAt (attachments options ingresses) name).listeners = [] ↔
      (∀ e ∈ keptGroups options ingresses, e.gateway ≠ name) ∧
        ∀ b ∈ placedDefaults options ingresses, b.gateway ≠ name := by
  rw [gatewayAt, Gateway.addListeners_eq_nil_iff,
    listenersAt_eq_nil_iff fun _ => listeners_ne_nil_of_mem_attachments]
  simp only [attachments, List.forall_mem_append, List.forall_mem_map]
  rfl

/-! ### Deserted Gateways -/

/-- Every group of a Gateway has a route whose name went to a kept group of another class, and no
default backend is placed on the Gateway. -/
structure Deserted (options : ConversionOptions) (ingresses : List Ingress) (name : ObjectName) :
    Prop where
  groups : ∀ e ∈ groups options ingresses, e.gateway = name → e.2.routes ≠ [] ∧
    ∃ e' ∈ keptGroups options ingresses, compare e'.1 e.1 = .lt ∧
      e'.1.className ≠ e.1.className ∧ e'.2.routes ≠ [] ∧ e'.routeName = e.routeName
  defaults : ∀ b ∈ placedDefaults options ingresses, b.gateway ≠ name

/-- A kept group did not lose its route name. -/
theorem not_overtaken_of_mem_keptGroups {e e' : KeyedGroup} (he : e ∈ keptGroups options ingresses)
    (hne : e.2.routes ≠ []) (he' : e' ∈ keptGroups options ingresses)
    (hlt : compare e'.1 e.1 = .lt) (hne' : e'.2.routes ≠ []) : e'.routeName ≠ e.routeName := by
  intro hn
  obtain ⟨pre, post, hsplit, hc, -⟩ := exists_split_of_mem_keptGroups he
  have hpre : e' ∈ pre := mem_left_of_compare hsplit he' hlt
  exact (KeyedGroup.clash?_eq_none_iff.mp hc).1 ⟨hne, e', hpre, hne', hn⟩

/-- **A Gateway has no listeners** just when it is deserted. -/
theorem listeners_eq_nil_iff_deserted {g : Gateway}
    (h : (convert options ingresses).1.gateways.find? name = some g) :
    g.listeners = [] ↔ Deserted options ingresses name := by
  rw [find?_gateways_convert] at h
  split at h
  case isFalse => cases h
  obtain rfl := Option.some.inj h
  rw [listeners_gatewayAt_eq_nil_iff]
  constructor
  · rintro ⟨hkept, hplaced⟩
    refine ⟨fun e he hg => ?_, hplaced⟩
    rcases mem_kept_or_reported he with he | ⟨message, he⟩
    · -- a kept group has listeners
      exact absurd hg (hkept e he)
    obtain ⟨pre, hpre, hc, hlt⟩ := exists_prefix_of_mem_reportedGroups he
    -- nothing was on the Gateway when the group was decided on
    have hat : listenersAt (pre.map KeyedGroup.attachment) e.gateway = [] := by
      refine listenersAt_eq_nil fun a ha hag => ?_
      obtain ⟨e', he', rfl⟩ := List.mem_map.mp ha
      exact hkept e' (hpre.subset he') (hag.trans hg)
    have hnil : (gatewayAt (pre.map KeyedGroup.attachment) e.gateway).listeners = [] := by
      rw [gatewayAt, hat]
      rfl
    obtain ⟨hne, e', he', hne', hn⟩ := KeyedGroup.overtaken_of_clash?_eq_some hnil hc
    refine ⟨hne, e', hpre.subset he', hlt e' he', fun hclass => ?_, hne', hn⟩
    -- of the same class, the group with the name would have listeners on this Gateway
    have hgateway : e'.gateway = e.gateway := by
      show (⟨e'.1.ns, e'.1.className⟩ : ObjectName) = ⟨e.1.ns, e.1.className⟩
      rw [show e'.1.ns = e.1.ns from congrArg ObjectName.ns hn, hclass]
    exact hkept e' (hpre.subset he') (hgateway.trans hg)
  · rintro ⟨hgroups, hplaced⟩
    refine ⟨fun e he hg => ?_, hplaced⟩
    obtain ⟨hne, e', he', hlt, -, hne', hn⟩ := hgroups e (mem_groups_of_mem_keptGroups he) hg
    exact not_overtaken_of_mem_keptGroups he hne he' hlt hne' hn

end Conversion

/-- **Idle Gateways.** A Gateway of a conversion has no listeners just when it is deserted, and so
has a Gateway that is left by the passes for Google Cloud. -/
theorem idle_gateway_iff (options : ConversionOptions) (ingresses : List Ingress)
    (name : ObjectName) :
    (∀ g, (convert options ingresses).1.gateways.find? name = some g →
      (g.listeners = [] ↔ Conversion.Deserted options ingresses name)) ∧
    ∀ (inventory : Gce.Inventory) g, (Gce.convert inventory).1.gateways.find? name = some g →
      (g.listeners = [] ↔
        Conversion.Deserted Gce.options inventory.ingresses.values name) := by
  refine ⟨fun g h => Conversion.listeners_eq_nil_iff_deserted h, fun inventory g h => ?_⟩
  obtain ⟨g', hg', hl⟩ := Gce.exists_gateway_of_convert inventory h
  rw [hl]
  exact Conversion.listeners_eq_nil_iff_deserted hg'

/-- The host `com` of the Ingress `web-foo` and the host `foo.com` of the Ingress `web` share the
route name `web-foo-com`. -/
def sharedRouteName : List Ingress :=
  [.single "web-foo" "gce" (some "com") [], .single "web" "gce-internal" (some "foo.com") []]

theorem idle_gateway_sharedRouteName :
    ∃ g, (convert ⟨none, none⟩ sharedRouteName).1.gateways.find? ⟨"default", "gce-internal"⟩ =
        some g ∧
      g.listeners = [] ∧
      Conversion.Deserted ⟨none, none⟩ sharedRouteName ⟨"default", "gce-internal"⟩ := by
  have h : (convert ⟨none, none⟩ sharedRouteName).1.gateways.find? ⟨"default", "gce-internal"⟩ =
      some (.ofClass "gce-internal") := by decide +kernel
  exact ⟨_, h, rfl, ((idle_gateway_iff _ _ _).1 _ h).mp rfl⟩

/-- The Gateway is left without listeners on its way through the provider, too. -/
theorem not_forall_gateways_listeners_ne_nil :
    (¬ ∀ options ingresses name g, (convert options ingresses).1.gateways.find? name = some g →
      g.listeners ≠ []) ∧
    ¬ ∀ inventory name g, (Gce.convert inventory).1.gateways.find? name = some g →
      g.listeners ≠ [] := by
  constructor
  · intro h
    exact h ⟨none, none⟩ sharedRouteName ⟨"default", "gce-internal"⟩ (.ofClass "gce-internal")
      (by decide +kernel) rfl
  · intro h
    exact h (.ofLists sharedRouteName [] [] [] []) ⟨"default", "gce-internal"⟩
      (.ofClass "gke-l7-rilb") (by decide +kernel) rfl

end GatewayMigration
