import GatewayMigration.Proofs.Conversion.Extensionality
import GatewayMigration.Proofs.Conversion.Namespace
import GatewayMigration.Proofs.Conversion.Precedence

/-!
# The order of Ingresses

The order of the Ingresses says which is the first of a group, in what order the backends and the
certificates of a group stand, and in what order default backends take their names. Groups are
taken in the order of their keys, and the names of default backends are different for Ingresses with
different names. So only the order within each group counts: Ingresses without a common group can
trade places, and the same objects come out.

## Main definitions

* `Ingress.SharesGroup`: two Ingresses have rules of one group
* `Conversion.Reordered`: the same Ingresses, with those of each group in the same order

## Main results

* `Conversion.Reordered.groups_eq`: the groups do not change
* `DefaultRoute.placed_eq_filter`: with different names, one default backend takes none from another
* `Conversion.Reordered.swap`: two Ingresses without a common group can trade places
* `convert_reordered`: the topology does not change, and the errors are the same in some order
-/

namespace GatewayMigration

/-! ### Default backends -/

namespace DefaultRoute

/-- The route of a default backend is named after its Ingress. -/
theorem ingress_eq_of_routeName_eq {b b' : DefaultRoute} (h : b.routeName = b'.routeName) :
    b.ingress = b'.ingress := by
  obtain ⟨⟨ns, name⟩, _, _⟩ := b
  obtain ⟨⟨ns', name'⟩, _, _⟩ := b'
  simpa [routeName] using h

variable {taken : List ObjectName} {bs : List DefaultRoute}

/-- With different names, the name that a default backend takes is none of those that follow. -/
theorem mem_taken_append_iff {b b' : DefaultRoute} (h : ((b :: bs).map routeName).Nodup)
    (hb' : b' ∈ bs) : b'.routeName ∈ taken ++ [b.routeName] ↔ b'.routeName ∈ taken := by
  have hne : b'.routeName ≠ b.routeName := fun he =>
    (List.nodup_cons.mp h).1 (he ▸ List.mem_map_of_mem hb')
  simp [hne]

/-- With different names, just those names are refused that are taken at first. -/
theorem placed_eq_filter (h : (bs.map routeName).Nodup) :
    placed taken bs = bs.filter fun b => b.routeName ∉ taken := by
  -- Induction on the default backends left, whatever names are taken.
  induction bs generalizing taken with
  | nil => rfl
  | cons b bs ih =>
    have hrest : (bs.map routeName).Nodup := (List.nodup_cons.mp h).2
    unfold placed
    split
    case isTrue htaken => rw [ih hrest, List.filter_cons_of_neg (by simpa using htaken)]
    case isFalse hfree =>
      rw [ih hrest, List.filter_cons_of_pos (by simpa using hfree)]
      congr 1
      refine List.filter_congr fun b' hb' => ?_
      simp only [mem_taken_append_iff h hb']

theorem refused_eq_filter_of_nodup (h : (bs.map routeName).Nodup) :
    refused taken bs = bs.filter fun b => b.routeName ∈ taken := by
  induction bs generalizing taken with
  | nil => rfl
  | cons b bs ih =>
    have hrest : (bs.map routeName).Nodup := (List.nodup_cons.mp h).2
    unfold refused
    split
    case isTrue htaken => rw [ih hrest, List.filter_cons_of_pos (by simpa using htaken)]
    case isFalse hfree =>
      rw [ih hrest, List.filter_cons_of_neg (by simpa using hfree)]
      refine List.filter_congr fun b' hb' => ?_
      simp only [mem_taken_append_iff h hb']

end DefaultRoute

/-! ### Reordered Ingresses -/

/-- Two Ingresses have rules of one group. -/
def Ingress.SharesGroup (options : ConversionOptions) (i j : Ingress) : Prop :=
  ∃ rule ∈ i.rules, ∃ rule' ∈ j.rules, i.keyOf options rule = j.keyOf options rule'

instance (options : ConversionOptions) (i j : Ingress) : Decidable (i.SharesGroup options j) :=
  inferInstanceAs (Decidable (∃ rule ∈ i.rules, ∃ rule' ∈ j.rules,
    i.keyOf options rule = j.keyOf options rule'))

namespace Conversion

/-- The same Ingresses, with different names, and with those of each group in the same order. -/
structure Reordered (options : ConversionOptions) (ingresses ingresses' : List Ingress) :
    Prop where
  /-- The lists differ in the order of the Ingresses. -/
  perm : ingresses.Perm ingresses'
  /-- No two Ingresses share namespace and name. -/
  names : (ingresses.map Ingress.objectName).Nodup
  /-- Two Ingresses with rules of one group stand in the same order. -/
  order : ∀ i j, Ingress.SharesGroup options i j → [i, j].Sublist ingresses →
    [i, j].Sublist ingresses'

variable {options : ConversionOptions} {ingresses ingresses' : List Ingress}

/-- The rules of an Ingress with a key. -/
def sitesAt (options : ConversionOptions) (key : GroupKey) (i : Ingress) : List RuleSite :=
  (i.sites options).filter fun s => s.key = key

theorem exists_rule_of_sitesAt {key : GroupKey} {i : Ingress}
    (h : (!(sitesAt options key i).isEmpty) = true) :
    ∃ rule ∈ i.rules, i.keyOf options rule = key := by
  have hne : sitesAt options key i ≠ [] := by simpa using h
  obtain ⟨s, hs⟩ := List.exists_mem_of_ne_nil _ hne
  obtain ⟨hs, hkey⟩ := List.mem_filter.mp hs
  obtain ⟨n, hn, rfl⟩ := List.mem_mapIdx.mp hs
  exact ⟨i.rules[n], List.getElem_mem hn, of_decide_eq_true hkey⟩

/-- The names of the default backends are different if those of the Ingresses are. -/
theorem nodup_routeNames_defaultRoutes (h : (ingresses.map Ingress.objectName).Nodup) :
    ((defaultRoutes options ingresses).map DefaultRoute.routeName).Nodup := by
  have hpairs : ingresses.Pairwise fun i j => i.objectName ≠ j.objectName := List.pairwise_map.mp h
  apply List.pairwise_map.mpr
  apply List.pairwise_filterMap.mpr
  refine hpairs.imp fun {i j} hne b hb b' hb' hname => hne ?_
  rw [← Ingress.ingress_of_defaultRoute? options hb, ← Ingress.ingress_of_defaultRoute? options hb']
  exact DefaultRoute.ingress_eq_of_routeName_eq hname

namespace Reordered

/-- **Two Ingresses without a common group** can trade places. -/
theorem swap {i j : Ingress} (before after : List Ingress)
    (hnames : ((before ++ i :: j :: after).map Ingress.objectName).Nodup)
    (hapart : ¬ i.SharesGroup options j) :
    Reordered options (before ++ i :: j :: after) (before ++ j :: i :: after) := by
  refine ⟨(List.Perm.swap j i after).append_left before, hnames, ?_⟩
  intro a b hshares
  apply pair_sublist_swap
  rintro ⟨rfl, rfl⟩
  exact hapart hshares

variable (h : Reordered options ingresses ingresses')

include h

/-- The rules with a key stand in the same order. -/
theorem filter_sites_eq (key : GroupKey) :
    (ingresses.flatMap (Ingress.sites options)).filter (fun s => s.key = key) =
      (ingresses'.flatMap (Ingress.sites options)).filter fun s => s.key = key := by
  rw [List.filter_flatMap, List.filter_flatMap]
  show ingresses.flatMap (sitesAt options key) = ingresses'.flatMap (sitesAt options key)
  -- only the Ingresses with such a rule count, and these share the group of the key
  have hcount : ∀ l : List Ingress, l.flatMap (sitesAt options key) =
      (l.filter fun i => !(sitesAt options key i).isEmpty).flatMap (sitesAt options key) :=
    fun l => (flatMap_filter_of_forall fun i _ hi => by simpa using hi).symm
  rw [hcount, hcount ingresses']
  congr 1
  apply filter_eq_of_perm_of_order h.perm (List.Nodup.of_map _ h.names)
  intro i j hi hj
  apply h.order
  obtain ⟨rule, hrule, hkey⟩ := exists_rule_of_sitesAt hi
  obtain ⟨rule', hrule', hkey'⟩ := exists_rule_of_sitesAt hj
  exact ⟨rule, hrule, rule', hrule', hkey.trans hkey'.symm⟩

/-- **The groups do not change.** -/
theorem groups_eq : groups options ingresses = groups options ingresses' := by
  unfold groups
  congr 1
  apply OrderedMap.ext_find?
  intro key
  rw [RuleGroup.find?_gather, RuleGroup.find?_gather, h.filter_sites_eq]

theorem keptGroups_eq : keptGroups options ingresses = keptGroups options ingresses' := by
  rw [keptGroups, h.groups_eq, ← keptGroups]

theorem takenNames_eq : takenNames options ingresses = takenNames options ingresses' := by
  rw [takenNames, h.keptGroups_eq, ← takenNames]

theorem perm_defaultRoutes :
    (defaultRoutes options ingresses).Perm (defaultRoutes options ingresses') :=
  h.perm.filterMap _

/-- The names of the default backends are different on both sides. -/
theorem nodup_routeNames :
    ((defaultRoutes options ingresses).map DefaultRoute.routeName).Nodup ∧
      ((defaultRoutes options ingresses').map DefaultRoute.routeName).Nodup := by
  have hnames : ((defaultRoutes options ingresses).map DefaultRoute.routeName).Nodup :=
    nodup_routeNames_defaultRoutes h.names
  exact ⟨hnames, (h.perm_defaultRoutes.map DefaultRoute.routeName).nodup_iff.mp hnames⟩

/-- The default backends that are placed are the same in some order. -/
theorem perm_placedDefaults :
    (placedDefaults options ingresses).Perm (placedDefaults options ingresses') := by
  obtain ⟨hnames, hnames'⟩ := h.nodup_routeNames
  rw [placedDefaults, placedDefaults, DefaultRoute.placed_eq_filter hnames,
    DefaultRoute.placed_eq_filter hnames', h.takenNames_eq]
  exact h.perm_defaultRoutes.filter _

theorem perm_refusedDefaults :
    (refusedDefaults options ingresses).Perm (refusedDefaults options ingresses') := by
  obtain ⟨hnames, hnames'⟩ := h.nodup_routeNames
  rw [refusedDefaults, refusedDefaults, DefaultRoute.refused_eq_filter_of_nodup hnames,
    DefaultRoute.refused_eq_filter_of_nodup hnames', h.takenNames_eq]
  exact h.perm_defaultRoutes.filter _

/-- The listeners of a Gateway stand in the same order, since those of default backends are all
alike. -/
theorem listenersAt_eq (name : ObjectName) :
    Attachment.listenersAt (attachments options ingresses) name =
      Attachment.listenersAt (attachments options ingresses') name := by
  rw [listenersAt_attachments, listenersAt_attachments, h.keptGroups_eq]
  congr 1
  rw [List.map_const', List.map_const', (h.perm_placedDefaults.filter _).length_eq]

theorem mem_gatewayNames_iff (name : ObjectName) :
    name ∈ gatewayNames options ingresses ↔ name ∈ gatewayNames options ingresses' := by
  rw [gatewayNames, gatewayNames, h.groups_eq]
  exact ((h.perm_placedDefaults.map _).append_left _).mem_iff

theorem perm_routes :
    (Attachment.routes (attachments options ingresses)).Perm
      (Attachment.routes (attachments options ingresses')) := by
  apply List.Perm.filterMap
  rw [attachments, attachments, h.keptGroups_eq]
  exact (h.perm_placedDefaults.map _).append_left _

theorem perm_errors : (convert options ingresses).2.Perm (convert options ingresses').2 := by
  rw [errors_convert, errors_convert, reportedGroups, h.groups_eq, ← reportedGroups]
  have hfields := h.perm.flatMap_right (Ingress.fieldErrors options)
  have hrefused := h.perm_refusedDefaults.map DefaultRoute.report
  exact hfields.append (hrefused.append_left _)

end Reordered

end Conversion

/-- **Ingresses without a common group commute**, whatever the default class and the match for paths
left to the provider: the same objects come out, and the same errors in some order. -/
theorem convert_reordered (options : ConversionOptions) (ingresses ingresses' : List Ingress)
    (h : Conversion.Reordered options ingresses ingresses') :
    (convert options ingresses).1 = (convert options ingresses').1 ∧
      (convert options ingresses).2.Perm (convert options ingresses').2 :=
  ⟨Conversion.topology_ext h.mem_gatewayNames_iff h.listenersAt_eq h.perm_routes, h.perm_errors⟩

/-- Two hosts with one listener name: whichever stands first, `a-com` keeps the name. -/
theorem convert_reordered_sameListenerName :
    let web := Ingress.single "web" "gce" (some "a.com") []
    let api := Ingress.single "api" "gce" (some "a-com") []
    Conversion.Reordered ⟨none, none⟩ [web, api] [api, web] ∧
      (convert ⟨none, none⟩ [web, api]).1 = (convert ⟨none, none⟩ [api, web]).1 ∧
      (convert ⟨none, none⟩ [web, api]).2.Perm (convert ⟨none, none⟩ [api, web]).2 := by
  intro web api
  have h : Conversion.Reordered ⟨none, none⟩ [web, api] [api, web] :=
    .swap [] [] (by decide) (by decide)
  exact ⟨h, convert_reordered _ _ _ h⟩

end GatewayMigration
