import GatewayMigration.Proofs.Conversion.Accounting
import GatewayMigration.Proofs.Conversion.Certificates
import Mathlib.Data.List.Induction

/-!
# Which group keeps a name

Groups are taken in the order of their keys, and the first to use a name keeps it. So a group is
reported just when a kept group with a smaller key has its route name, or has added a listener of
one of its listener names for another host. The rule looks at smaller keys only, so it leaves one
choice of kept groups. A reported group leaves one error and nothing else, and no route is ever
replaced.

## Main definitions

* `KeyedGroup.Adds`: a kept group adds a listener to its Gateway
* `KeyedGroup.Conflicting`: why a group cannot stand beside the groups that are kept
* `Conversion.FirstRule`: the first rule with a key
* `Precedence`: the rule, and what follows for routes, listeners and errors

## Main results

* `Conversion.isReported_iff_conflicting`: the rule for groups
* `Conversion.mem_iff_of_rule`: the rule leaves one choice of kept groups
* `DefaultRoute.refused_eq_filter`: the rule for default backends
* `Draft.find?_foldl_place`, `Draft.find?_foldl_placeDefault`: routes last
* `precedence_convert`: the rule holds of every conversion
-/

namespace GatewayMigration

/-! ### Routes last -/

namespace Draft

variable {d : Draft} {name : ObjectName} {r : HttpRoute}

theorem find?_route (h : d.topology.httpRoutes.find? name = some r) {name' : ObjectName}
    (hfree : d.topology.httpRoutes.contains name' = false) (r' : HttpRoute) :
    (d.route name' r').topology.httpRoutes.find? name = some r := by
  have hne : name ≠ name' := by
    rintro rfl
    rw [OrderedMap.contains_eq_false_iff.mp hfree] at h
    cases h
  show (d.topology.httpRoutes.insert name' r').find? name = some r
  rw [OrderedMap.find?_insert, if_neg hne, h]

/-- Placing a group replaces no route. -/
theorem find?_place (h : d.topology.httpRoutes.find? name = some r) (e : KeyedGroup) :
    (d.place e).topology.httpRoutes.find? name = some r := by
  obtain ⟨key, g⟩ := e
  simp only [place]
  cases hc : d.conflict? key g with
  | some message => exact h
  | none =>
    dsimp only
    split
    case isTrue => exact h
    case isFalse hg =>
      -- without a conflict the route name is free
      have hfree : d.topology.httpRoutes.contains (g.routeName key) = false := by
        by_contra htaken
        unfold conflict? at hc
        rw [if_pos (by simpa [hg] using htaken)] at hc
        cases hc
      exact find?_route (d := d.listen _ _ _) h hfree _

/-- Placing a default backend replaces no route. -/
theorem find?_placeDefault (h : d.topology.httpRoutes.find? name = some r) (b : DefaultRoute) :
    (d.placeDefault b).topology.httpRoutes.find? name = some r := by
  simp only [placeDefault]
  split
  case isTrue => exact h
  case isFalse hfree => exact find?_route (d := d.listen _ _ _) h (Bool.eq_false_iff.mpr hfree) _

/-- **A route lasts** through a run over groups. -/
theorem find?_foldl_place (h : d.topology.httpRoutes.find? name = some r) (es : List KeyedGroup) :
    (es.foldl place d).topology.httpRoutes.find? name = some r := by
  induction es generalizing d with
  | nil => exact h
  | cons e es ih => exact ih (find?_place h e)

/-- **A route lasts** through a run over default backends. -/
theorem find?_foldl_placeDefault (h : d.topology.httpRoutes.find? name = some r)
    (bs : List DefaultRoute) :
    (bs.foldl placeDefault d).topology.httpRoutes.find? name = some r := by
  induction bs generalizing d with
  | nil => exact h
  | cons b bs ih => exact ih (find?_placeDefault h b)

end Draft

/-! ### The rule for groups -/

namespace KeyedGroup

/-- A kept group adds a listener to its Gateway: no group kept before it has a listener of the name
on that Gateway. -/
structure Adds (kept : List KeyedGroup) (e : KeyedGroup) (l : Listener) : Prop where
  mem : l ∈ e.listeners
  first : ∀ e' ∈ kept, compare e'.1 e.1 = .lt → e'.gateway = e.gateway →
    ∀ l' ∈ e'.listeners, l'.name ≠ l.name

/-- Why a group cannot stand beside the groups that are kept: one with a smaller key has its route
name, or has added a listener of one of its listener names for another host. Route names are
compared in a namespace, listener names on a Gateway. -/
inductive Conflicting (kept : List KeyedGroup) (e : KeyedGroup) : Prop
  | route (hne : e.2.routes ≠ []) (e' : KeyedGroup) (hkept : e' ∈ kept)
      (hlt : compare e'.1 e.1 = .lt) (hns : e'.1.ns = e.1.ns) (hne' : e'.2.routes ≠ [])
      (hname : HostName.routeName e'.2.ingress e'.1.host = HostName.routeName e.2.ingress e.1.host)
  | listener (e' : KeyedGroup) (hkept : e' ∈ kept) (hlt : compare e'.1 e.1 = .lt)
      (hns : e'.1.ns = e.1.ns) (hclass : e'.1.className = e.1.className)
      (l' : Listener) (hadds : Adds kept e' l') (l : Listener) (hl : l ∈ e.listeners)
      (hname : l'.name = l.name) (hhost : l'.hostname ≠ l.hostname)

variable {kept kept' pre : List KeyedGroup} {e e' : KeyedGroup}

theorem gateway_eq_iff :
    e'.gateway = e.gateway ↔ e'.1.ns = e.1.ns ∧ e'.1.className = e.1.className := by
  simp [gateway, GroupKey.gateway]

theorem routeName_eq_iff : e'.routeName = e.routeName ↔ e'.1.ns = e.1.ns ∧
    HostName.routeName e'.2.ingress e'.1.host = HostName.routeName e.2.ingress e.1.host := by
  simp [routeName, RuleGroup.routeName]

/-- The listener that a Gateway has under a name comes from the first group that has one. -/
theorem exists_first_of_find? {name : ObjectName} {n : String} {l : Listener}
    (h : (Attachment.listenersAt (pre.map attachment) name).find? (·.name == n) = some l) :
    ∃ xs e ys, pre = xs ++ e :: ys ∧ e.gateway = name ∧ l ∈ e.listeners ∧ l.name = n ∧
      ∀ e' ∈ xs, e'.gateway = name → ∀ l' ∈ e'.listeners, l'.name ≠ n := by
  induction pre with
  | nil => cases h
  | cons e pre ih =>
    rw [List.map_cons, ← List.singleton_append, Attachment.listenersAt_append, List.find?_append,
      Attachment.listenersAt_singleton] at h
    cases hown : (if e.gateway = name then e.listeners else []).find? (·.name == n) with
    | some l' =>
      -- the first group has a listener of the name
      obtain rfl : l' = l := by simpa [attachment, hown] using h
      have hg : e.gateway = name := by
        by_contra hg
        rw [if_neg hg] at hown
        cases hown
      rw [if_pos hg] at hown
      exact ⟨[], e, pre, rfl, hg, List.mem_of_find?_eq_some hown,
        by simpa using List.find?_some hown, by simp⟩
    | none =>
      have hrest : (Attachment.listenersAt (pre.map attachment) name).find? (·.name == n) =
          some l := by simpa [attachment, hown] using h
      obtain ⟨xs, e₀, ys, rfl, hg, hl, hn, hfirst⟩ := ih hrest
      refine ⟨e :: xs, e₀, ys, rfl, hg, hl, hn, fun e' he' hg' l' hl' => ?_⟩
      rcases List.mem_cons.mp he' with rfl | he'
      · rw [if_pos hg'] at hown
        simpa using List.find?_eq_none.mp hown l' hl'
      · exact hfirst e' he' hg' l' hl'

/-- The rule only looks at kept groups with smaller keys. -/
theorem Adds.congr (h : ∀ e', compare e'.1 e.1 = .lt → (e' ∈ kept ↔ e' ∈ kept')) {l : Listener}
    (ha : Adds kept e l) : Adds kept' e l :=
  ⟨ha.mem, fun e' he' hlt => ha.first e' ((h e' hlt).mpr he') hlt⟩

/-- The rule only looks at kept groups with smaller keys. -/
theorem Conflicting.congr (h : ∀ e', compare e'.1 e.1 = .lt → (e' ∈ kept ↔ e' ∈ kept'))
    (hc : Conflicting kept e) : Conflicting kept' e := by
  cases hc with
  | route hne e' hkept hlt hns hne' hname =>
    exact .route hne e' ((h e' hlt).mp hkept) hlt hns hne' hname
  | listener e' hkept hlt hns hclass l' hadds l hl hname hhost =>
    have hadds' : Adds kept' e' l' :=
      hadds.congr fun e'' hlt' => h e'' (Std.TransCmp.lt_trans hlt' hlt)
    exact .listener e' ((h e' hlt).mp hkept) hlt hns hclass l' hadds' l hl hname hhost

/-- The listener that a Gateway has under a name was added by the group it comes from. -/
theorem adds_of_first {xs ys : List KeyedGroup} {l : Listener}
    (hs : (xs ++ e :: ys).Pairwise fun a b => compare a.1 b.1 = .lt) (hl : l ∈ e.listeners)
    (hfirst : ∀ e' ∈ xs, e'.gateway = e.gateway → ∀ l' ∈ e'.listeners, l'.name ≠ l.name) :
    Adds (xs ++ e :: ys) e l :=
  ⟨hl, fun e' he' hlt => hfirst e' (OrderedMap.mem_left_of_compare hs he' hlt)⟩

/-- A listener that a kept group added is the one that its Gateway has under the name, up to the
certificates. -/
theorem Adds.exists_listener? {l : Listener} (ha : Adds pre e l) (he : e ∈ pre)
    (hs : pre.Pairwise fun a b => compare a.1 b.1 = .lt) :
    ∃ l', (Attachment.gatewayAt (pre.map attachment) e.gateway).listener? l.name = some l' ∧
      l'.hostname = l.hostname := by
  have hsome : ((Attachment.listenersAt (pre.map attachment) e.gateway).find?
      (·.name == l.name)).isSome :=
    List.find?_isSome.mpr ⟨l, mem_listenersAt_map.mpr ⟨e, he, rfl, ha.mem⟩, by simp⟩
  obtain ⟨l', hl'⟩ := Option.isSome_iff_exists.mp hsome
  refine ⟨l', (Attachment.listener?_gatewayAt _ _ _).trans hl', ?_⟩
  obtain ⟨xs, e₀, ys, rfl, hg, hl₀, hn, hfirst⟩ := exists_first_of_find? hl'
  -- the group that comes first with the name is the one that added the listener
  have he₀ : e₀ = e := by
    rcases List.mem_append.mp he with he | he
    · exact absurd rfl (hfirst e he rfl l ha.mem)
    rcases List.mem_cons.mp he with rfl | he
    · rfl
    · have hlt := List.rel_of_pairwise_cons (List.pairwise_append.mp hs).2.1 he
      exact absurd hn (ha.first e₀ (by simp) hlt hg l' hl₀)
  subst he₀
  rw [RuleGroup.hostname_of_mem_listeners hl₀, RuleGroup.hostname_of_mem_listeners ha.mem]

/-- **A group clashes** with the groups kept before it just when it conflicts with one of them. -/
theorem conflicting_iff_clash? (hs : pre.Pairwise fun a b => compare a.1 b.1 = .lt)
    (hlt : ∀ e' ∈ pre, compare e'.1 e.1 = .lt) : Conflicting pre e ↔ clash? pre e ≠ none := by
  constructor
  · intro hc hnone
    obtain ⟨hover, hlisten⟩ := clash?_eq_none_iff.mp hnone
    cases hc with
    | route hne e' hkept _ hns hne' hname =>
      exact hover ⟨hne, e', hkept, hne', routeName_eq_iff.mpr ⟨hns, hname⟩⟩
    | listener e' hkept _ hns hclass l' hadds l hl hname hhost =>
      obtain ⟨l₀, hl₀, hhost₀⟩ := hadds.exists_listener? hkept hs
      rw [gateway_eq_iff.mpr ⟨hns, hclass⟩, hname] at hl₀
      exact hhost (hhost₀.symm.trans (hlisten l hl l₀ hl₀))
  · intro hclash
    by_contra hc
    refine hclash (clash?_eq_none_iff.mpr ⟨?_, fun l hl l' hl' => ?_⟩)
    · rintro ⟨hne, e', he', hne', hn⟩
      obtain ⟨hns, hname⟩ := routeName_eq_iff.mp hn
      exact hc (.route hne e' he' (hlt e' he') hns hne' hname)
    · by_contra hhost
      rw [Attachment.listener?_gatewayAt] at hl'
      obtain ⟨xs, e', ys, rfl, hg, hl'e, hname, hfirst⟩ := exists_first_of_find? hl'
      obtain ⟨hns, hclass⟩ := gateway_eq_iff.mp hg
      have he' : e' ∈ xs ++ e' :: ys := by simp
      have hadds : Adds (xs ++ e' :: ys) e' l' := by
        refine adds_of_first hs hl'e fun e'' he'' hg'' => ?_
        rw [hname]
        exact hfirst e'' he'' (hg''.trans hg)
      exact hc (.listener e' he' (hlt e' he') hns hclass l' hadds l hl hname hhost)

end KeyedGroup

namespace Conversion

open KeyedGroup (Adds Conflicting)

variable {options : ConversionOptions} {ingresses : List Ingress} {e e' : KeyedGroup}

/-- **The rule for one group**, at its place in the order of keys. -/
theorem conflicting_iff_of_split {xs ys : List KeyedGroup}
    (h : groups options ingresses = xs ++ e :: ys) :
    Conflicting (keptGroups options ingresses) e ↔
      KeyedGroup.clash? (KeyedGroup.kept [] xs) e ≠ none := by
  have hk : keptGroups options ingresses =
      KeyedGroup.kept [] xs ++ KeyedGroup.kept (KeyedGroup.kept [] xs) (e :: ys) := by
    rw [keptGroups, h, KeyedGroup.kept_append, List.nil_append]
  have hsorted := sorted_keptGroups options ingresses
  rw [hk] at hsorted
  have hlt : ∀ e' ∈ KeyedGroup.kept [] xs, compare e'.1 e.1 = .lt :=
    fun e' he' => compare_of_mem_left h ((KeyedGroup.kept_sublist [] xs).subset he')
  -- what was kept before the group is what is kept with a smaller key
  have hmem : ∀ e', compare e'.1 e.1 = .lt →
      (e' ∈ keptGroups options ingresses ↔ e' ∈ KeyedGroup.kept [] xs) := by
    intro e' hlt'
    rw [hk, List.mem_append]
    refine ⟨fun he' => he'.resolve_right fun hright => ?_, .inl⟩
    have hg := sorted_groups options ingresses
    rw [h] at hg
    have hnil : e' ∈ ([] : List KeyedGroup) := OrderedMap.mem_left_of_compare
      (List.pairwise_append.mp hg).2.1 ((KeyedGroup.kept_sublist _ _).subset hright) hlt'
    cases hnil
  rw [← KeyedGroup.conflicting_iff_clash? (List.pairwise_append.mp hsorted).1 hlt]
  exact ⟨.congr hmem, .congr fun e' h' => (hmem e' h').symm⟩

theorem not_conflicting_of_mem_keptGroups (he : e ∈ keptGroups options ingresses) :
    ¬ Conflicting (keptGroups options ingresses) e := by
  obtain ⟨xs, ys, hsplit, hc⟩ := KeyedGroup.exists_split_of_mem_kept he
  rw [conflicting_iff_of_split hsplit]
  exact fun h => h hc

/-- **The rule for groups**: a group is reported just when it conflicts with a kept group. -/
theorem isReported_iff_conflicting (he : e ∈ groups options ingresses) :
    (∃ message, (e, message) ∈ reportedGroups options ingresses) ↔
      Conflicting (keptGroups options ingresses) e := by
  constructor
  · rintro ⟨message, hm⟩
    obtain ⟨xs, ys, hsplit, hc⟩ := KeyedGroup.exists_split_of_mem_reported hm
    refine (conflicting_iff_of_split hsplit).mpr fun hnone => ?_
    rw [List.nil_append, hnone] at hc
    cases hc
  · intro hc
    rcases mem_kept_or_reported he with hkept | hreported
    · exact absurd hc (not_conflicting_of_mem_keptGroups hkept)
    · exact hreported

theorem mem_keptGroups_iff : e ∈ keptGroups options ingresses ↔
    e ∈ groups options ingresses ∧ ¬ Conflicting (keptGroups options ingresses) e := by
  constructor
  · exact fun he => ⟨mem_groups_of_mem_keptGroups he, not_conflicting_of_mem_keptGroups he⟩
  · rintro ⟨he, hc⟩
    rcases mem_kept_or_reported he with hkept | hreported
    · exact hkept
    · exact absurd ((isReported_iff_conflicting he).mp hreported) hc

/-- **The rule leaves one choice** of kept groups. -/
theorem mem_iff_of_rule {kept : List KeyedGroup}
    (hrule : ∀ e, e ∈ kept ↔ e ∈ groups options ingresses ∧ ¬ Conflicting kept e) (e : KeyedGroup) :
    e ∈ kept ↔ e ∈ keptGroups options ingresses := by
  -- Induction on the groups up to some place; the rule decides on the next one by those.
  have hprefix : ∀ xs ys, groups options ingresses = xs ++ ys →
      ∀ e ∈ xs, (e ∈ kept ↔ e ∈ keptGroups options ingresses) := by
    intro xs
    induction xs using List.reverseRecOn with
    | nil => simp
    | append_singleton xs x ih =>
      intro ys hsplit e he
      rw [List.append_assoc, List.singleton_append] at hsplit
      rcases List.mem_append.mp he with he | he
      · exact ih _ hsplit e he
      obtain rfl := List.mem_singleton.mp he
      have hsorted := sorted_groups options ingresses
      rw [hsplit] at hsorted
      have hbefore : ∀ e', compare e'.1 e.1 = .lt →
          (e' ∈ kept ↔ e' ∈ keptGroups options ingresses) := by
        intro e' hlt
        have hleft : e' ∈ groups options ingresses → e' ∈ xs := fun he' =>
          OrderedMap.mem_left_of_compare hsorted (hsplit ▸ he') hlt
        constructor
        · intro he'
          exact (ih _ hsplit e' (hleft ((hrule e').mp he').1)).mp he'
        · intro he'
          exact (ih _ hsplit e' (hleft (mem_groups_of_mem_keptGroups he'))).mpr he'
      rw [hrule, mem_keptGroups_iff]
      refine and_congr_right fun _ => not_congr ⟨.congr hbefore, .congr fun e' h' => ?_⟩
      exact (hbefore e' h').symm
  by_cases he : e ∈ groups options ingresses
  · exact hprefix _ [] (List.append_nil _).symm e he
  · rw [hrule, mem_keptGroups_iff]
    simp only [he, false_and]

/-! ### The rule that is named -/

/-- A rule of an Ingress is the first one with a key: neither an Ingress before it nor an earlier
rule of its own Ingress has the key. -/
structure FirstRule (options : ConversionOptions) (ingresses : List Ingress) (key : GroupKey)
    (i : Ingress) (n : Nat) (rule : IngressRule) : Prop where
  getElem? : i.rules[n]? = some rule
  keyOf_eq : i.keyOf options rule = key
  ingress : ∃ pre post, ingresses = pre ++ i :: post ∧
    ∀ i' ∈ pre, ∀ rule' ∈ i'.rules, i'.keyOf options rule' ≠ key
  earlier : ∀ m < n, ∀ rule', i.rules[m]? = some rule' → i.keyOf options rule' ≠ key

/-- **A group is named after its first rule.** -/
theorem exists_firstRule (he : e ∈ groups options ingresses) : ∃ i rule,
    FirstRule options ingresses e.1 i e.2.ruleIndex rule ∧ i.ref = e.2.ingressRef e.1 := by
  obtain ⟨s, hfind, hname, hindex⟩ := RuleGroup.exists_first_of_ofSites (mem_groups_iff.mp he)
  rw [List.find?_flatMap, List.findSome?_eq_some_iff] at hfind
  obtain ⟨pre, i, post, hsplit, hi, hpre⟩ := hfind
  obtain ⟨hkey, n, hn, hs, hearlier⟩ := List.find?_eq_some_iff_getElem.mp hi
  have hlength : n < i.rules.length := by simpa [Ingress.sites] using hn
  have hsite : ∀ m (hm : m < (i.sites options).length) (hm' : m < i.rules.length),
      (i.sites options)[m] = i.siteOf options m i.rules[m] := by
    intro m hm hm'
    simp [Ingress.sites, Ingress.siteOf]
  obtain rfl := hs.symm.trans (hsite n hn hlength)
  have hkey : i.keyOf options i.rules[n] = e.1 := of_decide_eq_true hkey
  obtain rfl : e.2.ruleIndex = n := hindex
  refine ⟨i, i.rules[e.2.ruleIndex], ⟨List.getElem?_eq_getElem hlength, hkey, ?_, ?_⟩, ?_⟩
  · refine ⟨pre, post, hsplit, fun i' hi' rule' hrule' hk => ?_⟩
    obtain ⟨m, hm⟩ := List.getElem?_of_mem hrule'
    have hnone := List.find?_eq_none.mp (hpre i' hi') _ (i'.mem_sites options hm)
    exact hnone (decide_eq_true hk)
  · intro m hm rule' hrule' hk
    obtain ⟨hm', rfl⟩ := List.getElem?_eq_some_iff.mp hrule'
    have hne := hearlier m hm
    rw [hsite m (Nat.lt_trans hm hn) hm'] at hne
    simp only [Bool.not_eq_true', decide_eq_false_iff_not] at hne
    exact hne hk
  · show (⟨"Ingress", i.objectName⟩ : ObjectRef) = ⟨"Ingress", ⟨e.1.ns, e.2.ingress⟩⟩
    rw [← hkey, hname]
    rfl

/-- A group has a route just when a path of one of its rules converts. -/
theorem routes_ne_nil_iff (he : e ∈ groups options ingresses) : e.2.routes ≠ [] ↔
    ∃ i ∈ ingresses, ∃ rule ∈ i.rules, i.keyOf options rule = e.1 ∧
      ∃ path ∈ rule.paths.getD [], ∃ c, path.convert options = .ok c := by
  rw [RuleGroup.routes_of_ofSites (mem_groups_iff.mp he), ne_eq, RuleGroup.addBackends_eq_nil_iff]
  simp only [true_and, List.eq_nil_iff_forall_not_mem, not_forall, not_not, List.mem_flatMap,
    List.mem_filter, decide_eq_true_eq, RuleSite.mem_routed_iff]
  constructor
  · rintro ⟨c, s, ⟨⟨i, hi, hs⟩, hkey⟩, path, hpath, hc⟩
    obtain ⟨n, hn, rfl⟩ := List.mem_mapIdx.mp hs
    exact ⟨i, hi, i.rules[n], List.getElem_mem hn, hkey, path, hpath, c, hc⟩
  · rintro ⟨i, hi, rule, hrule, hkey, path, hpath, c, hc⟩
    obtain ⟨n, hn⟩ := List.getElem?_of_mem hrule
    exact ⟨c, _, ⟨⟨i, hi, i.mem_sites options hn⟩, hkey⟩, path, hpath, hc⟩

end Conversion

/-! ### The rule for default backends -/

namespace DefaultRoute

theorem refused_append (taken : List ObjectName) (bs bs' : List DefaultRoute) :
    refused taken (bs ++ bs') =
      refused taken bs ++ refused (taken ++ (placed taken bs).map routeName) bs' := by
  induction bs generalizing taken with
  | nil => simp [refused, placed]
  | cons b bs ih =>
    simp only [List.cons_append, refused, placed]
    split
    case isTrue => rw [ih, List.cons_append]
    case isFalse => rw [ih, List.map_cons, List.append_assoc, List.singleton_append]

/-- A default backend that is refused takes no name, and its name was taken already. -/
theorem mem_taken_iff (taken : List ObjectName) (bs : List DefaultRoute) (name : ObjectName) :
    name ∈ taken ++ (placed taken bs).map routeName ↔ name ∈ taken ++ bs.map routeName := by
  induction bs generalizing taken with
  | nil => rfl
  | cons b bs ih =>
    unfold placed
    split
    case isTrue hb =>
      rw [ih]
      simp only [List.mem_append, List.map_cons, List.mem_cons]
      grind
    case isFalse =>
      have h := ih (taken ++ [b.routeName])
      simpa [List.append_assoc] using h

/-- **The rule for default backends**: one is refused just when its route name is taken, at first
or by a default backend before it. -/
theorem refused_eq_filter (taken : List ObjectName) (bs : List DefaultRoute) :
    refused taken bs = (bs.zipIdx.filter fun b =>
      b.1.routeName ∈ taken ++ (bs.take b.2).map routeName).map (·.1) := by
  -- Induction from the end: the last default backend is compared with all before it.
  induction bs using List.reverseRecOn with
  | nil => rfl
  | append_singleton bs b ih =>
    have hlast : refused (taken ++ (placed taken bs).map routeName) [b] =
        if b.routeName ∈ taken ++ bs.map routeName then [b] else [] := by
      simp only [refused, mem_taken_iff]
    have hinit : (bs.zipIdx.filter fun c =>
        c.1.routeName ∈ taken ++ ((bs ++ [b]).take c.2).map routeName) =
          bs.zipIdx.filter fun c => c.1.routeName ∈ taken ++ (bs.take c.2).map routeName := by
      refine List.filter_congr fun c hc => ?_
      obtain ⟨-, hc, -⟩ := List.mem_zipIdx hc
      rw [List.take_append_of_le_length (by omega)]
    rw [refused_append, hlast, List.zipIdx_append, List.filter_append, List.map_append, hinit, ← ih]
    congr 1
    split <;> simp_all

end DefaultRoute

/-! ### The rule of a conversion -/

namespace Conversion

variable (options : ConversionOptions) (ingresses : List Ingress)

theorem takenNames_eq : takenNames options ingresses =
    ((keptGroups options ingresses).filter fun e => !e.2.routes.isEmpty).map
      KeyedGroup.routeName := by
  rw [takenNames, KeyedGroup.routes_map_attachment, List.map_map]
  rfl

/-- The listeners that are attached to a Gateway. -/
theorem listenersAt_attachments (name : ObjectName) :
    Attachment.listenersAt (attachments options ingresses) name =
      ((keptGroups options ingresses).filter fun e => e.gateway = name).flatMap
          KeyedGroup.listeners ++
        ((placedDefaults options ingresses).filter fun b => b.gateway = name).map fun _ =>
          .plain none := by
  rw [attachments, Attachment.listenersAt_append]
  simp only [Attachment.listenersAt, List.filter_map, List.flatMap_map]
  rw [List.map_eq_flatMap]
  rfl

end Conversion

open Conversion

/-- The names go to the groups in the order of their keys, and then to the default backends. -/
structure Precedence (options : ConversionOptions) (ingresses : List Ingress) : Prop where
  /-- Groups stand in the order of namespace, class and host. -/
  ascending : (groups options ingresses).Pairwise fun a b => compare a.1 b.1 = .lt
  /-- Every group is kept or reported, once. -/
  partition : (keptGroups options ingresses ++ (reportedGroups options ingresses).map (·.1)).Perm
    (groups options ingresses)
  /-- A group has a route just when one of its paths converts. -/
  routed : ∀ e ∈ groups options ingresses, e.2.routes ≠ [] ↔
    ∃ i ∈ ingresses, ∃ rule ∈ i.rules, i.keyOf options rule = e.1 ∧
      ∃ path ∈ rule.paths.getD [], ∃ c, path.convert options = .ok c
  /-- A group is reported just when it conflicts with a kept group. -/
  reported : ∀ e ∈ groups options ingresses,
    (∃ message, (e, message) ∈ reportedGroups options ingresses) ↔
      KeyedGroup.Conflicting (keptGroups options ingresses) e
  /-- No other choice of kept groups follows the rule. -/
  unique : ∀ kept : List KeyedGroup,
    (∀ e, e ∈ kept ↔ e ∈ groups options ingresses ∧ ¬ KeyedGroup.Conflicting kept e) →
      ∀ e, e ∈ kept ↔ e ∈ keptGroups options ingresses
  /-- The error of a reported group is for the host of its first rule. -/
  report : ∀ r ∈ reportedGroups options ingresses, ∃ i n rule,
    FirstRule options ingresses r.1.1 i n rule ∧
      (r.1.report r.2).kind = .invalid ∧ (r.1.report r.2).object = some i.ref ∧
      (r.1.report r.2).path = [.field "spec", .field "rules", .index n, .field "host"]
  /-- The errors are those of the fields of each Ingress, one for each reported group, and one for
  each default backend that is refused. -/
  errors : (convert options ingresses).2 =
    ingresses.flatMap (Ingress.fieldErrors options) ++
      ((reportedGroups options ingresses).map (fun r => r.1.report r.2) ++
        (refusedDefaults options ingresses).map DefaultRoute.report)
  /-- The routes are those of kept groups and of placed default backends. -/
  routes : (convert options ingresses).1.httpRoutes.entries.Perm
    (((keptGroups options ingresses).filter fun e => !e.2.routes.isEmpty).map
        (fun e => (e.routeName, e.2.toHttpRoute e.1)) ++
      (placedDefaults options ingresses).map fun b => (b.routeName, b.toHttpRoute))
  /-- The listeners of a Gateway are those of kept groups, then those of placed default backends. -/
  listeners : ∀ name g, (convert options ingresses).1.gateways.find? name = some g →
    g = (Gateway.ofClass name.name).addListeners
      (((keptGroups options ingresses).filter fun e => e.gateway = name).flatMap
          KeyedGroup.listeners ++
        ((placedDefaults options ingresses).filter fun b => b.gateway = name).map fun _ =>
          .plain none)
  /-- A route that is there after some of the groups is there in the end. -/
  lasting : ∀ es es', groups options ingresses = es ++ es' → ∀ name r,
    (es.foldl Draft.place .empty).topology.httpRoutes.find? name = some r →
      (convert options ingresses).1.httpRoutes.find? name = some r
  /-- A route that is there after some of the default backends is there in the end. -/
  lastingDefaults : ∀ bs bs', defaultRoutes options ingresses = bs ++ bs' → ∀ name r,
    (bs.foldl Draft.placeDefault ((groups options ingresses).foldl Draft.place
        .empty)).topology.httpRoutes.find? name = some r →
      (convert options ingresses).1.httpRoutes.find? name = some r
  /-- The route of a kept group is there in the end. -/
  keptRoute : ∀ e ∈ keptGroups options ingresses, e.2.routes ≠ [] →
    (convert options ingresses).1.httpRoutes.find? e.routeName = some (e.2.toHttpRoute e.1)
  /-- A default backend is refused just when its route name is that of a kept group or of a default
  backend before it. -/
  refused : refusedDefaults options ingresses =
    ((defaultRoutes options ingresses).zipIdx.filter fun b =>
      b.1.routeName ∈ ((keptGroups options ingresses).filter fun e => !e.2.routes.isEmpty).map
          KeyedGroup.routeName ++
        ((defaultRoutes options ingresses).take b.2).map DefaultRoute.routeName).map (·.1)
  /-- The error of a default backend is for its field. -/
  reportDefault : ∀ b ∈ refusedDefaults options ingresses,
    b.report.kind = .invalid ∧ b.report.object = some ⟨"Ingress", b.ingress⟩ ∧
      b.report.path = Ingress.defaultBackendPath

/-- **The first group to use a name keeps it**, whatever the Ingresses, the default class and the
match for paths left to the provider. -/
theorem precedence_convert (options : ConversionOptions) (ingresses : List Ingress) :
    Precedence options ingresses where
  ascending := sorted_groups options ingresses
  partition := KeyedGroup.perm_kept_reported _ _
  routed _ he := routes_ne_nil_iff he
  reported _ he := isReported_iff_conflicting he
  unique _ hrule := mem_iff_of_rule hrule
  report r hr := by
    have hg : r.1 ∈ groups options ingresses :=
      (KeyedGroup.perm_kept_reported _ _).mem_iff.mp
        (List.mem_append_right _ (List.mem_map_of_mem hr))
    obtain ⟨i, rule, hfirst, href⟩ := exists_firstRule hg
    exact ⟨i, r.1.2.ruleIndex, rule, hfirst, rfl, congrArg some href.symm, rfl⟩
  errors := errors_convert options ingresses
  routes := perm_routes_convert options ingresses
  listeners name g h := by
    rw [find?_gateways_convert] at h
    split at h
    case isFalse => cases h
    rw [← listenersAt_attachments, ← Option.some.inj h]
    rfl
  lasting es es' hsplit name r h := by
    refine Draft.find?_foldl_placeDefault ?_ (defaultRoutes options ingresses)
    show ((groups options ingresses).foldl Draft.place .empty).topology.httpRoutes.find? name =
      some r
    rw [hsplit, List.foldl_append]
    exact Draft.find?_foldl_place h es'
  lastingDefaults bs bs' hsplit name r h := by
    show ((defaultRoutes options ingresses).foldl Draft.placeDefault
      ((groups options ingresses).foldl Draft.place .empty)).topology.httpRoutes.find? name = some r
    rw [hsplit, List.foldl_append]
    exact Draft.find?_foldl_placeDefault h bs'
  keptRoute e he hne := by
    rw [OrderedMap.find?_eq_some_iff, mem_httpRoutes_convert_iff]
    exact .inl ⟨e, he, hne, rfl, rfl⟩
  refused := by
    rw [← takenNames_eq]
    exact DefaultRoute.refused_eq_filter _ _
  reportDefault _ _ := ⟨rfl, rfl, rfl⟩

/-- The host with the smaller key keeps the listener name, not the host of the first Ingress. -/
example : (reportedGroups ⟨none, none⟩
    [.single "web" "gce" (some "a.com") [], .single "api" "gce" (some "a-com") []]).map
      (fun r => (r.1.1.host, r.2)) =
    [("a.com", "listener name a-com-http is already used by host a-com")] := by decide +kernel

end GatewayMigration
