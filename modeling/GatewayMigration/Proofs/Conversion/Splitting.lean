import GatewayMigration.Proofs.Conversion.Certificates
import GatewayMigration.Proofs.Conversion.Extensionality
import GatewayMigration.Proofs.RuleGroup.Splitting

/-!
# Converting a rule in two parts

A rule and its two parts make the same routes. The listeners of the group are the same as well,
since a Secret is named once however often its certificate is counted. There is one exception: a
group for every host takes the host of its certificate if there is just one, and two parts bring
two. So the host is lost, if the group is kept and has no other certificate than that of the
Ingress.

## Main definitions

* `RuleSplit.partedGroup`: a group when the rule is in two
* `RuleSplit.HasOnlyHost`: the group takes its host from the one certificate of the Ingress
* `RuleSplit.LosesHost`: such a group is kept

## Main results

* `IngressTls.secrets_repeat`, `IngressTls.singleHost?_repeat`: certificates that are counted twice
* `KeyedGroup.kept_reported_map`: a change of groups that no clash depends on
* `Conversion.head?_listeners_of_hostless`: a group for every host comes first on its Gateway
* `RuleSplit.kept_partedGroup`: the same groups are kept
* `RuleSplit.topology_parted`, `RuleSplit.topology_parted_ne`: what comes out in either case
* `convert_parted_iff`: nothing changes just when no host is lost
-/

namespace GatewayMigration

/-! ### Certificates that are counted twice -/

namespace IngressTls

/-- **Secrets are named once**, however often their certificates are counted. -/
theorem secrets_repeat (a t b : List IngressTls) (host : String) :
    secrets (a ++ (t ++ t) ++ b) host = secrets (a ++ t ++ b) host := by
  simp only [secrets, List.filter_append, List.filterMap_append, List.foldl_append]
  congr 1
  apply foldl_insert_of_subset
  intro s hs
  exact (mem_foldl_insert _ _ s).mpr (.inr hs)

theorem singleHost?_eq_none_of_length {tls : List IngressTls} (h : tls.length ≠ 1) :
    singleHost? tls = none := by
  by_contra hsome
  obtain ⟨host, hhost⟩ := Option.ne_none_iff_exists'.mp hsome
  obtain ⟨secret, rfl⟩ := singleHost?_eq_some_iff.mp hhost
  exact h rfl

/-- **A single host is lost** if its certificate is counted twice, and in no other case. -/
theorem singleHost?_repeat (a t b : List IngressTls) :
    singleHost? (a ++ (t ++ t) ++ b) = singleHost? (a ++ t ++ b) ∨
      a ++ t ++ b = t ∧ ∃ host secret, t = [⟨some [host], secret⟩] := by
  cases hsingle : singleHost? (a ++ t ++ b) with
  | none =>
    by_cases ht : t = []
    · left
      rw [← hsingle, ht]
      rfl
    · left
      apply singleHost?_eq_none_of_length
      have hpos : 0 < t.length := List.length_pos_of_ne_nil ht
      simp only [List.length_append]
      omega
  | some host =>
    obtain ⟨secret, htls⟩ := singleHost?_eq_some_iff.mp hsingle
    by_cases ht : t = []
    · left
      rw [← hsingle, ht]
      rfl
    · right
      -- one certificate in all is one of the Ingress, so there is none around
      have hlength : a.length + (t.length + b.length) = 1 := by
        simpa using congrArg List.length htls
      have hpos : 0 < t.length := List.length_pos_of_ne_nil ht
      have ha : a = [] := List.eq_nil_of_length_eq_zero (by omega)
      have hb : b = [] := List.eq_nil_of_length_eq_zero (by omega)
      have hself : a ++ t ++ b = t := by rw [ha, hb, List.nil_append, List.append_nil]
      exact ⟨hself, host, secret, hself.symm.trans htls⟩

end IngressTls

/-! ### Groups that settle in the same way -/

namespace KeyedGroup

variable {before before' es : List KeyedGroup} {e e' : KeyedGroup} {F : KeyedGroup → KeyedGroup}

theorem listenersAt_map_eq_nil {name : ObjectName} (h : ∀ x ∈ before, x.gateway ≠ name) :
    Attachment.listenersAt (before.map attachment) name = [] := by
  apply Attachment.listenersAt_eq_nil
  intro a ha
  obtain ⟨x, hx, rfl⟩ := List.mem_map.mp ha
  exact h x hx

/-- Without a listener on the Gateway there is no clash of listeners. -/
theorem findSome?_listenerConflict?_eq_none {name : ObjectName}
    (h : ∀ x ∈ before, x.gateway ≠ name) (ls : List Listener) :
    ls.findSome? (Attachment.gatewayAt (before.map attachment) name).listenerConflict? = none := by
  apply List.findSome?_eq_none_iff.mpr
  intro l _
  rw [Attachment.gatewayAt, listenersAt_map_eq_nil h]
  rfl

/-- A clash depends on what is attached before, and on what the group attaches; the listeners of the
group do not count if it is the first of its Gateway. -/
theorem clash?_congr (hbefore : before'.map attachment = before.map attachment)
    (hkey : e'.1 = e.1) (hingress : e'.2.ingress = e.2.ingress) (hroutes : e'.2.routes = e.2.routes)
    (hlisteners : e'.listeners = e.listeners ∨ ∀ x ∈ before, x.gateway ≠ e.gateway) :
    clash? before' e' = clash? before e := by
  have hname : e'.routeName = e.routeName := by
    rw [routeName, routeName, RuleGroup.routeName, RuleGroup.routeName, hkey, hingress]
  have hgateway : e'.gateway = e.gateway := congrArg GroupKey.gateway hkey
  unfold clash?
  rw [hbefore, hroutes, hname, hgateway]
  rcases hlisteners with hlisteners | hfree
  · rw [hlisteners]
  · rw [findSome?_listenerConflict?_eq_none hfree, findSome?_listenerConflict?_eq_none hfree]

/-- **Where a change of groups makes no clash and takes none away**, the same groups are kept and
reported. -/
theorem kept_reported_map (h : ∀ pre x post, es = pre ++ x :: post →
      clash? ((before ++ kept before pre).map F) (F x) = clash? (before ++ kept before pre) x) :
    kept (before.map F) (es.map F) = (kept before es).map F ∧
      reported (before.map F) (es.map F) = (reported before es).map fun r => (F r.1, r.2) := by
  -- Induction on the groups left, whatever was kept before them.
  induction es generalizing before with
  | nil => exact ⟨rfl, rfl⟩
  | cons x es ih =>
    have hx : clash? (before.map F) (F x) = clash? before x := by
      simpa [kept] using h [] x es rfl
    have hrest := fun pre y post (hes : es = pre ++ y :: post) =>
      h (x :: pre) y post (congrArg (x :: ·) hes)
    cases hc : clash? before x with
    | none =>
      -- the group is kept on both sides, and the rest is compared with it as well
      obtain ⟨hkept, hreported⟩ := @ih (before ++ [x]) fun pre y post hes => by
        simpa [kept, hc] using hrest pre y post hes
      rw [List.map_append, List.map_singleton] at hkept hreported
      simp only [kept, reported, List.map_cons, hx, hc, Option.isSome_none, Bool.false_eq_true,
        if_false, hkept, hreported, and_self]
    | some message =>
      -- the group is reported on both sides
      obtain ⟨hkept, hreported⟩ := @ih before fun pre y post hes => by
        simpa [kept, hc] using hrest pre y post hes
      simp only [kept, reported, List.map_cons, hx, hc, Option.isSome_some, if_true, hkept,
        hreported, and_self]

end KeyedGroup

/-! ### Groups for every host -/

theorem RuleGroup.hostname?_of_empty {g : RuleGroup} {host : String} (h : host = "") :
    g.hostname? host = IngressTls.singleHost? g.tls := by
  rw [hostname?, if_pos (by simpa using h)]

namespace Conversion

open Attachment

variable {options : ConversionOptions} {ingresses : List Ingress} {e : KeyedGroup}

/-- **A group for every host** is the first of its Gateway, so its plain listener stands first. -/
theorem head?_listeners_of_hostless (he : e ∈ keptGroups options ingresses)
    (hhost : e.1.host = "") :
    ∃ g, (convert options ingresses).1.gateways.find? e.gateway = some g ∧
      g.listeners.head? = some (.plain (IngressTls.singleHost? e.2.tls)) := by
  refine ⟨_, find?_gateways_of_mem_keptGroups he, ?_⟩
  obtain ⟨pre, post, hsplit, -, hlt⟩ := exists_split_of_mem_keptGroups he
  obtain ⟨rest, hrest⟩ := exists_listenersAt_eq hsplit
  have hpre : listenersAt (pre.map KeyedGroup.attachment) e.gateway = [] := by
    apply KeyedGroup.listenersAt_map_eq_nil
    intro x hx hgateway
    exact GroupKey.host_ne_empty_of_compare hgateway (hlt x hx) hhost
  have hown : ∃ ls, e.listeners = .plain (IngressTls.singleHost? e.2.tls) :: ls := by
    unfold KeyedGroup.listeners RuleGroup.listeners
    rw [RuleGroup.hostname?_of_empty hhost]
    cases IngressTls.secrets e.2.tls e.1.host <;> exact ⟨_, rfl⟩
  obtain ⟨ls, hls⟩ := hown
  rw [gatewayAt, hrest, hpre, hls, List.nil_append, List.cons_append]
  exact Gateway.head?_addListeners _ _

end Conversion

/-! ### The groups of a rule in two parts -/

namespace RuleSplit

open Conversion

variable (options : ConversionOptions) (left right : List Ingress) (s : RuleSplit)

/-- A group when the rule is in two. -/
def partedGroup (e : KeyedGroup) : KeyedGroup :=
  (e.1, ((RuleGroup.gather options
    ((left ++ s.parted :: right).flatMap (Ingress.sites options))).find? e.1).getD e.2)

/-- The groups when the rule is in two. -/
theorem groups_parted :
    groups options (left ++ s.parted :: right) =
      (groups options (left ++ s.whole :: right)).map (s.partedGroup options left right) := by
  let whole := RuleGroup.gather options ((left ++ s.whole :: right).flatMap (Ingress.sites options))
  let parted := RuleGroup.gather options
    ((left ++ s.parted :: right).flatMap (Ingress.sites options))
  have hmap : parted = whole.mapValues fun k g => (parted.find? k).getD g := by
    apply OrderedMap.ext_find?
    intro k
    rw [OrderedMap.find?_mapValues]
    -- a key has a group on both sides or on none
    have hrel : Option.Rel (s.Counterpart options k) (whole.find? k) (parted.find? k) :=
      s.counterpart_find?_gather options left right k
    cases hw : whole.find? k with
    | none =>
      cases hp : parted.find? k with
      | none => rfl
      | some g' => rw [hw, hp] at hrel; cases hrel
    | some g =>
      cases hp : parted.find? k with
      | none => rw [hw, hp] at hrel; cases hrel
      | some g' => rfl
  exact congrArg OrderedMap.entries hmap

variable {options left right s} {e : KeyedGroup}

theorem counterpart_partedGroup (he : e ∈ groups options (left ++ s.whole :: right)) :
    s.Counterpart options e.1 e.2 (s.partedGroup options left right e).2 := by
  have hrel := s.counterpart_find?_gather options left right e.1
  rw [OrderedMap.find?_eq_some_iff.mpr he] at hrel
  unfold partedGroup
  cases hp : (RuleGroup.gather options
      ((left ++ s.parted :: right).flatMap (Ingress.sites options))).find? e.1 with
  | none => rw [hp] at hrel; cases hrel
  | some g' =>
    rw [hp] at hrel
    cases hrel with
    | some h => exact h

/-! ### Hosts that are lost -/

variable (options s) in
/-- The group of the rule is for every host, and has the one certificate of the Ingress, which is
for one host. -/
structure HasOnlyHost (e : KeyedGroup) : Prop where
  key : e.1 = s.key options
  hostless : e.1.host = ""
  single : ∃ host secret, e.2.tls = [⟨some [host], secret⟩]
  own : s.whole.tls = e.2.tls

variable (options left right s) in
/-- The group of the rule is for every host, takes its host from the one certificate of the Ingress,
and is kept. -/
def LosesHost : Prop :=
  ∃ e ∈ keptGroups options (left ++ s.whole :: right), s.HasOnlyHost options e

/-- A group has the same host when the rule is in two, unless it has only that host. -/
theorem hostname?_partedGroup (he : e ∈ groups options (left ++ s.whole :: right))
    (hhost : ¬ s.HasOnlyHost options e) :
    (s.partedGroup options left right e).2.hostname? e.1.host = e.2.hostname? e.1.host := by
  have hc := counterpart_partedGroup he
  by_cases hempty : e.1.host = ""
  · -- the host comes from the certificates
    rw [RuleGroup.hostname?_of_empty hempty, RuleGroup.hostname?_of_empty hempty]
    by_cases hk : e.1 = s.key options
    · obtain ⟨a, b, hwhole, hparted⟩ := hc.tls_of_eq hk
      rw [hparted, hwhole]
      rcases IngressTls.singleHost?_repeat a s.whole.tls b with heq | ⟨hself, host, secret, htls⟩
      · exact heq
      · rw [hself] at hwhole
        exact absurd ⟨hk, hempty, ⟨host, secret, hwhole.trans htls⟩, hwhole.symm⟩ hhost
    · rw [hc.tls_of_ne hk]
  · rw [RuleGroup.hostname?_of_ne_empty hempty, RuleGroup.hostname?_of_ne_empty hempty]

/-- A group has the same Secrets when the rule is in two. -/
theorem secrets_partedGroup (he : e ∈ groups options (left ++ s.whole :: right)) (host : String) :
    IngressTls.secrets (s.partedGroup options left right e).2.tls host =
      IngressTls.secrets e.2.tls host := by
  have hc := counterpart_partedGroup he
  by_cases hk : e.1 = s.key options
  · obtain ⟨a, b, hwhole, hparted⟩ := hc.tls_of_eq hk
    rw [hparted, hwhole, IngressTls.secrets_repeat]
  · rw [hc.tls_of_ne hk]

/-- **A group has the same listeners** when the rule is in two, unless it has only its host. -/
theorem listeners_partedGroup (he : e ∈ groups options (left ++ s.whole :: right))
    (hhost : ¬ s.HasOnlyHost options e) :
    (s.partedGroup options left right e).listeners = e.listeners := by
  show (s.partedGroup options left right e).2.listeners e.1.host = e.2.listeners e.1.host
  rw [RuleGroup.listeners, RuleGroup.listeners, hostname?_partedGroup he hhost,
    secrets_partedGroup he]

/-- Such a group attaches the same. -/
theorem attachment_partedGroup (he : e ∈ groups options (left ++ s.whole :: right))
    (hhost : ¬ s.HasOnlyHost options e) :
    (s.partedGroup options left right e).attachment = e.attachment := by
  have hc := counterpart_partedGroup he
  have hname : (s.partedGroup options left right e).routeName = e.routeName := by
    rw [KeyedGroup.routeName, KeyedGroup.routeName, RuleGroup.routeName, RuleGroup.routeName,
      hc.ingress]
    rfl
  have hroute : (s.partedGroup options left right e).2.toHttpRoute e.1 = e.2.toHttpRoute e.1 := by
    rw [RuleGroup.toHttpRoute, RuleGroup.toHttpRoute, hc.routes]
  rw [KeyedGroup.attachment, KeyedGroup.attachment, listeners_partedGroup he hhost, hname,
    hc.routes, ← hroute]
  rfl

/-- A group is reported for the same field, but for the position of its first rule. -/
theorem report_partedGroup (he : e ∈ groups options (left ++ s.whole :: right))
    (message : String) :
    ((s.partedGroup options left right e).report message).unindexed =
      (e.report message).unindexed := by
  have hobject : (s.partedGroup options left right e).2.ingressRef e.1 = e.2.ingressRef e.1 := by
    rw [RuleGroup.ingressRef, RuleGroup.ingressRef, (counterpart_partedGroup he).ingress]
  show ((FieldError.under _ _).ofObject
    ((s.partedGroup options left right e).2.ingressRef e.1)).unindexed = _
  rw [hobject]
  exact FieldError.unindexed_under _ rfl _

/-! ### What is kept -/

/-- The same clash is there when the rule is in two. A group that has only its host is the first of
its Gateway, so that its listeners are in no clash. -/
theorem clash?_partedGroup {pre : List KeyedGroup}
    (hpre : ∀ x ∈ pre, x ∈ groups options (left ++ s.whole :: right) ∧ ¬ s.HasOnlyHost options x)
    (hlt : ∀ x ∈ pre, compare x.1 e.1 = .lt)
    (he : e ∈ groups options (left ++ s.whole :: right)) :
    KeyedGroup.clash? (pre.map (s.partedGroup options left right))
      (s.partedGroup options left right e) = KeyedGroup.clash? pre e := by
  have hc := counterpart_partedGroup he
  have hattached : (pre.map (s.partedGroup options left right)).map KeyedGroup.attachment =
      pre.map KeyedGroup.attachment := by
    rw [List.map_map]
    apply List.map_congr_left
    intro x hx
    exact attachment_partedGroup (hpre x hx).1 (hpre x hx).2
  have hlisteners : (s.partedGroup options left right e).listeners = e.listeners ∨
      ∀ x ∈ pre, x.gateway ≠ e.gateway := by
    by_cases hhost : s.HasOnlyHost options e
    · right
      intro x hx hgateway
      exact GroupKey.host_ne_empty_of_compare hgateway (hlt x hx) hhost.hostless
    · left
      exact listeners_partedGroup he hhost
  exact KeyedGroup.clash?_congr hattached rfl hc.ingress hc.routes hlisteners

/-- **The same groups are kept** and reported up to a place, as long as no kept group has only its
host. -/
theorem kept_partedGroup {xs ys : List KeyedGroup}
    (hsplit : groups options (left ++ s.whole :: right) = xs ++ ys)
    (hhost : ∀ e ∈ KeyedGroup.kept [] xs, ¬ s.HasOnlyHost options e) :
    KeyedGroup.kept [] (xs.map (s.partedGroup options left right)) =
        (KeyedGroup.kept [] xs).map (s.partedGroup options left right) ∧
      KeyedGroup.reported [] (xs.map (s.partedGroup options left right)) =
        (KeyedGroup.reported [] xs).map fun r => (s.partedGroup options left right r.1, r.2) := by
  apply @KeyedGroup.kept_reported_map []
  intro pre x post hxs
  rw [List.nil_append]
  have hgroups : groups options (left ++ s.whole :: right) = pre ++ x :: (post ++ ys) := by
    rw [hsplit, hxs, List.append_assoc, List.cons_append]
  have hpre : ∀ y ∈ KeyedGroup.kept [] pre, y ∈ pre := fun y hy =>
    (KeyedGroup.kept_sublist [] pre).subset hy
  apply clash?_partedGroup
  · intro y hy
    refine ⟨?_, hhost y ?_⟩
    · rw [hgroups]
      exact List.mem_append_left _ (hpre y hy)
    · rw [hxs, KeyedGroup.kept_append]
      exact List.mem_append_left _ hy
  · intro y hy
    exact compare_of_mem_left hgroups (hpre y hy)
  · rw [hgroups]
    exact List.mem_append_right _ (List.mem_cons_self ..)

/-! ### Conversions on both sides -/

theorem defaultRoutes_parted :
    defaultRoutes options (left ++ s.parted :: right) =
      defaultRoutes options (left ++ s.whole :: right) := by
  have hdefault : s.parted.defaultRoute? options = s.whole.defaultRoute? options := rfl
  simp only [defaultRoutes, List.filterMap_append, List.filterMap_cons, hdefault]

section Same

variable (h : ¬ s.LosesHost options left right)

include h

theorem keptGroups_parted :
    keptGroups options (left ++ s.parted :: right) =
      (keptGroups options (left ++ s.whole :: right)).map (s.partedGroup options left right) := by
  rw [keptGroups, groups_parted]
  exact (kept_partedGroup (List.append_nil _).symm fun e he hhost => h ⟨e, he, hhost⟩).1

theorem reportedGroups_parted :
    reportedGroups options (left ++ s.parted :: right) =
      (reportedGroups options (left ++ s.whole :: right)).map
        fun r => (s.partedGroup options left right r.1, r.2) := by
  rw [reportedGroups, groups_parted]
  exact (kept_partedGroup (List.append_nil _).symm fun e he hhost => h ⟨e, he, hhost⟩).2

theorem map_attachment_keptGroups_parted :
    (keptGroups options (left ++ s.parted :: right)).map KeyedGroup.attachment =
      (keptGroups options (left ++ s.whole :: right)).map KeyedGroup.attachment := by
  rw [keptGroups_parted h, List.map_map]
  apply List.map_congr_left
  intro e he
  exact attachment_partedGroup (mem_groups_of_mem_keptGroups he) fun hhost => h ⟨e, he, hhost⟩

theorem takenNames_parted :
    takenNames options (left ++ s.parted :: right) =
      takenNames options (left ++ s.whole :: right) := by
  rw [takenNames, map_attachment_keptGroups_parted h, ← takenNames]

theorem placedDefaults_parted :
    placedDefaults options (left ++ s.parted :: right) =
      placedDefaults options (left ++ s.whole :: right) := by
  rw [placedDefaults, takenNames_parted h, defaultRoutes_parted, ← placedDefaults]

theorem refusedDefaults_parted :
    refusedDefaults options (left ++ s.parted :: right) =
      refusedDefaults options (left ++ s.whole :: right) := by
  rw [refusedDefaults, takenNames_parted h, defaultRoutes_parted, ← refusedDefaults]

/-- **The same objects come out** unless the host is lost. -/
theorem topology_parted :
    (convert options (left ++ s.parted :: right)).1 =
      (convert options (left ++ s.whole :: right)).1 := by
  have hattachments : attachments options (left ++ s.parted :: right) =
      attachments options (left ++ s.whole :: right) := by
    rw [attachments, map_attachment_keptGroups_parted h, placedDefaults_parted h, ← attachments]
  have hnames : gatewayNames options (left ++ s.parted :: right) =
      gatewayNames options (left ++ s.whole :: right) := by
    rw [gatewayNames, groups_parted, placedDefaults_parted h, List.map_map, gatewayNames]
    rfl
  apply topology_ext
  · intro name
    rw [hnames]
  · intro name
    rw [hattachments]
  · rw [hattachments]

/-- **The same errors come out**, but for positions, unless the host is lost. -/
theorem errors_parted :
    (convert options (left ++ s.parted :: right)).2.map FieldError.unindexed =
      (convert options (left ++ s.whole :: right)).2.map FieldError.unindexed := by
  rw [errors_convert, errors_convert, reportedGroups_parted h, refusedDefaults_parted h]
  simp only [List.map_append, List.flatMap_append, List.flatMap_cons, map_unindexed_fieldErrors,
    List.map_map]
  congr 2
  apply List.map_congr_left
  intro r hr
  -- a reported group is one of the groups
  have hmem : r.1 ∈ groups options (left ++ s.whole :: right) :=
    (KeyedGroup.perm_kept_reported [] _).mem_iff.mp
      (List.mem_append_right _ (List.mem_map_of_mem hr))
  exact report_partedGroup hmem r.2

end Same

/-- The group of the rule is kept when the rule is in two, if it is kept when the rule is in one. -/
theorem partedGroup_mem_keptGroups (he : e ∈ keptGroups options (left ++ s.whole :: right))
    (hkey : e.1 = s.key options) :
    s.partedGroup options left right e ∈ keptGroups options (left ++ s.parted :: right) := by
  obtain ⟨xs, ys, hxs, hclash⟩ := KeyedGroup.exists_split_of_mem_kept he
  have hsplit : groups options (left ++ s.whole :: right) = xs ++ e :: ys := hxs
  have hlt : ∀ x ∈ xs, compare x.1 e.1 = .lt := fun x hx => compare_of_mem_left hsplit hx
  -- the groups before have other keys, so they are the same on both sides
  have hother : ∀ x ∈ xs, ¬ s.HasOnlyHost options x := by
    intro x hx hhost
    have hself := hlt x hx
    rw [hhost.key, hkey, Std.compare_self] at hself
    cases hself
  have hbefore : ∀ x ∈ KeyedGroup.kept [] xs, x ∈ xs := fun x hx =>
    (KeyedGroup.kept_sublist [] xs).subset hx
  have hkept := (kept_partedGroup hsplit fun x hx => hother x (hbefore x hx)).1
  -- so the group is in no clash with them
  have hparted : KeyedGroup.clash? ([] ++ KeyedGroup.kept [] (xs.map
      (s.partedGroup options left right))) (s.partedGroup options left right e) = none := by
    rw [List.nil_append, hkept, ← hclash, List.nil_append]
    apply clash?_partedGroup
    · intro x hx
      refine ⟨?_, hother x (hbefore x hx)⟩
      rw [hsplit]
      exact List.mem_append_left _ (hbefore x hx)
    · intro x hx
      exact hlt x (hbefore x hx)
    · exact mem_groups_of_mem_keptGroups he
  rw [keptGroups, groups_parted, hsplit, List.map_append, List.map_cons,
    KeyedGroup.kept_of_split _ hparted]
  exact List.mem_append_right _ (List.mem_cons_self ..)

/-- **Another topology comes out** if the host is lost: the first listener of the Gateway is for the
host when the rule is in one, and for every host when it is in two. -/
theorem topology_parted_ne (h : s.LosesHost options left right) :
    (convert options (left ++ s.parted :: right)).1 ≠
      (convert options (left ++ s.whole :: right)).1 := by
  obtain ⟨e, he, hhost⟩ := h
  obtain ⟨host, secret, htls⟩ := hhost.single
  intro heq
  obtain ⟨g, hg, hhead⟩ := head?_listeners_of_hostless he hhost.hostless
  obtain ⟨g', hg', hhead'⟩ :=
    head?_listeners_of_hostless (partedGroup_mem_keptGroups he hhost.key) hhost.hostless
  have hgg : g' = g := by
    rw [heq] at hg'
    exact Option.some.inj (hg'.symm.trans hg)
  rw [hgg, hhead] at hhead'
  -- one certificate has a host, and two have none
  have hone : IngressTls.singleHost? e.2.tls = some host := by
    rw [htls]
    rfl
  have htwo : IngressTls.singleHost? (s.partedGroup options left right e).2.tls = none := by
    obtain ⟨a, b, -, hparted⟩ :=
      (counterpart_partedGroup (mem_groups_of_mem_keptGroups he)).tls_of_eq hhost.key
    apply IngressTls.singleHost?_eq_none_of_length
    rw [hparted, hhost.own, htls]
    simp only [List.length_append, List.length_singleton]
    omega
  rw [hone, htwo] at hhead'
  cases congrArg Listener.hostname (Option.some.inj hhead')

end RuleSplit

/-- **A rule in two parts** makes the same objects as the rule in one, just when no host is lost: a
group for every host that takes its host from its only certificate. The errors are the same then,
but for positions. -/
theorem convert_parted_iff (options : ConversionOptions) (left right : List Ingress)
    (s : RuleSplit) :
    ((convert options (left ++ s.parted :: right)).1 =
        (convert options (left ++ s.whole :: right)).1 ↔ ¬ s.LosesHost options left right) ∧
      (s.LosesHost options left right ∨
        (convert options (left ++ s.parted :: right)).2.map FieldError.unindexed =
          (convert options (left ++ s.whole :: right)).2.map FieldError.unindexed) := by
  by_cases h : s.LosesHost options left right
  · exact ⟨⟨fun heq _ => RuleSplit.topology_parted_ne h heq, fun hnot => absurd h hnot⟩, .inl h⟩
  · exact ⟨⟨fun _ => h, fun _ => RuleSplit.topology_parted h⟩, .inr (RuleSplit.errors_parted h)⟩

/-- The Ingress `shop` with a rule for two paths and a certificate for `foo.com`. -/
def shopPaths (host : Option String) : RuleSplit where
  metadata := .ofName ⟨"default", "shop"⟩
  spec := {
    defaultBackend := none
    className := some "gce"
    rules := none
    tls := some [⟨some ["foo.com"], some "shop-cert"⟩] }
  before := []
  host := host
  first := [⟨some "/", "Prefix", ⟨some ⟨"shop", some ⟨none, some 80⟩⟩, none⟩⟩]
  second := [⟨some "/api", "Prefix", ⟨some ⟨"api", some ⟨none, some 80⟩⟩, none⟩⟩]
  after := []

/-- A rule with a host keeps it. -/
theorem convert_parted_iff_shopPaths :
    ¬ (shopPaths (some "foo.com")).LosesHost ⟨none, none⟩ [] [] ∧
      (convert ⟨none, none⟩ [(shopPaths (some "foo.com")).parted]).1 =
        (convert ⟨none, none⟩ [(shopPaths (some "foo.com")).whole]).1 := by
  have h : ¬ (shopPaths (some "foo.com")).LosesHost ⟨none, none⟩ [] [] := by
    rintro ⟨e, -, hhost⟩
    have hempty := hhost.hostless
    rw [hhost.key] at hempty
    exact absurd hempty (by decide)
  exact ⟨h, (convert_parted_iff ⟨none, none⟩ [] [] _).1.mpr h⟩

/-- A host can be lost, and nothing is reported. -/
theorem not_forall_convert_parted_eq :
    (convert ⟨none, none⟩ [(shopPaths none).parted]).2 = [] ∧
    ¬ ∀ options left right (s : RuleSplit),
      (convert options (left ++ s.parted :: right)).1 =
          (convert options (left ++ s.whole :: right)).1 ∧
        (convert options (left ++ s.parted :: right)).2.map FieldError.unindexed =
          (convert options (left ++ s.whole :: right)).2.map FieldError.unindexed := by
  refine ⟨by decide +kernel, fun h => ?_⟩
  have hwhole : (convert ⟨none, none⟩ [(shopPaths none).whole]).1.gateways.find?
      ⟨"default", "gce"⟩ = some ⟨"gce",
        [.plain (some "foo.com"), .secure (some "foo.com") ["shop-cert"]], none⟩ := by
    decide +kernel
  have hparted : (convert ⟨none, none⟩ [(shopPaths none).parted]).1.gateways.find?
      ⟨"default", "gce"⟩ = some ⟨"gce", [.plain none, .secure none ["shop-cert"]], none⟩ := by
    decide +kernel
  have heq := (h ⟨none, none⟩ [] [] (shopPaths none)).1
  rw [List.nil_append, List.nil_append] at heq
  rw [heq, hwhole] at hparted
  exact absurd hparted (by decide)

end GatewayMigration
