import GatewayMigration.Proofs.Conversion.Conflict
import GatewayMigration.Proofs.RuleGroup.Paths

/-!
# What becomes of every path

Each path of each Ingress is an error under its field, or a backend of the route of its group, or
one of the paths of a group that is reported. Counted with multiplicity, a conversion has no other
backends and no other errors than those, apart from the ones of default backends.

## Main definitions

* `BackendUse`: a backend of a rule of a route
* `Conversion.PathLot`, `Conversion.DefaultLot`: what becomes of a path, or of a default backend
* `Accounted`: the account of a conversion

## Main results

* `Conversion.perm_uses_convert`: the backends of a conversion, one by one
* `Conversion.pathLot`, `Conversion.defaultLot`: every path and default backend has its lot
* `accounted_convert`: no path is lost, and none is counted twice
-/

namespace GatewayMigration

/-! ### Backends of routes -/

/-- A backend of a rule of a route. -/
structure BackendUse where
  route : ObjectName
  pathMatches : List PathMatch
  backend : BackendRef

/-- The backends of a route, one by one. -/
def HttpRoute.uses (name : ObjectName) (r : HttpRoute) : List BackendUse :=
  r.rules.flatMap fun rule => rule.backends.map (⟨name, rule.pathMatches, ·⟩)

/-- The backends of all routes, one by one. -/
def Topology.uses (t : Topology) : List BackendUse :=
  t.httpRoutes.entries.flatMap fun e => e.2.uses e.1

/-- The backend of a path that converts, in the rule of its match. -/
def PathSite.use? (options : ConversionOptions) (route : ObjectName) (p : PathSite) :
    Option BackendUse :=
  (p.routed? options).map fun c => ⟨route, [c.1], c.2⟩

/-- The backend of a default backend, in a rule without matches. -/
def DefaultRoute.use (b : DefaultRoute) : BackendUse := ⟨b.routeName, [], b.backend⟩

namespace RuleGroup

variable (g : RuleGroup) (key : GroupKey)

theorem uses_toHttpRoute (name : ObjectName) :
    (g.toHttpRoute key).uses name = (pairs g.routes).map fun c => ⟨name, [c.1], c.2⟩ := by
  simp only [HttpRoute.uses, toHttpRoute, pairs, List.flatMap_map, List.map_flatMap, List.map_map]
  rfl

variable {g} {key}

theorem filter_pairs (routes : List (PathMatch × List BackendRef)) (m : PathMatch) :
    (pairs routes).filter (fun c => c.1 = m) = pairs (routes.filter fun r => r.1 = m) := by
  induction routes with
  | nil => rfl
  | cons r routes ih =>
    rw [pairs_cons, List.filter_append, ih]
    by_cases hr : r.1 = m <;> simp [hr]

/-- The backends of one match. -/
theorem backends_of_mem {routes : List (PathMatch × List BackendRef)}
    (hd : (routes.map (·.1)).Nodup) {m : PathMatch} {bs : List BackendRef}
    (hm : (m, bs) ∈ routes) : ((pairs routes).filter (fun c => c.1 = m)).map (·.2) = bs := by
  rw [filter_pairs, filter_key_eq_singleton (·.1) hd hm, pairs_cons, pairs_nil, List.append_nil,
    List.map_map]
  exact List.map_id' bs

/-- A group is told from others by its name and its route. -/
theorem key_eq_of_toHttpRoute_eq {g' : RuleGroup} {key' : GroupKey} (hns : key.ns = key'.ns)
    (hr : g.toHttpRoute key = g'.toHttpRoute key') : key = key' := by
  have hparents := congrArg HttpRoute.parents hr
  have hhosts := congrArg HttpRoute.hostnames hr
  simp only [toHttpRoute, ParentRef.gateway, List.cons.injEq, ParentRef.mk.injEq, and_true]
    at hparents hhosts
  obtain ⟨ns, className, host⟩ := key
  obtain ⟨ns', className', host'⟩ := key'
  obtain rfl : ns = ns' := hns
  obtain rfl : className = className' := hparents
  -- the hostnames tell whether there is a host, and which one
  by_cases h : host.isEmpty <;> by_cases h' : host'.isEmpty
  · rw [String.isEmpty_iff.mp h, String.isEmpty_iff.mp h']
  all_goals simp_all

end RuleGroup

/-! ### Default backends -/

namespace DefaultRoute

/-- Every default backend is placed or refused, once. -/
theorem perm_placed_refused (taken : List ObjectName) (bs : List DefaultRoute) :
    (placed taken bs ++ refused taken bs).Perm bs := by
  induction bs generalizing taken with
  | nil => exact .refl _
  | cons b bs ih =>
    unfold placed refused
    split
    case isTrue => exact List.perm_middle.trans ((ih taken).cons b)
    case isFalse => exact (ih _).cons b

@[simp] theorem uses_toHttpRoute (b : DefaultRoute) :
    b.toHttpRoute.uses b.routeName = [b.use] := rfl

end DefaultRoute

namespace Conversion

open Attachment

variable (options : ConversionOptions) (ingresses : List Ingress)

/-! ### Backends of a conversion -/

/-- The paths of the group of a key. -/
def pathSites (key : GroupKey) : List PathSite :=
  (ingresses.flatMap (Ingress.pathSites options)).filter fun p => p.key = key

theorem filterMap_pathSites (key : GroupKey) :
    (pathSites options ingresses key).filterMap (PathSite.routed? options) =
      ((ingresses.flatMap (Ingress.sites options)).filter fun s => s.key = key).flatMap
        (RuleSite.routed options) := by
  have hpaths : ingresses.flatMap (Ingress.pathSites options) =
      (ingresses.flatMap (Ingress.sites options)).flatMap RuleSite.pathSites := by
    rw [List.flatMap_assoc]
    rfl
  rw [pathSites, hpaths]
  induction ingresses.flatMap (Ingress.sites options) with
  | nil => rfl
  | cons s sites ih =>
    rw [List.flatMap_cons, List.filter_append, List.filterMap_append, ih]
    have hkey : ∀ p ∈ s.pathSites, p.key = s.key := fun p hp => by
      rw [PathSite.key, RuleSite.site_of_mem_pathSites hp]
    -- the paths of a rule are all in the group, or none of them is
    by_cases hs : s.key = key
    · rw [List.filter_cons_of_pos (by simpa using hs), List.flatMap_cons, RuleSite.routed_eq,
        List.filter_eq_self.mpr fun p hp => by simpa [hkey p hp] using hs]
    · rw [List.filter_cons_of_neg (by simpa using hs),
        List.filter_eq_nil_iff.mpr fun p hp => by simpa [hkey p hp] using hs]
      rfl

variable {options ingresses}

/-- **The backends of a group** are those of its paths that convert. -/
theorem perm_pairs_of_mem_groups {e : KeyedGroup} (he : e ∈ groups options ingresses) :
    (RuleGroup.pairs e.2.routes).Perm
      ((pathSites options ingresses e.1).filterMap (PathSite.routed? options)) := by
  rw [filterMap_pathSites]
  exact RuleGroup.pairs_of_ofSites (mem_groups_iff.mp he)

theorem perm_uses_of_mem_groups {e : KeyedGroup} (he : e ∈ groups options ingresses) :
    ((e.2.toHttpRoute e.1).uses e.routeName).Perm
      ((pathSites options ingresses e.1).filterMap (PathSite.use? options e.routeName)) := by
  rw [RuleGroup.uses_toHttpRoute]
  unfold PathSite.use?
  rw [← List.map_filterMap]
  exact (perm_pairs_of_mem_groups he).map _

variable (options ingresses)

/-- **The routes of a conversion**: those of the kept groups that have one, and of the placed
default backends. -/
theorem perm_routes_convert : (convert options ingresses).1.httpRoutes.entries.Perm
    (((keptGroups options ingresses).filter fun e => !e.2.routes.isEmpty).map
        (fun e => (e.routeName, e.2.toHttpRoute e.1)) ++
      (placedDefaults options ingresses).map fun b => (b.routeName, b.toHttpRoute)) := by
  have h := perm_httpRoutes_convert options ingresses
  rwa [attachments, routes_append, KeyedGroup.routes_map_attachment,
    DefaultRoute.routes_map_attachment] at h

/-- A group without a route has no backends. -/
theorem flatMap_uses_filter (es : List KeyedGroup) :
    (es.filter fun e => !e.2.routes.isEmpty).flatMap
        (fun e => (e.2.toHttpRoute e.1).uses e.routeName) =
      es.flatMap fun e => (e.2.toHttpRoute e.1).uses e.routeName := by
  induction es with
  | nil => rfl
  | cons e es ih =>
    rw [List.flatMap_cons, ← ih]
    cases he : e.2.routes with
    | nil =>
      -- the group is filtered out, and has no backends either
      have hnil : (e.2.toHttpRoute e.1).uses e.routeName = [] := by
        rw [RuleGroup.uses_toHttpRoute, he]
        rfl
      rw [hnil, List.nil_append, List.filter_cons_of_neg (by simp [he])]
    | cons r rest => rw [List.filter_cons_of_pos (by simp [he]), List.flatMap_cons]

/-- **The backends of a conversion**, one by one: those of the paths of the kept groups and of the
placed default backends. -/
theorem perm_uses_convert : (convert options ingresses).1.uses.Perm
    ((keptGroups options ingresses).flatMap (fun e =>
        (pathSites options ingresses e.1).filterMap (PathSite.use? options e.routeName)) ++
      (placedDefaults options ingresses).map DefaultRoute.use) := by
  have hroutes := (perm_routes_convert options ingresses).flatMap_right fun e => e.2.uses e.1
  rw [List.flatMap_append, List.flatMap_map, List.flatMap_map, flatMap_uses_filter] at hroutes
  refine hroutes.trans (.append ?_ ?_)
  · exact List.Perm.flatMap_left _ fun e he =>
      perm_uses_of_mem_groups (mem_groups_of_mem_keptGroups he)
  · rw [List.map_eq_flatMap]
    rfl

/-! ### Lots -/

/-- What becomes of a path at a field of an Ingress: it is one error of the Ingress, it is one of
the backends of its match in the route of its group, or its group is reported as a whole. -/
inductive PathLot (i : Ingress) (key : GroupKey) (field : FieldPath) (path : IngressPath) : Prop
  | failed (cause e : FieldError) (hpath : path.convert options = .error cause)
      (herror : (i.fieldErrors options).filter (·.isUnder field) = [e])
      (hobject : e.object = some i.ref)
  | routed (m : PathMatch) (b : BackendRef) (hpath : path.convert options = .ok (m, b))
      (herror : (i.fieldErrors options).filter (·.isUnder field) = [])
      (g : RuleGroup) (hkept : (key, g) ∈ keptGroups options ingresses)
      (hreported : ∀ r ∈ reportedGroups options ingresses, r.1.1 ≠ key)
      (hroute : (convert options ingresses).1.httpRoutes.find? (g.routeName key) =
        some (g.toHttpRoute key))
      (bs : List BackendRef)
      (hrule : (g.toHttpRoute key).rules.filter (m ∈ ·.pathMatches) = [⟨[m], bs⟩])
      (hb : b ∈ bs)
      (hbs : bs.Perm ((((pathSites options ingresses key).filterMap
        (PathSite.routed? options)).filter (·.1 = m)).map (·.2)))
  | reported (m : PathMatch) (b : BackendRef) (hpath : path.convert options = .ok (m, b))
      (herror : (i.fieldErrors options).filter (·.isUnder field) = [])
      (g : RuleGroup) (message : String)
      (hreported : (reportedGroups options ingresses).filter (·.1.1 = key) = [((key, g), message)])
      (hkept : ∀ e ∈ keptGroups options ingresses, e.1 ≠ key)
      (hroute : (g.routeName key, g.toHttpRoute key) ∉
        (convert options ingresses).1.httpRoutes.entries)

/-- What becomes of the default backend of an Ingress: it is one error, of the Ingress or for its
route name, or it is the one backend of a route of its own. -/
inductive DefaultLot (i : Ingress) (backend : IngressBackend) : Prop
  | failed (cause e : FieldError) (hbackend : backend.toBackendRef = .error cause)
      (herror : (i.fieldErrors options).filter (·.isUnder Ingress.defaultBackendPath) = [e])
      (hobject : e.object = some i.ref) (hroute : i.defaultRoute? options = none)
  | placed (b : DefaultRoute) (hbackend : backend.toBackendRef = .ok b.backend)
      (herror : (i.fieldErrors options).filter (·.isUnder Ingress.defaultBackendPath) = [])
      (hroute : i.defaultRoute? options = some b) (hplaced : b ∈ placedDefaults options ingresses)
      (hfind : (convert options ingresses).1.httpRoutes.find? b.routeName = some b.toHttpRoute)
  | refused (b : DefaultRoute) (hbackend : backend.toBackendRef = .ok b.backend)
      (herror : (i.fieldErrors options).filter (·.isUnder Ingress.defaultBackendPath) = [])
      (hroute : i.defaultRoute? options = some b) (hrefused : b ∈ refusedDefaults options ingresses)
      (hreport : b.report ∈ (convert options ingresses).2) (hobject : b.report.object = some i.ref)
      (hunder : b.report.isUnder Ingress.defaultBackendPath = true)

variable {options ingresses}

/-- No kept group has the key of a reported group. -/
theorem ne_of_mem_kept_of_mem_reported {e : KeyedGroup} {r : KeyedGroup × String}
    (he : e ∈ keptGroups options ingresses) (hr : r ∈ reportedGroups options ingresses) :
    r.1.1 ≠ e.1 := by
  have hd := List.disjoint_of_nodup_append (nodup_keys_kept_reported options ingresses)
  intro hk
  exact hd (List.mem_map_of_mem he) (hk ▸ List.mem_map.mpr ⟨r, hr, rfl⟩)

/-- The backends of one match in a group. -/
theorem perm_backends_of_mem_groups {e : KeyedGroup} (he : e ∈ groups options ingresses)
    {m : PathMatch} {bs : List BackendRef} (hm : (m, bs) ∈ e.2.routes) :
    (e.2.toHttpRoute e.1).rules.filter (m ∈ ·.pathMatches) = [⟨[m], bs⟩] ∧
      bs.Perm ((((pathSites options ingresses e.1).filterMap
        (PathSite.routed? options)).filter (·.1 = m)).map (·.2)) := by
  have hd : (e.2.routes.map (·.1)).Nodup := by
    have hnil : (([] : List (PathMatch × List BackendRef)).map (·.1)).Nodup := List.nodup_nil
    rw [RuleGroup.routes_of_ofSites (mem_groups_iff.mp he)]
    exact RuleGroup.nodup_matches_addBackends hnil _
  constructor
  · have hp : (fun rule : RouteRule => decide (m ∈ rule.pathMatches)) ∘
        (fun r : PathMatch × List BackendRef => (⟨[r.1], r.2⟩ : RouteRule)) =
          fun r => decide (r.1 = m) := by
      funext r
      simp [eq_comm]
    rw [RuleGroup.toHttpRoute, List.filter_map, hp, filter_key_eq_singleton (·.1) hd hm]
    rfl
  · -- the pairs of one match, on both sides
    have hb := ((perm_pairs_of_mem_groups he).filter fun c => c.1 = m).map (·.2)
    rwa [RuleGroup.backends_of_mem hd hm] at hb

/-- The route of a reported group that has one is not there. -/
theorem notMem_httpRoutes_of_mem_reported {e : KeyedGroup} {message : String}
    (he : (e, message) ∈ reportedGroups options ingresses) (hne : e.2.routes ≠ []) :
    (e.routeName, e.2.toHttpRoute e.1) ∉ (convert options ingresses).1.httpRoutes.entries := by
  rw [mem_httpRoutes_convert_iff]
  rintro (⟨e', he', -, hn, hr⟩ | ⟨b, -, -, hr⟩)
  · have hkey := RuleGroup.key_eq_of_toHttpRoute_eq (congrArg ObjectName.ns hn) hr
    exact ne_of_mem_kept_of_mem_reported he' he hkey
  · -- the rule of a default backend has no match
    have hrules := congrArg HttpRoute.rules hr
    cases hroutes : e.2.routes with
    | nil => exact hne hroutes
    | cons r rest => simp [RuleGroup.toHttpRoute, DefaultRoute.toHttpRoute, hroutes] at hrules

variable {i : Ingress}

/-- **Every path has its lot.** -/
theorem pathLot (hi : i ∈ ingresses) {n : Nat} {rule : IngressRule} (hn : i.rules[n]? = some rule)
    {j : Nat} {path : IngressPath} (hj : (rule.paths.getD [])[j]? = some path) :
    PathLot options ingresses i (i.keyOf options rule)
      (Ingress.pathField n j) path := by
  let p : PathSite := ⟨i.siteOf options n rule, j, path⟩
  have hp : p ∈ i.pathSites options := i.mem_pathSites options hn hj
  have herrors := Ingress.filter_fieldErrors_field hp
  cases hpath : path.convert options with
  | error cause =>
    have he : p.error? options = some ((cause.under p.field).ofObject i.ref) :=
      PathSite.error?_eq_some_iff.mpr ⟨cause, hpath, rfl⟩
    rw [he] at herrors
    exact .failed cause _ hpath herrors (PathSite.object_of_error? he)
  | ok c =>
    -- the path converts: it is one of the backends of its group, which has a lot as a whole
    obtain ⟨m, b⟩ := c
    have he : p.error? options = none := by simp only [PathSite.error?, p, hpath]
    rw [he] at herrors
    obtain ⟨g, hg⟩ := exists_mem_groups (Ingress.mem_flatMap_sites options hi hn)
    have hrouted : (m, b) ∈ (pathSites options ingresses (i.keyOf options rule)).filterMap
        (PathSite.routed? options) := by
      refine List.mem_filterMap.mpr ⟨p, ?_, ?_⟩
      · refine List.mem_filter.mpr ⟨List.mem_flatMap.mpr ⟨i, hi, hp⟩, ?_⟩
        exact decide_eq_true rfl
      · simp only [PathSite.routed?, p, hpath]
        rfl
    obtain ⟨bs, hbs, hb⟩ :=
      RuleGroup.mem_pairs.mp ((perm_pairs_of_mem_groups hg).mem_iff.mpr hrouted)
    have hne : g.routes ≠ [] := List.ne_nil_of_mem hbs
    obtain ⟨hrule, hperm⟩ := perm_backends_of_mem_groups hg hbs
    rcases mem_kept_or_reported hg with hkept | ⟨message, hreported⟩
    · refine .routed m b hpath herrors g hkept
        (fun r hr => ne_of_mem_kept_of_mem_reported hkept hr) ?_ bs hrule hb hperm
      rw [OrderedMap.find?_eq_some_iff, mem_httpRoutes_convert_iff]
      exact .inl ⟨_, hkept, hne, rfl, rfl⟩
    · refine .reported m b hpath herrors g message ?_
        (fun e he => (ne_of_mem_kept_of_mem_reported he hreported).symm)
        (notMem_httpRoutes_of_mem_reported hreported hne)
      have hd := (List.nodup_append.mp (nodup_keys_kept_reported options ingresses)).2.1
      exact filter_key_eq_singleton (fun r : KeyedGroup × String => r.1.1) hd hreported

/-- **Every default backend has its lot.** -/
theorem defaultLot (hi : i ∈ ingresses) {backend : IngressBackend}
    (hbackend : i.defaultBackend? = some backend) : DefaultLot options ingresses i backend := by
  have herrors := Ingress.filter_fieldErrors_defaultBackendPath options i
  cases hr : backend.toBackendRef with
  | error cause =>
    have he : i.defaultError? options =
        some ((cause.under Ingress.defaultBackendPath).ofObject i.ref) :=
      Ingress.defaultError?_eq_some_iff.mpr ⟨backend, hbackend, cause, hr, rfl⟩
    rw [he] at herrors
    refine .failed cause _ hr herrors
      (FieldError.ofObject_object (IngressBackend.object_of_error hr) _ _) ?_
    rw [Ingress.defaultRoute?, Ingress.defaultConversion, hbackend, Option.map_some, hr]
    rfl
  | ok r =>
    let b : DefaultRoute := ⟨i.objectName, i.conversionClass options, r⟩
    have hc : i.defaultConversion options = some (.ok b) := by
      rw [Ingress.defaultConversion, hbackend, Option.map_some, hr]
      rfl
    rw [Ingress.defaultError?, hc] at herrors
    have hroute : i.defaultRoute? options = some b := by
      rw [Ingress.defaultRoute?, hc]
      rfl
    have hmem : b ∈ defaultRoutes options ingresses := List.mem_filterMap.mpr ⟨i, hi, hroute⟩
    rcases List.mem_append.mp ((DefaultRoute.perm_placed_refused _ _).mem_iff.mpr hmem) with hb | hb
    · refine .placed b hr herrors hroute hb ?_
      rw [OrderedMap.find?_eq_some_iff, mem_httpRoutes_convert_iff]
      exact .inr ⟨b, hb, rfl, rfl⟩
    · refine .refused b hr herrors hroute hb ?_ rfl ?_
      · rw [errors_convert]
        exact List.mem_append_right _ (List.mem_append_right _ (List.mem_map_of_mem hb))
      · rw [FieldError.isUnder_iff]
        exact List.prefix_append _ _

/-! ### Errors under one field -/

/-- The conflicts of a conversion are not under the field of a path. -/
theorem isUnder_pathField_conflict {e : FieldError}
    (he : e ∈ (reportedGroups options ingresses).map (fun r => r.1.report r.2) ++
      (refusedDefaults options ingresses).map DefaultRoute.report) (n j : Nat) :
    e.isUnder (Ingress.pathField n j) = false := by
  -- the paths of conflicts are too short
  have hlength : e.path.length < (Ingress.pathField n j).length := by
    rcases List.mem_append.mp he with he | he <;> obtain ⟨x, -, rfl⟩ := List.mem_map.mp he
    · simp [KeyedGroup.report, FieldError.here, Ingress.pathField]
    · simp [DefaultRoute.report, FieldError.here, Ingress.defaultBackendPath, Ingress.pathField]
  by_contra hunder
  have hprefix := (FieldError.isUnder_iff _).mp (eq_true_of_ne_false hunder)
  exact absurd hprefix.length_le (by omega)

/-- The errors that name an Ingress are those of the Ingresses of its name. -/
theorem filter_flatMap_fieldErrors (ref : ObjectRef) (field : FieldPath) :
    (ingresses.flatMap (Ingress.fieldErrors options)).filter
        (fun e => e.object = some ref ∧ e.isUnder field = true) =
      (ingresses.filter fun i => i.ref = ref).flatMap fun i =>
        (i.fieldErrors options).filter (·.isUnder field) := by
  induction ingresses with
  | nil => rfl
  | cons i ingresses ih =>
    rw [List.flatMap_cons, List.filter_append, ih]
    by_cases hi : i.ref = ref
    · rw [List.filter_cons_of_pos (by simpa using hi), List.flatMap_cons]
      congr 1
      exact List.filter_congr fun e he => by simp [Ingress.object_of_mem_fieldErrors he, hi]
    · rw [List.filter_cons_of_neg (by simpa using hi), List.filter_eq_nil_iff.mpr fun e he => by
        simp [Ingress.object_of_mem_fieldErrors he, hi]]
      rfl

/-- Under the field of a path, only the Ingresses of a name have errors that name it. -/
theorem filter_errors_convert (ref : ObjectRef) (n j : Nat) :
    (convert options ingresses).2.filter
        (fun e => e.object = some ref ∧ e.isUnder (Ingress.pathField n j) = true) =
      (ingresses.filter fun i => i.ref = ref).flatMap fun i =>
        (i.fieldErrors options).filter (·.isUnder (Ingress.pathField n j)) := by
  have hconflicts : ((reportedGroups options ingresses).map (fun r => r.1.report r.2) ++
      (refusedDefaults options ingresses).map DefaultRoute.report).filter
        (fun e => e.object = some ref ∧ e.isUnder (Ingress.pathField n j) = true) = [] :=
    List.filter_eq_nil_iff.mpr fun e he => by simp [isUnder_pathField_conflict he]
  rw [errors_convert, List.filter_append, hconflicts, List.append_nil, filter_flatMap_fieldErrors]

end Conversion

/-! ### The account of a conversion -/

open Conversion

/-- The account of a conversion: the lot of each path and default backend, and, counted with
multiplicity, all backends, all routes and all errors. -/
structure Accounted (options : ConversionOptions) (ingresses : List Ingress) : Prop where
  /-- Each path of each rule has its lot. -/
  paths : ∀ i ∈ ingresses, ∀ (n : Nat) (rule : IngressRule), i.rules[n]? = some rule →
    ∀ (j : Nat) (path : IngressPath), (rule.paths.getD [])[j]? = some path →
      PathLot options ingresses i (i.keyOf options rule) (Ingress.pathField n j) path
  /-- The backends are those of the paths of kept groups and of placed default backends. -/
  uses : (convert options ingresses).1.uses.Perm
    ((keptGroups options ingresses).flatMap (fun e =>
        (pathSites options ingresses e.1).filterMap (PathSite.use? options e.routeName)) ++
      (placedDefaults options ingresses).map DefaultRoute.use)
  /-- The routes are those of kept groups and of placed default backends. -/
  routes : (convert options ingresses).1.httpRoutes.entries.Perm
    (((keptGroups options ingresses).filter fun e => !e.2.routes.isEmpty).map
        (fun e => (e.routeName, e.2.toHttpRoute e.1)) ++
      (placedDefaults options ingresses).map fun b => (b.routeName, b.toHttpRoute))
  /-- No two groups, kept or reported, have one key. -/
  groups : ((keptGroups options ingresses).map (·.1) ++
    (reportedGroups options ingresses).map (·.1.1)).Nodup
  /-- Each default backend has its lot. -/
  defaults : ∀ i ∈ ingresses, ∀ backend, i.defaultBackend? = some backend →
    DefaultLot options ingresses i backend
  /-- Each default backend that converts is placed or refused, once. -/
  placed : (placedDefaults options ingresses ++ refusedDefaults options ingresses).Perm
    (ingresses.filterMap (Ingress.defaultRoute? options))
  /-- The errors are those of each Ingress, one for each reported group, and one for each default
  backend that is refused. -/
  errors : (convert options ingresses).2 =
    ingresses.flatMap (Ingress.fieldErrors options) ++
      ((reportedGroups options ingresses).map (fun r => r.1.report r.2) ++
        (refusedDefaults options ingresses).map DefaultRoute.report)
  /-- The errors of an Ingress are one for each path that does not convert, and one for the default
  backend if that does not convert. -/
  fieldErrors : ∀ i ∈ ingresses, i.fieldErrors options =
    (i.pathSites options).filterMap (PathSite.error? options) ++ (i.defaultError? options).toList
  /-- The errors that name an Ingress under the field of a path are those of the Ingresses of its
  name. -/
  named : ∀ i ∈ ingresses, ∀ n j, (convert options ingresses).2.filter
      (fun e => e.object = some i.ref ∧ e.isUnder (Ingress.pathField n j) = true) =
    (ingresses.filter fun i' => i'.ref = i.ref).flatMap fun i' =>
      (i'.fieldErrors options).filter (·.isUnder (Ingress.pathField n j))

/-- **No path is lost**, dropped in silence or counted twice, whatever the Ingresses, the default
class and the match for paths left to the provider. -/
theorem accounted_convert (options : ConversionOptions) (ingresses : List Ingress) :
    Accounted options ingresses where
  paths _ hi _ _ hn _ _ hj := pathLot hi hn hj
  uses := perm_uses_convert options ingresses
  routes := perm_routes_convert options ingresses
  groups := nodup_keys_kept_reported options ingresses
  defaults _ hi _ hbackend := defaultLot hi hbackend
  placed := DefaultRoute.perm_placed_refused _ _
  errors := errors_convert options ingresses
  fieldErrors i _ := i.fieldErrors_eq options
  named i _ := filter_errors_convert i.ref

end GatewayMigration
