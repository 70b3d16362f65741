import GatewayMigration.Proofs.RuleGroup.Gathering
import GatewayMigration.Proofs.Topology.Listeners

/-!
# Which groups and default backends are placed

A draft is determined by what has been attached to it: its routes are those of the attachments,
and each of its Gateways has the listeners that are attached to it, in order. So whether a group
is kept depends on the groups that were kept before it and on nothing else, and the topology of a
conversion is that of the kept groups and the placed default backends.

## Main definitions

* `Attachment`: the listeners and the route that a group or a default backend adds
* `KeyedGroup.clash?`: why a group cannot stand beside the groups that are kept already
* `KeyedGroup.kept`, `KeyedGroup.reported`: the groups that are kept, and the others
* `DefaultRoute.placed`, `DefaultRoute.refused`: the same for default backends
* `Draft.Settled`: a draft that has just what was attached to it
* `Conversion.attachments`: all that a conversion attaches

## Main results

* `Draft.Settled.foldl_place`, `Draft.Settled.foldl_placeDefault`: what a run over groups, or over
  default backends, attaches and reports
* `Conversion.perm_httpRoutes_convert`, `Conversion.find?_gateways_convert`: the routes and the
  Gateways of a conversion
* `Conversion.errors_convert`: the errors of a conversion
-/

namespace GatewayMigration

/-! ### Attachments -/

/-- What a group or a default backend adds to a topology: listeners of one Gateway, and at most
one route. -/
structure Attachment where
  gateway : ObjectName
  listeners : List Listener
  route? : Option (ObjectName × HttpRoute)

namespace Attachment

/-- The routes that are attached. -/
def routes (as : List Attachment) : List (ObjectName × HttpRoute) := as.filterMap (·.route?)

/-- The listeners that are attached to a Gateway. -/
def listenersAt (as : List Attachment) (name : ObjectName) : List Listener :=
  (as.filter fun a => a.gateway = name).flatMap (·.listeners)

/-- A Gateway, named after its class, with the listeners that are attached to it. -/
def gatewayAt (as : List Attachment) (name : ObjectName) : Gateway :=
  (Gateway.ofClass name.name).addListeners (listenersAt as name)

@[simp] theorem routes_append (as as' : List Attachment) :
    routes (as ++ as') = routes as ++ routes as' := List.filterMap_append

@[simp] theorem listenersAt_append (as as' : List Attachment) (name : ObjectName) :
    listenersAt (as ++ as') name = listenersAt as name ++ listenersAt as' name := by
  simp [listenersAt]

theorem mem_listenersAt {as : List Attachment} {name : ObjectName} {l : Listener} :
    l ∈ listenersAt as name ↔ ∃ a ∈ as, a.gateway = name ∧ l ∈ a.listeners := by
  simp [listenersAt, and_assoc]

theorem listenersAt_singleton (a : Attachment) (name : ObjectName) :
    listenersAt [a] name = if a.gateway = name then a.listeners else [] := by
  by_cases h : a.gateway = name <;> simp [listenersAt, h]

theorem listenersAt_eq_nil {as : List Attachment} {name : ObjectName}
    (h : ∀ a ∈ as, a.gateway ≠ name) : listenersAt as name = [] := by
  have hf : as.filter (fun a => a.gateway = name) = [] :=
    List.filter_eq_nil_iff.mpr fun a ha => by simpa using h a ha
  rw [listenersAt, hf, List.flatMap_nil]

theorem gatewayAt_append (as as' : List Attachment) (name : ObjectName) :
    gatewayAt (as ++ as') name = (gatewayAt as name).addListeners (listenersAt as' name) := by
  rw [gatewayAt, listenersAt_append, Gateway.addListeners_append, ← gatewayAt]

end Attachment

/-! ### Groups -/

/-- A group with its key. -/
abbrev KeyedGroup := GroupKey × RuleGroup

namespace KeyedGroup

/-- The Gateway of a group. -/
def gateway (e : KeyedGroup) : ObjectName := e.1.gateway

/-- The listeners of a group. -/
def listeners (e : KeyedGroup) : List Listener := e.2.listeners e.1.host

/-- The name of the route of a group. -/
def routeName (e : KeyedGroup) : ObjectName := e.2.routeName e.1

/-- A group without a path that converts has no route. -/
def attachment (e : KeyedGroup) : Attachment where
  gateway := e.gateway
  listeners := e.listeners
  route? := if e.2.routes.isEmpty then none else some (e.routeName, e.2.toHttpRoute e.1)

/-- The routes of groups that have one. -/
theorem routes_map_attachment (es : List KeyedGroup) :
    Attachment.routes (es.map attachment) =
      (es.filter fun e => !e.2.routes.isEmpty).map fun e => (e.routeName, e.2.toHttpRoute e.1) := by
  induction es with
  | nil => rfl
  | cons e es ih =>
    rw [List.map_cons, ← List.singleton_append, Attachment.routes_append, ih]
    by_cases he : e.2.routes.isEmpty <;> simp [Attachment.routes, attachment, he]

/-- The error that reports a group. -/
def report (e : KeyedGroup) (message : String) : FieldError :=
  ((FieldError.here .invalid message).under
    [.field "spec", .field "rules", .index e.2.ruleIndex, .field "host"]).ofObject
      (e.2.ingressRef e.1)

/-- Why a group cannot stand beside the groups that are kept: its route name is taken, or one of
its listener names is taken for another host. -/
def clash? (before : List KeyedGroup) (e : KeyedGroup) : Option String :=
  if !e.2.routes.isEmpty
      && (Attachment.routes (before.map attachment)).any (fun r => r.1 = e.routeName) then
    some (routeConflict e.routeName)
  else
    e.listeners.findSome? (Attachment.gatewayAt (before.map attachment) e.gateway).listenerConflict?

/-- The groups that are kept of those that follow the groups kept before. -/
def kept (before : List KeyedGroup) : List KeyedGroup → List KeyedGroup
  | [] => []
  | e :: rest =>
    if (clash? before e).isSome then kept before rest else e :: kept (before ++ [e]) rest

/-- The groups that are reported of those that follow the groups kept before, each with its
message. -/
def reported (before : List KeyedGroup) : List KeyedGroup → List (KeyedGroup × String)
  | [] => []
  | e :: rest =>
    match clash? before e with
    | some message => (e, message) :: reported before rest
    | none => reported (before ++ [e]) rest

end KeyedGroup

/-! ### Default backends -/

namespace DefaultRoute

/-- The Gateway of a default backend. -/
def gateway (b : DefaultRoute) : ObjectName := ⟨b.ingress.ns, b.className⟩

/-- The name of the route of a default backend. -/
def routeName (b : DefaultRoute) : ObjectName :=
  ⟨b.ingress.ns, b.ingress.name ++ "-default-backend"⟩

/-- The route of a default backend: one rule without matches. -/
def toHttpRoute (b : DefaultRoute) : HttpRoute :=
  { parents := [.gateway b.className], hostnames := [], rules := [⟨[], [b.backend]⟩] }

def attachment (b : DefaultRoute) : Attachment where
  gateway := b.gateway
  listeners := [.plain none]
  route? := some (b.routeName, b.toHttpRoute)

theorem routes_map_attachment (bs : List DefaultRoute) :
    Attachment.routes (bs.map attachment) = bs.map fun b => (b.routeName, b.toHttpRoute) := by
  rw [Attachment.routes, List.filterMap_map]
  exact congrFun List.filterMap_eq_map bs

/-- The error that reports a default backend. -/
def report (b : DefaultRoute) : FieldError :=
  ((FieldError.here .invalid (routeConflict b.routeName)).under Ingress.defaultBackendPath).ofObject
    ⟨"Ingress", b.ingress⟩

/-- The default backends that are placed when some route names are taken already. -/
def placed (taken : List ObjectName) : List DefaultRoute → List DefaultRoute
  | [] => []
  | b :: rest =>
    if b.routeName ∈ taken then placed taken rest else b :: placed (taken ++ [b.routeName]) rest

/-- The default backends whose route name is taken. -/
def refused (taken : List ObjectName) : List DefaultRoute → List DefaultRoute
  | [] => []
  | b :: rest =>
    if b.routeName ∈ taken then b :: refused taken rest else refused (taken ++ [b.routeName]) rest

end DefaultRoute

/-! ### Settled drafts -/

namespace Draft

open Attachment (routes gatewayAt)

/-- Add the listeners and the route of an attachment. -/
def attach (d : Draft) (a : Attachment) : Draft :=
  let d := d.listen a.gateway a.gateway.name a.listeners
  match a.route? with
  | none => d
  | some (name, r) => d.route name r

/-- A draft has just what was attached to it, and its Gateways have the given names. -/
structure Settled (d : Draft) (names : List ObjectName) (as : List Attachment) : Prop where
  perm_routes : d.topology.httpRoutes.entries.Perm (routes as)
  find?_gateways : ∀ name, d.topology.gateways.find? name =
    if name ∈ names then some (gatewayAt as name) else none
  gateway_mem : ∀ a ∈ as, a.gateway ∈ names

theorem settled_empty : empty.Settled [] [] := ⟨.refl _, fun _ => rfl, by simp⟩

namespace Settled

variable {d : Draft} {names : List ObjectName} {as : List Attachment}

theorem contains_iff (h : d.Settled names as) {name : ObjectName} :
    d.topology.httpRoutes.contains name = true ↔ name ∈ (routes as).map (·.1) := by
  rw [OrderedMap.contains_iff]
  constructor
  · rintro ⟨r, hr⟩
    exact List.mem_map.mpr ⟨_, h.perm_routes.mem_iff.mp hr, rfl⟩
  · intro hn
    obtain ⟨⟨_, r⟩, hr, rfl⟩ := List.mem_map.mp hn
    exact ⟨r, h.perm_routes.mem_iff.mpr hr⟩

/-- A Gateway that is not there yet has no listeners attached. -/
theorem gateway_eq (h : d.Settled names as) (name : ObjectName) :
    d.gateway name name.name = gatewayAt as name := by
  unfold gateway
  rw [h.find?_gateways]
  split
  case isTrue => rfl
  case isFalse hn =>
    have hl : Attachment.listenersAt as name = [] :=
      Attachment.listenersAt_eq_nil fun a ha he => hn (he ▸ h.gateway_mem a ha)
    rw [gatewayAt, hl]
    rfl

theorem find?_listen (h : d.Settled names as) (name name' : ObjectName) (ls : List Listener) :
    (d.listen name name.name ls).topology.gateways.find? name' =
      if name' ∈ names ++ [name] then
        some ((gatewayAt as name').addListeners (if name = name' then ls else []))
      else none := by
  have hg := h.gateway_eq name
  unfold gateway at hg
  simp only [listen, Topology.withGateway, OrderedMap.find?_upsert]
  by_cases hn : name' = name
  · subst hn
    simp [hg, Gateway.addListeners]
  · simp [hn, Ne.symm hn, h.find?_gateways]

/-- **An attachment** whose route name is free is added to what is attached. -/
theorem attach (h : d.Settled names as) (a : Attachment)
    (hr : ∀ r ∈ a.route?, r.1 ∉ (routes as).map (·.1)) :
    (d.attach a).Settled (names ++ [a.gateway]) (as ++ [a]) := by
  have hg : ∀ name, (d.attach a).topology.gateways.find? name =
      (d.listen a.gateway a.gateway.name a.listeners).topology.gateways.find? name := by
    intro name
    unfold Draft.attach
    cases a.route? <;> rfl
  refine ⟨?_, fun name => ?_, fun a' ha' => ?_⟩
  · -- the route goes to a free name, so no route is replaced
    unfold Draft.attach
    cases ha : a.route? with
    | none =>
      have hs : routes (as ++ [a]) = routes as := by simp [routes, ha]
      rw [hs]
      exact h.perm_routes
    | some r =>
      have hfree : d.topology.httpRoutes.find? r.1 = none := by
        rw [← OrderedMap.contains_eq_false_iff, ← Bool.not_eq_true, h.contains_iff]
        exact hr r ha
      have hs : routes (as ++ [a]) = routes as ++ [r] := by simp [routes, ha]
      rw [hs]
      exact ((OrderedMap.perm_entries_insert hfree r.2).trans (h.perm_routes.cons r)).trans
        (List.perm_append_singleton r _).symm
  · -- the listeners are added at the end of those that are there
    rw [hg, h.find?_listen, Attachment.gatewayAt_append, Attachment.listenersAt_singleton]
  · rcases List.mem_append.mp ha' with ha' | ha'
    · exact List.mem_append_left _ (h.gateway_mem a' ha')
    · rw [List.mem_singleton.mp ha']
      simp

/-- The Gateway of a reported group is there without its listeners. -/
theorem skip (h : d.Settled names as) (name : ObjectName) (e : FieldError) :
    ((d.listen name name.name []).report e).Settled (names ++ [name]) as := by
  refine ⟨h.perm_routes, fun name' => ?_, fun a ha => List.mem_append_left _ (h.gateway_mem a ha)⟩
  show (d.listen name name.name []).topology.gateways.find? name' = _
  rw [h.find?_listen]
  simp

end Settled

/-! ### Runs -/

variable {d : Draft} {names : List ObjectName}

namespace Settled

/-- The draft sees the same conflict as the groups that it is made of. -/
theorem conflict?_eq {before : List KeyedGroup}
    (h : d.Settled names (before.map KeyedGroup.attachment)) (e : KeyedGroup) :
    d.conflict? e.1 e.2 = KeyedGroup.clash? before e := by
  have hc : d.topology.httpRoutes.contains e.routeName =
      (routes (before.map KeyedGroup.attachment)).any (fun r => r.1 = e.routeName) := by
    rw [Bool.eq_iff_iff, h.contains_iff]
    simp
  unfold conflict? KeyedGroup.clash?
  show (if !e.2.routes.isEmpty && d.topology.httpRoutes.contains e.routeName then _ else _) = _
  rw [hc]
  have hg : d.gateway e.1.gateway e.1.className = gatewayAt _ e.1.gateway :=
    h.gateway_eq e.1.gateway
  rw [hg]
  rfl

/-- A group that does not clash is kept. -/
theorem place_of_none {before : List KeyedGroup}
    (h : d.Settled names (before.map KeyedGroup.attachment)) {e : KeyedGroup}
    (hc : KeyedGroup.clash? before e = none) : d.place e = d.attach e.attachment := by
  rw [← h.conflict?_eq] at hc
  by_cases he : e.2.routes.isEmpty <;>
    simp only [place, hc, he, KeyedGroup.attachment, if_true, if_false, Bool.false_eq_true]
      <;> rfl

/-- A group that clashes is reported. -/
theorem place_of_some {before : List KeyedGroup}
    (h : d.Settled names (before.map KeyedGroup.attachment)) {e : KeyedGroup} {message : String}
    (hc : KeyedGroup.clash? before e = some message) :
    d.place e = (d.listen e.gateway e.gateway.name []).report (e.report message) := by
  rw [← h.conflict?_eq] at hc
  simp only [place, hc]
  rfl

/-- A group that does not clash leaves a route name to itself. -/
theorem notMem_of_clash?_eq_none {before : List KeyedGroup} {e : KeyedGroup}
    (hc : KeyedGroup.clash? before e = none) :
    ∀ r ∈ e.attachment.route?, r.1 ∉ (routes (before.map KeyedGroup.attachment)).map (·.1) := by
  intro r hr hm
  unfold KeyedGroup.clash? at hc
  simp only [KeyedGroup.attachment] at hr
  split at hr
  case isTrue => cases hr
  case isFalse he =>
    obtain rfl := Option.some.inj hr
    obtain ⟨r', hr', he'⟩ := List.mem_map.mp hm
    rw [if_pos] at hc
    · cases hc
    · simp only [Bool.and_eq_true, List.any_eq_true]
      exact ⟨by simpa using he, r', hr', by simpa using he'⟩

/-- **A run over groups** attaches the groups that are kept and reports the others. -/
theorem foldl_place {before : List KeyedGroup}
    (h : d.Settled names (before.map KeyedGroup.attachment)) (es : List KeyedGroup) :
    (es.foldl place d).Settled (names ++ es.map (·.gateway))
        ((before ++ KeyedGroup.kept before es).map KeyedGroup.attachment) ∧
      (es.foldl place d).conflicts =
        d.conflicts ++ (KeyedGroup.reported before es).map fun r => r.1.report r.2 := by
  -- Induction on the groups left; the draft stays settled with what was kept up to there.
  induction es generalizing d names before with
  | nil => simpa [KeyedGroup.kept, KeyedGroup.reported] using h
  | cons e es ih =>
    rw [List.foldl_cons]
    cases hc : KeyedGroup.clash? before e with
    | none =>
      -- the group is kept: the rest runs after one more attachment
      rw [h.place_of_none hc]
      have ha : (d.attach e.attachment).Settled (names ++ [e.gateway])
          ((before ++ [e]).map KeyedGroup.attachment) := by
        rw [List.map_append]
        exact h.attach e.attachment (notMem_of_clash?_eq_none hc)
      obtain ⟨hs, hr⟩ := ih ha
      have hconf : (d.attach e.attachment).conflicts = d.conflicts := by
        unfold Draft.attach
        cases e.attachment.route? <;> rfl
      rw [hconf] at hr
      simp only [KeyedGroup.kept, KeyedGroup.reported, hc, Option.isSome_none, Bool.false_eq_true,
        if_false, List.map_cons, List.append_assoc, List.singleton_append] at hs ⊢
      exact ⟨hs, hr⟩
    | some message =>
      -- the group is reported: its Gateway is there, with nothing attached
      rw [h.place_of_some hc]
      obtain ⟨hs, hr⟩ := ih (h.skip e.gateway (e.report message))
      simp only [KeyedGroup.kept, KeyedGroup.reported, hc, Option.isSome_some, if_true,
        List.map_cons, List.append_assoc, List.singleton_append] at hs ⊢
      refine ⟨hs, hr.trans ?_⟩
      simp [report, listen]

theorem placeDefault_of_mem {as : List Attachment} (h : d.Settled names as) {b : DefaultRoute}
    (hb : b.routeName ∈ (routes as).map (·.1)) : d.placeDefault b = d.report b.report := by
  unfold placeDefault
  exact if_pos (h.contains_iff.mpr hb)

theorem placeDefault_of_notMem {as : List Attachment} (h : d.Settled names as) {b : DefaultRoute}
    (hb : b.routeName ∉ (routes as).map (·.1)) : d.placeDefault b = d.attach b.attachment := by
  unfold placeDefault
  exact if_neg fun hc => hb (h.contains_iff.mp hc)

/-- **A run over default backends** attaches those whose route name is free and reports the
others. -/
theorem foldl_placeDefault {as : List Attachment} (h : d.Settled names as)
    (bs : List DefaultRoute) :
    (bs.foldl placeDefault d).Settled
        (names ++ (DefaultRoute.placed ((routes as).map (·.1)) bs).map (·.gateway))
        (as ++ (DefaultRoute.placed ((routes as).map (·.1)) bs).map DefaultRoute.attachment) ∧
      (bs.foldl placeDefault d).conflicts =
        d.conflicts ++
          (DefaultRoute.refused ((routes as).map (·.1)) bs).map DefaultRoute.report := by
  -- Induction on the default backends left, as for groups.
  induction bs generalizing d names as with
  | nil => simpa [DefaultRoute.placed, DefaultRoute.refused] using h
  | cons b bs ih =>
    rw [List.foldl_cons]
    by_cases hb : b.routeName ∈ (routes as).map (·.1)
    · -- the route name is taken: only the report is new
      rw [h.placeDefault_of_mem hb]
      have hrep : (d.report b.report).Settled names as :=
        ⟨h.perm_routes, h.find?_gateways, h.gateway_mem⟩
      obtain ⟨hs, hr⟩ := ih hrep
      simp only [DefaultRoute.placed, DefaultRoute.refused, if_pos hb, List.map_cons]
      exact ⟨hs, hr.trans (by simp [report])⟩
    · -- the route name is free, and taken from here on
      rw [h.placeDefault_of_notMem hb]
      have ha := h.attach b.attachment fun r hr => by
        obtain rfl := Option.some.inj hr
        exact hb
      have hn : (routes (as ++ [b.attachment])).map (·.1) =
          (routes as).map (·.1) ++ [b.routeName] := by
        simp [routes, DefaultRoute.attachment]
      obtain ⟨hs, hr⟩ := ih ha
      rw [hn] at hs hr
      simp only [DefaultRoute.placed, DefaultRoute.refused, if_neg hb, List.map_cons,
        List.append_assoc, List.singleton_append] at hs ⊢
      exact ⟨hs, hr⟩

end Settled

end Draft

/-! ### Conversions -/

namespace Conversion

variable (options : ConversionOptions) (ingresses : List Ingress)

/-- The groups of a list of Ingresses, in the order of their keys. -/
def groups : List KeyedGroup :=
  (RuleGroup.gather options (ingresses.flatMap (Ingress.sites options))).entries

/-- The groups that are kept. -/
def keptGroups : List KeyedGroup := KeyedGroup.kept [] (groups options ingresses)

/-- The groups that are reported, each with its message. -/
def reportedGroups : List (KeyedGroup × String) :=
  KeyedGroup.reported [] (groups options ingresses)

/-- The default backends that convert. -/
def defaultRoutes : List DefaultRoute := ingresses.filterMap (Ingress.defaultRoute? options)

/-- The route names of the groups that are kept. -/
def takenNames : List ObjectName :=
  (Attachment.routes ((keptGroups options ingresses).map KeyedGroup.attachment)).map (·.1)

/-- The default backends that are placed. -/
def placedDefaults : List DefaultRoute :=
  DefaultRoute.placed (takenNames options ingresses) (defaultRoutes options ingresses)

/-- The default backends whose route name is taken. -/
def refusedDefaults : List DefaultRoute :=
  DefaultRoute.refused (takenNames options ingresses) (defaultRoutes options ingresses)

/-- All that a conversion attaches. -/
def attachments : List Attachment :=
  (keptGroups options ingresses).map KeyedGroup.attachment ++
    (placedDefaults options ingresses).map DefaultRoute.attachment

/-- The names of the Gateways of a conversion. -/
def gatewayNames : List ObjectName :=
  (groups options ingresses).map KeyedGroup.gateway ++
    (placedDefaults options ingresses).map DefaultRoute.gateway

/-- The draft of a conversion, with the groups and the default backends. -/
theorem settled_foldl_place :
    let d := (groups options ingresses).foldl Draft.place .empty
    d.Settled ((groups options ingresses).map KeyedGroup.gateway)
        ((keptGroups options ingresses).map KeyedGroup.attachment) ∧
      d.conflicts = (reportedGroups options ingresses).map fun r => r.1.report r.2 :=
  have h : Draft.empty.Settled [] (([] : List KeyedGroup).map KeyedGroup.attachment) :=
    Draft.settled_empty
  h.foldl_place (groups options ingresses)

/-- **The routes of a conversion** are those of the kept groups and the placed default
backends. -/
theorem perm_httpRoutes_convert :
    (convert options ingresses).1.httpRoutes.entries.Perm
      (Attachment.routes (attachments options ingresses)) :=
  ((settled_foldl_place options ingresses).1.foldl_placeDefault _).1.perm_routes

/-- **The Gateways of a conversion**: one for each class of a group, kept or not, and of each
placed default backend. -/
theorem find?_gateways_convert (name : ObjectName) :
    (convert options ingresses).1.gateways.find? name =
      if name ∈ gatewayNames options ingresses then
        some (Attachment.gatewayAt (attachments options ingresses) name)
      else none :=
  ((settled_foldl_place options ingresses).1.foldl_placeDefault _).1.find?_gateways name

/-- **The errors of a conversion**: the fields of each Ingress, the reported groups, and the
default backends whose route name is taken. -/
theorem errors_convert :
    (convert options ingresses).2 =
      ingresses.flatMap (Ingress.fieldErrors options) ++
        (((reportedGroups options ingresses).map fun r => r.1.report r.2) ++
          (refusedDefaults options ingresses).map DefaultRoute.report) := by
  obtain ⟨hs, hc⟩ := settled_foldl_place options ingresses
  have hd := (hs.foldl_placeDefault (defaultRoutes options ingresses)).2
  rw [hc] at hd
  exact congrArg (ingresses.flatMap (Ingress.fieldErrors options) ++ ·) hd

end Conversion

end GatewayMigration
