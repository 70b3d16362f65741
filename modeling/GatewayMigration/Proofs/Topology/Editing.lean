import GatewayMigration.Proofs.OrderedMap
import GatewayMigration.Proofs.Topology.Listeners
import Mathlib.Data.List.Induction

/-!
# Topologies that are built by hand

A topology is built by changes, each at the name of one Gateway or Service. What stands at a name in
the end depends on the changes at that name alone. A Gateway goes back to the last change that put
it there: it has that class, and since then the first listener of each name and the last settings
that were given. A Service has the last settings that were given to it. A change without settings
takes none away.

## Main definitions

* `Topology.make`, `Topology.ofChanges`: a change at an object name, and a run of changes
* `Topology.Edit.onGateway`, `Topology.Edit.onService`: what a change makes of what stands at its
  name
* `Gateway.MadeBy`: a Gateway that goes back to the changes since it was put there
* `Topology.BuiltBy`: what stands at a name after a run of changes

## Main results

* `Topology.find?_gateways_make`, `Topology.find?_services_make`: a change is seen at its name only
* `Topology.find?_gateways_ofChanges`, `Topology.find?_services_ofChanges`: a run at a name is the
  run of the changes at that name
* `Gateway.MadeBy.concat`: one more change of a Gateway
* `Topology.builtBy_ofChanges`: what stands at any name after any run of changes
-/

namespace GatewayMigration

/-! ### Changes of one Gateway or Service -/

namespace Topology.Edit

/-- What a change makes of the Gateway at its name. -/
def onGateway : Edit → Option Gateway → Option Gateway
  | newGateway className, _ => some (.ofClass className)
  | addListener l, g => g.map (·.addListener l)
  | extendGateway gce, g => g.map (·.extend gce)
  | extendService _, g => g

/-- What a change makes of what is added to the Service at its name. -/
def onService : Edit → Option ServiceExtension → Option ServiceExtension
  | extendService gce, s => some ⟨gce.or (s.bind (·.gce))⟩
  | newGateway _, s | addListener _, s | extendGateway _, s => s

/-- The listener that a change adds. -/
def listener? : Edit → Option Listener
  | addListener l => some l
  | newGateway _ | extendGateway _ | extendService _ => none

/-- The settings that a change gives to a Gateway. -/
def gatewaySettings? : Edit → Option Gce.GatewaySettings
  | extendGateway gce => gce
  | newGateway _ | addListener _ | extendService _ => none

/-- The settings that a change gives to a Service. -/
def serviceSettings? : Edit → Option Gce.ServiceSettings
  | extendService gce => gce
  | newGateway _ | addListener _ | extendGateway _ => none

end Topology.Edit

namespace Gateway

theorem gce?_addListener (g : Gateway) (l : Listener) : (g.addListener l).gce? = g.gce? := by
  unfold addListener
  split <;> rfl

theorem className_addListener (g : Gateway) (l : Listener) :
    (g.addListener l).className = g.className := by
  unfold addListener
  split <;> rfl

/-- Settings replace those before, and no settings leave them. -/
theorem gce?_extend (g : Gateway) (gce : Option Gce.GatewaySettings) :
    (g.extend gce).gce? = gce.or g.gce? := by
  unfold extend gce?
  cases g.extension <;> rfl

/-- One more listener is added unless the name of one that was added before is its own. -/
theorem listeners_addListener_of_eq {g : Gateway} {ls : List Listener}
    (h : g.listeners = ls.eraseDupsBy fun l l' => l.name == l'.name) (l : Listener) :
    (g.addListener l).listeners = (ls ++ [l]).eraseDupsBy fun l l' => l.name == l'.name := by
  -- the listeners of a new Gateway to which these are added
  have hnew : ∀ ls : List Listener, ((ofClass "").addListeners ls).listeners =
      ls.eraseDupsBy fun l l' => l.name == l'.name := by
    intro ls
    simp [listeners_addListeners, ofClass]
  rw [← hnew, addListeners_append, addListeners_cons, addListeners_nil, listeners_addListener,
    listeners_addListener, hnew, h]

/-- A Gateway that goes back to the changes since it was put there. -/
structure MadeBy (className : String) (since : List Topology.Edit) (g : Gateway) : Prop where
  className : g.className = className
  /-- It has the listeners that were added, the first one of each name, in the order in which they
  were added. -/
  listeners : g.listeners =
    (since.filterMap Topology.Edit.listener?).eraseDupsBy fun l l' => l.name == l'.name
  /-- It has the last settings that were given. -/
  gce : g.gce? = (since.filterMap Topology.Edit.gatewaySettings?).getLast?

theorem madeBy_ofClass (className : String) : MadeBy className [] (ofClass className) :=
  ⟨rfl, rfl, rfl⟩

/-- **One more change of a Gateway.** -/
theorem MadeBy.concat {className : String} {since : List Topology.Edit} {g : Gateway}
    (h : MadeBy className since g) {e : Topology.Edit} (he : ∀ c, e ≠ .newGateway c) :
    ∃ g', e.onGateway (some g) = some g' ∧ MadeBy className (since ++ [e]) g' := by
  cases e with
  | newGateway c => exact absurd rfl (he c)
  | addListener l =>
    refine ⟨g.addListener l, rfl, ?_, ?_, ?_⟩
    · rw [className_addListener, h.className]
    · rw [List.filterMap_append]
      exact listeners_addListener_of_eq h.listeners l
    · rw [gce?_addListener, getLast?_filterMap_concat, h.gce]
      rfl
  | extendGateway gce =>
    refine ⟨g.extend gce, rfl, h.className, ?_, ?_⟩
    · rw [List.filterMap_append, List.filterMap_cons_none rfl, List.filterMap_nil, List.append_nil]
      exact h.listeners
    · rw [gce?_extend, getLast?_filterMap_concat, h.gce]
      rfl
  | extendService gce =>
    refine ⟨g, rfl, h.className, ?_, ?_⟩
    · rw [List.filterMap_append, List.filterMap_cons_none rfl, List.filterMap_nil, List.append_nil]
      exact h.listeners
    · rw [getLast?_filterMap_concat, h.gce]
      rfl

/-- **A Gateway goes back to the changes since it was put there.** -/
theorem madeBy_foldl {className : String} {since : List Topology.Edit}
    (hsince : ∀ c, Topology.Edit.newGateway c ∉ since) :
    ∃ g, since.foldl (fun g e => e.onGateway g) (some (ofClass className)) = some g ∧
      MadeBy className since g := by
  -- from the end, where the last listener and the last settings are
  induction since using List.reverseRecOn with
  | nil => exact ⟨_, rfl, madeBy_ofClass className⟩
  | append_singleton since e ih =>
    obtain ⟨g, hg, hmade⟩ := ih fun c hc => hsince c (List.mem_append_left _ hc)
    obtain ⟨g', hg', hmade'⟩ := hmade.concat (e := e) fun c he =>
      hsince c (he ▸ List.mem_append_right _ (List.mem_singleton_self _))
    refine ⟨g', ?_, hmade'⟩
    rw [List.foldl_append, hg]
    exact hg'

end Gateway

namespace Topology

/-! ### Changes and runs of changes -/

/-- Make a change at an object name. A change that needs a Gateway that is not there changes
nothing. -/
def make (t : Topology) (key : ObjectName) (e : Edit) : Topology := (t.edit? key e).getD t

/-- The topology of changes that are made one after the other. -/
def ofChanges (changes : List (ObjectName × Edit)) : Topology :=
  changes.foldl (fun t c => t.make c.1 c.2) ∅

/-- The changes at an object name, in their order. -/
def changesAt (key : ObjectName) (changes : List (ObjectName × Edit)) : List Edit :=
  changes.filterMap fun c => if c.1 = key then some c.2 else none

@[simp] theorem changesAt_nil (key : ObjectName) : changesAt key [] = [] := rfl

theorem changesAt_append (key : ObjectName) (changes changes' : List (ObjectName × Edit)) :
    changesAt key (changes ++ changes') = changesAt key changes ++ changesAt key changes' :=
  List.filterMap_append

theorem changesAt_cons_self (key : ObjectName) (e : Edit) (changes : List (ObjectName × Edit)) :
    changesAt key ((key, e) :: changes) = e :: changesAt key changes := by
  simp [changesAt]

theorem changesAt_cons_of_ne {key key' : ObjectName} (h : key' ≠ key) (e : Edit)
    (changes : List (ObjectName × Edit)) :
    changesAt key ((key', e) :: changes) = changesAt key changes := by
  simp [changesAt, h]

theorem mem_changesAt {key : ObjectName} {changes : List (ObjectName × Edit)} {e : Edit} :
    e ∈ changesAt key changes ↔ (key, e) ∈ changes := by
  unfold changesAt
  rw [List.mem_filterMap]
  constructor
  · rintro ⟨⟨key', e'⟩, hc, he⟩
    split at he
    case isTrue h =>
      cases he
      rwa [← h]
    case isFalse => cases he
  · intro hc
    exact ⟨_, hc, if_pos rfl⟩

/-- Only a Gateway that is there can be changed. -/
theorem find?_gateways_adjust (t : Topology) (key : ObjectName) (f : Gateway → Gateway)
    (key' : ObjectName) :
    ((if t.gateways.contains key then some { t with gateways := t.gateways.adjust key f }
        else none).getD t).gateways.find? key' =
      if key' = key then (t.gateways.find? key).map f else t.gateways.find? key' := by
  split
  case isTrue => exact OrderedMap.find?_adjust _ _ _ _
  case isFalse h =>
    rw [Option.getD_none]
    split
    case isTrue hkey =>
      rw [Bool.not_eq_true, OrderedMap.contains_eq_false_iff] at h
      rw [hkey, h, Option.map_none]
    case isFalse => rfl

/-- **A change is seen at its name only**: the Gateways. -/
theorem find?_gateways_make (t : Topology) (key : ObjectName) (e : Edit) (key' : ObjectName) :
    (t.make key e).gateways.find? key' =
      if key' = key then e.onGateway (t.gateways.find? key) else t.gateways.find? key' := by
  cases e with
  | newGateway className => exact OrderedMap.find?_insert _ _ _ _
  | addListener l => exact t.find?_gateways_adjust key _ key'
  | extendGateway gce => exact t.find?_gateways_adjust key _ key'
  | extendService gce =>
    show t.gateways.find? key' = _
    split
    case isTrue hkey => rw [hkey, Edit.onGateway]
    case isFalse => rfl

/-- No change of a Gateway is one of a Service. -/
theorem services_make (t : Topology) (key : ObjectName) {e : Edit}
    (he : ∀ gce, e ≠ .extendService gce) : (t.make key e).services = t.services := by
  cases e with
  | newGateway className => rfl
  | addListener l =>
    unfold make edit?
    dsimp only
    split <;> rfl
  | extendGateway gce =>
    unfold make edit?
    dsimp only
    split <;> rfl
  | extendService gce => exact absurd rfl (he gce)

/-- **A change is seen at its name only**: the Services. -/
theorem find?_services_make (t : Topology) (key : ObjectName) (e : Edit) (key' : ObjectName) :
    (t.make key e).services.find? key' =
      if key' = key then e.onService (t.services.find? key) else t.services.find? key' := by
  have hsame : t.services.find? key' =
      if key' = key then t.services.find? key else t.services.find? key' := by
    split
    case isTrue hkey => rw [hkey]
    case isFalse => rfl
  cases e with
  | newGateway className => exact hsame
  | addListener l => rwa [services_make t key (by simp)]
  | extendGateway gce => rwa [services_make t key (by simp)]
  | extendService gce => exact OrderedMap.find?_upsert _ _ _ _

/-- **A run at a name is the run of the changes at that name**, for all that a change is seen of at
its name only. -/
theorem find_ofChanges {α : Type} (find : Topology → ObjectName → Option α)
    {on : Edit → Option α → Option α} (hempty : ∀ key, find ∅ key = none)
    (hmake : ∀ t key e key', find (t.make key e) key' =
      if key' = key then on e (find t key) else find t key')
    (changes : List (ObjectName × Edit)) (key : ObjectName) :
    find (ofChanges changes) key = (changesAt key changes).foldl (fun v e => on e v) none := by
  induction changes using List.reverseRecOn with
  | nil => exact hempty key
  | append_singleton changes c ih =>
    obtain ⟨key', e⟩ := c
    have hstep : ofChanges (changes ++ [(key', e)]) = (ofChanges changes).make key' e :=
      List.foldl_append
    rw [hstep, hmake, changesAt_append]
    by_cases hkey : key' = key
    · subst hkey
      rw [if_pos rfl, ih, changesAt_cons_self, changesAt_nil, List.foldl_concat]
    · rw [if_neg (Ne.symm hkey), ih, changesAt_cons_of_ne hkey, changesAt_nil, List.append_nil]

theorem find?_gateways_ofChanges (changes : List (ObjectName × Edit)) (key : ObjectName) :
    (ofChanges changes).gateways.find? key =
      (changesAt key changes).foldl (fun g e => e.onGateway g) none :=
  find_ofChanges (fun t => t.gateways.find?) (fun _ => rfl) find?_gateways_make changes key

theorem find?_services_ofChanges (changes : List (ObjectName × Edit)) (key : ObjectName) :
    (ofChanges changes).services.find? key =
      (changesAt key changes).foldl (fun s e => e.onService s) none :=
  find_ofChanges (fun t => t.services.find?) (fun _ => rfl) find?_services_make changes key

/-! ### What stands at a name -/

/-- There is no Gateway where none was put. -/
theorem foldl_onGateway_none {edits : List Edit} (h : ∀ c, Edit.newGateway c ∉ edits) :
    edits.foldl (fun g e => e.onGateway g) none = none := by
  induction edits with
  | nil => rfl
  | cons e edits ih =>
    have hnone : e.onGateway none = none := by
      cases e with
      | newGateway c => exact absurd (List.mem_cons_self ..) (h c)
      | addListener l => rfl
      | extendGateway gce => rfl
      | extendService gce => rfl
    rw [List.foldl_cons, hnone]
    exact ih fun c hc => h c (List.mem_cons_of_mem _ hc)

/-- Settings replace those before, and no settings leave them. -/
theorem gce_onService (e : Edit) (s : Option ServiceExtension) :
    (e.onService s).bind (·.gce) = e.serviceSettings?.or (s.bind (·.gce)) := by
  cases e <;> rfl

/-- **A Service has the last settings that were given to it.** -/
theorem gce_foldl_onService (edits : List Edit) :
    (edits.foldl (fun s e => e.onService s) none).bind (·.gce) =
      (edits.filterMap Edit.serviceSettings?).getLast? := by
  induction edits using List.reverseRecOn with
  | nil => rfl
  | append_singleton edits e ih =>
    rw [List.foldl_concat, gce_onService, ih, getLast?_filterMap_concat]

/-- What stands at a name after a run of changes. -/
structure BuiltBy (changes : List (ObjectName × Edit)) (key : ObjectName) : Prop where
  /-- There is no Gateway where none was put. -/
  absent : (∀ c, (key, .newGateway c) ∉ changes) → (ofChanges changes).gateways.find? key = none
  /-- Otherwise the Gateway goes back to the last change that put it there. -/
  gateway : ∀ before className since, changes = before ++ (key, .newGateway className) :: since →
    (∀ c, (key, .newGateway c) ∉ since) → ∃ g, (ofChanges changes).gateways.find? key = some g ∧
      Gateway.MadeBy className (changesAt key since) g
  /-- The Service has the last settings that were given to it. -/
  service : ((ofChanges changes).services.find? key).bind (·.gce) =
    ((changesAt key changes).filterMap Edit.serviceSettings?).getLast?
  /-- One more change without settings takes none away. -/
  touched :
    (((ofChanges changes).make key (.extendGateway none)).gateways.find? key).bind Gateway.gce? =
        ((ofChanges changes).gateways.find? key).bind Gateway.gce? ∧
      (((ofChanges changes).make key (.extendService none)).services.find? key).bind (·.gce) =
        ((ofChanges changes).services.find? key).bind (·.gce)
  /-- One more change at another name leaves the Gateway and the Service as they are. -/
  elsewhere : ∀ key' e, key' ≠ key →
    ((ofChanges changes).make key' e).gateways.find? key = (ofChanges changes).gateways.find? key ∧
      ((ofChanges changes).make key' e).services.find? key = (ofChanges changes).services.find? key
  /-- One more change of a Service leaves all Gateways as they are, and one of a Gateway leaves all
  Services. -/
  apart : (∀ gce, ((ofChanges changes).make key (.extendService gce)).gateways =
      (ofChanges changes).gateways) ∧
    ∀ e, (∀ gce, e ≠ .extendService gce) →
      ((ofChanges changes).make key e).services = (ofChanges changes).services

/-- **What stands at any name after any run of changes.** -/
theorem builtBy_ofChanges (changes : List (ObjectName × Edit)) (key : ObjectName) :
    BuiltBy changes key where
  absent := by
    intro h
    rw [find?_gateways_ofChanges]
    exact foldl_onGateway_none fun c hc => h c (mem_changesAt.mp hc)
  gateway := by
    rintro before className since rfl hsince
    -- a new Gateway takes the place of whatever the changes before it have left
    rw [find?_gateways_ofChanges, changesAt_append, changesAt_cons_self, List.foldl_append,
      List.foldl_cons]
    exact Gateway.madeBy_foldl fun c hc => hsince c (mem_changesAt.mp hc)
  service := by
    rw [find?_services_ofChanges]
    exact gce_foldl_onService _
  touched := by
    rw [find?_gateways_make, if_pos rfl, find?_services_make, if_pos rfl, gce_onService]
    constructor
    · cases (ofChanges changes).gateways.find? key with
      | none => rfl
      | some g => exact g.gce?_extend none
    · rfl
  elsewhere := by
    intro key' e hkey
    rw [find?_gateways_make, find?_services_make, if_neg (Ne.symm hkey), if_neg (Ne.symm hkey)]
    exact ⟨rfl, rfl⟩
  apart := ⟨fun _ => rfl, fun _ he => services_make _ key he⟩

end Topology

end GatewayMigration
