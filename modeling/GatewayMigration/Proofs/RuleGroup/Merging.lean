import GatewayMigration.Proofs.RuleGroup.Gathering
import GatewayMigration.Proofs.RuleGroup.Paths
import Mathlib.Data.List.Forall2
import Mathlib.Data.List.Induction

/-!
# Backends sorted by match

Backends are added to a group one by one, each to the backends of its match. What comes out is what
one gets from the whole list at once: the matches in the order in which they first occur, each with
its backends in their order. Whether two paths have one match is a question of what they are
translated to, and not of how they are written.

## Main definitions

* `RuleGroup.firstMatches`, `RuleGroup.backendsOf`: the matches of a list, and the backends of one
* `IngressBackend.Denotes`: the backend that an Ingress names, with the number of its port
* `PathSite.match?`: the match of a path that converts
* `Merges`: rules that are made from a list of paths

## Main results

* `RuleGroup.addBackend_map`, `RuleGroup.addBackends_eq`: one step of the sorting, and all steps
* `IngressBackend.toBackendRef_eq_ok_iff`: when a backend converts, and to what
* `merges_addBackends`: the rules of a group are made from its paths
-/

namespace GatewayMigration

/-! ### Sorting -/

namespace RuleGroup

/-- The matches of a list, each where it first occurs. -/
def firstMatches (l : List (PathMatch × BackendRef)) : List PathMatch := (l.map (·.1)).eraseDups

/-- The backends of a match, in their order and with repetitions. -/
def backendsOf (l : List (PathMatch × BackendRef)) (m : PathMatch) : List BackendRef :=
  (l.filter fun c => c.1 = m).map (·.2)

variable {l : List (PathMatch × BackendRef)} {m : PathMatch} {b : BackendRef}

theorem mem_firstMatches : m ∈ firstMatches l ↔ ∃ b, (m, b) ∈ l := by
  rw [firstMatches, List.mem_eraseDups, List.mem_map]
  constructor
  · rintro ⟨⟨m, b⟩, hc, rfl⟩
    exact ⟨b, hc⟩
  · rintro ⟨b, hb⟩
    exact ⟨_, hb, rfl⟩

theorem nodup_firstMatches (l : List (PathMatch × BackendRef)) : (firstMatches l).Nodup :=
  nodup_eraseDups _

theorem backendsOf_eq_nil_iff : backendsOf l m = [] ↔ m ∉ firstMatches l := by
  rw [mem_firstMatches, backendsOf, List.map_eq_nil_iff, List.filter_eq_nil_iff]
  constructor
  · rintro h ⟨b, hb⟩
    exact h _ hb (decide_eq_true rfl)
  · rintro h ⟨m', b⟩ hc hm
    obtain rfl := of_decide_eq_true hm
    exact h ⟨b, hc⟩

theorem firstMatches_concat (l : List (PathMatch × BackendRef)) (m : PathMatch) (b : BackendRef) :
    firstMatches (l ++ [(m, b)]) =
      if m ∈ firstMatches l then firstMatches l else firstMatches l ++ [m] := by
  unfold firstMatches
  rw [List.map_append, List.map_singleton, eraseDups_concat]
  simp only [List.mem_eraseDups]

theorem backendsOf_concat (l : List (PathMatch × BackendRef)) (m m' : PathMatch) (b : BackendRef) :
    backendsOf (l ++ [(m, b)]) m' = backendsOf l m' ++ if m' = m then [b] else [] := by
  by_cases hm : m' = m
  · simp [backendsOf, hm]
  · simp [backendsOf, hm, Ne.symm hm]

/-- **One step of the sorting.** The backend goes to the end of those of its match, which comes last
if there was none. -/
theorem addBackend_map {ms : List PathMatch} (hms : ms.Nodup) {f : PathMatch → List BackendRef}
    (hf : m ∉ ms → f m = []) :
    addBackend m b (ms.map fun m' => (m', f m')) =
      (if m ∈ ms then ms else ms ++ [m]).map fun m' =>
        (m', f m' ++ if m' = m then [b] else []) := by
  induction ms with
  | nil => simp [addBackend, hf]
  | cons m' ms ih =>
    obtain ⟨hm', hms⟩ := List.nodup_cons.mp hms
    rw [List.map_cons, addBackend]
    by_cases hm : m' = m
    · -- the match stands here, so it does not come again
      subst hm
      have hrest : ms.map (fun m' => (m', f m')) = ms.map fun m'' =>
          (m'', f m'' ++ if m'' = m' then [b] else []) := by
        apply List.map_congr_left
        intro m'' hm''
        have hne : m'' ≠ m' := fun h => hm' (h ▸ hm'')
        rw [if_neg hne, List.append_nil]
      rw [if_pos rfl, if_pos (List.mem_cons_self ..), List.map_cons, if_pos rfl, hrest]
    · -- the match comes later, or last
      have hmem : m ∈ m' :: ms ↔ m ∈ ms := by simp [Ne.symm hm]
      have hstep := ih hms fun h => hf fun hmem' => h (hmem.mp hmem')
      rw [if_neg hm, hstep]
      by_cases hin : m ∈ ms
      · rw [if_pos hin, if_pos (hmem.mpr hin), List.map_cons, if_neg hm, List.append_nil]
      · rw [if_neg hin, if_neg (hin ∘ hmem.mp), List.cons_append, List.map_cons, if_neg hm,
          List.append_nil]

/-- **All steps of the sorting.** The matches stand in the order in which they first occur, each
with its backends in their order. -/
theorem addBackends_eq (l : List (PathMatch × BackendRef)) :
    addBackends [] l = (firstMatches l).map fun m => (m, backendsOf l m) := by
  -- Induction from the end: the sorting of what came before is a list of all matches so far.
  induction l using List.reverseRecOn with
  | nil => rfl
  | append_singleton l c ih =>
    obtain ⟨m, b⟩ := c
    have hlast : addBackends [] (l ++ [(m, b)]) = addBackend m b (addBackends [] l) :=
      addBackends_append [] l [(m, b)]
    rw [hlast, ih, addBackend_map (nodup_firstMatches l) backendsOf_eq_nil_iff.mpr,
      firstMatches_concat]
    exact List.map_congr_left fun m' _ => by rw [backendsOf_concat]

end RuleGroup

/-! ### Backends and their ports -/

theorem ServicePort.toPort?_eq_some_iff {number : Int32} {p : UInt16} :
    toPort? number = some p ↔
      number.toInt = p.toNat ∧ 1 ≤ number.toInt ∧ number.toInt ≤ 65535 := by
  unfold toPort?
  by_cases hrange : 1 ≤ number.toInt ∧ number.toInt ≤ 65535
  · rw [if_pos hrange, Option.some.injEq, and_iff_left hrange]
    have hlt : number.toInt.toNat < UInt16.size := by
      show number.toInt.toNat < 65536
      omega
    constructor
    · rintro rfl
      rw [UInt16.toNat_ofNat_of_lt' hlt]
      omega
    · intro hp
      rw [hp, Int.toNat_natCast, UInt16.ofNat_toNat]
  · rw [if_neg hrange]
    constructor
    · intro h
      cases h
    · rintro ⟨-, h⟩
      exact absurd h hrange

/-- The backend that an Ingress names. A Service counts before any other object; its port is the
number that the Ingress gives, without a name beside it. -/
inductive IngressBackend.Denotes : IngressBackend → BackendRef → Prop
  | service {s : IngressService} {resource : Option IngressResource} {port : ServicePort}
      {number : Int32} {p : UInt16} (hport : s.port = some port)
      (hname : Ingress.nonempty? port.name = none) (hnumber : port.number = some number)
      (hp : number.toInt = p.toNat) (hrange : 1 ≤ number.toInt ∧ number.toInt ≤ 65535) :
      Denotes ⟨some s, resource⟩ (.service s.name p)
  | resource {r : IngressResource} :
      Denotes ⟨none, some r⟩ (.resource (Ingress.nonempty? r.apiGroup) r.kind r.name)

theorem IngressService.exists_port_of_toBackendRef {s : IngressService} {r : BackendRef}
    (h : s.toBackendRef = .ok r) : ∃ port number p, s.port = some port ∧
      Ingress.nonempty? port.name = none ∧ port.number = some number ∧
      ServicePort.toPort? number = some p ∧ r = .service s.name p := by
  unfold toBackendRef at h
  cases hport : s.port with
  | none =>
    rw [hport] at h
    cases h
  | some port =>
    rw [hport] at h
    dsimp only at h
    split at h
    case isTrue => cases h
    case isFalse hname =>
      rw [Option.not_isSome_iff_eq_none] at hname
      cases hnumber : port.number with
      | none =>
        rw [hnumber] at h
        cases h
      | some number =>
        rw [hnumber] at h
        dsimp only at h
        cases hp : ServicePort.toPort? number with
        | none =>
          rw [hp] at h
          cases h
        | some p =>
          rw [hp] at h
          cases h
          exact ⟨port, number, p, rfl, hname, hnumber, hp, rfl⟩

/-- **A backend converts** just when it denotes one. -/
theorem IngressBackend.toBackendRef_eq_ok_iff {b : IngressBackend} {r : BackendRef} :
    b.toBackendRef = .ok r ↔ b.Denotes r := by
  constructor
  · intro h
    obtain ⟨service, resource⟩ := b
    cases service with
    | some s =>
      obtain ⟨port, number, p, hport, hname, hnumber, hp, rfl⟩ :=
        IngressService.exists_port_of_toBackendRef h
      obtain ⟨hp, hrange⟩ := ServicePort.toPort?_eq_some_iff.mp hp
      exact .service hport hname hnumber hp hrange
    | none =>
      cases resource with
      | none => cases h
      | some resource =>
        cases h
        exact .resource
  · rintro (⟨hport, hname, hnumber, hp, hrange⟩ | _)
    · have hp := ServicePort.toPort?_eq_some_iff.mpr ⟨hp, hrange⟩
      simp only [toBackendRef, IngressService.toBackendRef, hport, hname, hnumber, hp,
        Option.isSome_none, Bool.false_eq_true, if_false]
    · rfl

/-! ### Rules from paths -/

/-- A path converts just when it has a match and its backend denotes one. -/
theorem IngressPath.convert_eq_ok_iff {options : ConversionOptions} {p : IngressPath}
    {m : PathMatch} {b : BackendRef} :
    p.convert options = .ok (m, b) ↔ p.toPathMatch options = .ok m ∧ p.backend.Denotes b := by
  rw [← IngressBackend.toBackendRef_eq_ok_iff]
  unfold convert
  cases p.toPathMatch options with
  | error e => simp [bind, Except.bind]
  | ok m' =>
    cases p.backend.toBackendRef <;> simp [bind, Except.bind, Except.mapError, pure, Except.pure]

namespace PathSite

variable (options : ConversionOptions) (p : PathSite)

/-- The match of a path that converts. -/
def match? : Option PathMatch := (p.routed? options).map (·.1)

variable {options} {p}

theorem routed?_eq_some_iff {m : PathMatch} {b : BackendRef} :
    p.routed? options = some (m, b) ↔
      p.path.toPathMatch options = .ok m ∧ p.path.backend.Denotes b := by
  rw [← IngressPath.convert_eq_ok_iff]
  unfold routed?
  cases p.path.convert options <;> simp [Except.toOption]

end PathSite

/-- Rules that are made from a list of paths: one for each match, in the order in which the matches
first occur, with one backend for each path of the match, in the order of the paths. -/
structure Merges (options : ConversionOptions) (paths : List PathSite) (rules : List RouteRule) :
    Prop where
  /-- A rule has one match and at least one backend. -/
  single : ∀ rule ∈ rules, ∃ m, rule.pathMatches = [m] ∧ rule.backends ≠ []
  /-- No two rules have the same match. -/
  distinct : (rules.map (·.pathMatches)).Nodup
  /-- The matches are those of the paths that convert, each where it first occurs. -/
  order : rules.map (·.pathMatches) =
    ((paths.filterMap (PathSite.match? options)).eraseDups).map ([·])
  /-- The backends of a rule are those of the paths with its match, one by one. -/
  backends : ∀ rule ∈ rules, ∀ m, rule.pathMatches = [m] →
    List.Forall₂ (fun p b => p.path.backend.Denotes b)
      (paths.filter fun p => p.match? options = some m) rule.backends

/-- The paths of a match, with their backends. -/
theorem forall₂_backendsOf (options : ConversionOptions) (paths : List PathSite) (m : PathMatch) :
    List.Forall₂ (fun p b => p.path.backend.Denotes b)
      (paths.filter fun p => p.match? options = some m)
      (RuleGroup.backendsOf (paths.filterMap (PathSite.routed? options)) m) := by
  unfold RuleGroup.backendsOf
  induction paths with
  | nil => exact .nil
  | cons p paths ih =>
    cases hp : p.routed? options with
    | none =>
      -- a path that does not convert has no match
      have hm : p.match? options = none := by rw [PathSite.match?, hp, Option.map_none]
      rw [List.filterMap_cons_none hp, List.filter_cons_of_neg (by simp [hm])]
      exact ih
    | some c =>
      obtain ⟨m', b⟩ := c
      have hm : p.match? options = some m' := by rw [PathSite.match?, hp, Option.map_some]
      rw [List.filterMap_cons_some hp]
      by_cases heq : m' = m
      · rw [List.filter_cons_of_pos (by simp [hm, heq]), List.filter_cons_of_pos (by simp [heq]),
          List.map_cons]
        exact .cons (PathSite.routed?_eq_some_iff.mp hp).2 ih
      · rw [List.filter_cons_of_neg (by simp [hm, heq]), List.filter_cons_of_neg (by simp [heq])]
        exact ih

/-- **The rules of a group are made from its paths.** -/
theorem merges_addBackends (options : ConversionOptions) (paths : List PathSite) :
    Merges options paths
      ((RuleGroup.addBackends [] (paths.filterMap (PathSite.routed? options))).map
        fun r => ⟨[r.1], r.2⟩) := by
  have hmatches : (paths.filterMap (PathSite.routed? options)).map (·.1) =
      paths.filterMap (PathSite.match? options) := by
    rw [List.map_filterMap]
    rfl
  rw [RuleGroup.addBackends_eq, List.map_map]
  refine ⟨?_, ?_, ?_, ?_⟩
  · intro rule hrule
    obtain ⟨m, hm, rfl⟩ := List.mem_map.mp hrule
    exact ⟨m, rfl, fun hnil => RuleGroup.backendsOf_eq_nil_iff.mp hnil hm⟩
  · rw [List.map_map]
    exact (RuleGroup.nodup_firstMatches _).map fun m m' h => List.singleton_injective h
  · rw [List.map_map, RuleGroup.firstMatches, hmatches]
    rfl
  · intro rule hrule m hm
    obtain ⟨m', -, rfl⟩ := List.mem_map.mp hrule
    obtain rfl : m' = m := List.singleton_injective hm
    exact forall₂_backendsOf options paths m'

end GatewayMigration
