import GatewayMigration.Proofs.OrderedMap
import GatewayMigration.RuleGroup

/-!
# What a rule group gathers

The group of a key is made of the rules with that key and of nothing else: it is named after the
first of them, it has the certificates of each, and its backends are those of their paths, with
multiplicity, sorted by match.

## Main definitions

* `RuleGroup.ofSites`: the group of a list of rules, all at once
* `RuleGroup.pairs`: the matches and backends of a group, one by one

## Main results

* `pairs_addBackends`: sorting backends by match neither loses nor repeats one
* `find?_gather`: the group of a key is the group of the rules with that key
-/

namespace GatewayMigration

namespace RuleGroup

/-- The matches and backends, one by one. -/
def pairs (routes : List (PathMatch × List BackendRef)) : List (PathMatch × BackendRef) :=
  routes.flatMap fun r => r.2.map (r.1, ·)

@[simp] theorem pairs_nil : pairs [] = [] := rfl

@[simp] theorem pairs_cons (r : PathMatch × List BackendRef)
    (routes : List (PathMatch × List BackendRef)) :
    pairs (r :: routes) = r.2.map (r.1, ·) ++ pairs routes := rfl

theorem mem_pairs {routes : List (PathMatch × List BackendRef)} {m : PathMatch} {b : BackendRef} :
    (m, b) ∈ pairs routes ↔ ∃ bs, (m, bs) ∈ routes ∧ b ∈ bs := by
  simp only [pairs, List.mem_flatMap, List.mem_map, Prod.mk.injEq, Prod.exists]
  constructor
  · rintro ⟨_, bs, h, b, hb, rfl, rfl⟩
    exact ⟨bs, h, hb⟩
  · rintro ⟨bs, h, hb⟩
    exact ⟨m, bs, h, b, hb, rfl, rfl⟩

/-! ### Sorting backends by match -/

theorem pairs_addBackend (m : PathMatch) (b : BackendRef)
    (routes : List (PathMatch × List BackendRef)) :
    (pairs (addBackend m b routes)).Perm (pairs routes ++ [(m, b)]) := by
  induction routes with
  | nil => exact .refl _
  | cons r routes ih =>
    obtain ⟨m', bs⟩ := r
    by_cases hm : m' = m
    · -- the backend joins those of its match, before the rest
      subst hm
      simp only [addBackend, if_true, pairs_cons, List.map_append, List.append_assoc]
      exact List.perm_append_comm.append_left _
    · -- the match comes later (induction)
      simp only [addBackend, if_neg hm, pairs_cons, List.append_assoc]
      exact ih.append_left _

/-- Sorting backends by match neither loses nor repeats one. -/
theorem pairs_addBackends (routes : List (PathMatch × List BackendRef))
    (l : List (PathMatch × BackendRef)) :
    (pairs (addBackends routes l)).Perm (pairs routes ++ l) := by
  induction l generalizing routes with
  | nil => simp [addBackends]
  | cons p l ih =>
    have h := (ih (addBackend p.1 p.2 routes)).trans
      ((pairs_addBackend p.1 p.2 routes).append_right l)
    rwa [List.append_assoc] at h

theorem matches_addBackend (m : PathMatch) (b : BackendRef)
    (routes : List (PathMatch × List BackendRef)) :
    (addBackend m b routes).map (·.1) =
      if m ∈ routes.map (·.1) then routes.map (·.1) else routes.map (·.1) ++ [m] := by
  induction routes with
  | nil => rfl
  | cons r routes ih =>
    obtain ⟨m', bs⟩ := r
    by_cases hm : m' = m
    · simp [addBackend, hm]
    · simp only [addBackend, if_neg hm, List.map_cons, ih, List.mem_cons, Ne.symm hm, false_or]
      split <;> rfl

/-- Each match has one entry. -/
theorem nodup_matches_addBackends {routes : List (PathMatch × List BackendRef)}
    (h : (routes.map (·.1)).Nodup) (l : List (PathMatch × BackendRef)) :
    ((addBackends routes l).map (·.1)).Nodup := by
  induction l generalizing routes with
  | nil => exact h
  | cons p l ih =>
    refine ih ?_
    rw [matches_addBackend]
    split
    case _ => exact h
    case _ hp => exact List.nodup_append.mpr ⟨h, by simp, by grind⟩

theorem addBackends_append (routes : List (PathMatch × List BackendRef))
    (l l' : List (PathMatch × BackendRef)) :
    addBackends routes (l ++ l') = addBackends (addBackends routes l) l' :=
  List.foldl_append

theorem addBackend_ne_nil (m : PathMatch) (b : BackendRef)
    (routes : List (PathMatch × List BackendRef)) : addBackend m b routes ≠ [] := by
  cases routes with
  | nil => simp [addBackend]
  | cons r routes =>
    unfold addBackend
    split <;> simp

/-- There is no match just when there is no path. -/
theorem addBackends_eq_nil_iff {routes : List (PathMatch × List BackendRef)}
    {l : List (PathMatch × BackendRef)} : addBackends routes l = [] ↔ routes = [] ∧ l = [] := by
  induction l generalizing routes with
  | nil => simp [addBackends]
  | cons p l ih =>
    have hp := addBackend_ne_nil p.1 p.2 routes
    show addBackends (addBackend p.1 p.2 routes) l = [] ↔ _
    simp [ih, hp]

/-! ### The group of a key -/

/-- The group of a list of rules; without rules there is none. -/
def ofSites (options : ConversionOptions) : List RuleSite → Option RuleGroup
  | [] => none
  | s :: rest => some {
      ingress := s.ingress.name
      ruleIndex := s.index
      tls := (s :: rest).flatMap (·.tls)
      routes := addBackends [] ((s :: rest).flatMap (·.routed options)) }

variable {options : ConversionOptions}

theorem foldl_absorb (g : RuleGroup) (sites : List RuleSite) :
    sites.foldl (fun g s => some (absorb options s g)) (some g) = some { g with
      tls := g.tls ++ sites.flatMap (·.tls)
      routes := addBackends g.routes (sites.flatMap (·.routed options)) } := by
  induction sites generalizing g with
  | nil => simp [addBackends]
  | cons s sites ih =>
    rw [List.foldl_cons, ih]
    simp [absorb, addBackends_append]

theorem foldl_absorb_none (sites : List RuleSite) :
    sites.foldl (fun g s => some (absorb options s g)) none = ofSites options sites := by
  cases sites with
  | nil => rfl
  | cons s sites =>
    rw [List.foldl_cons, foldl_absorb]
    simp [absorb, ofSites, addBackends_append]

/-- **The group of a key** is the group of the rules with that key. -/
theorem find?_gather (sites : List RuleSite) (k : GroupKey) :
    (gather options sites).find? k = ofSites options (sites.filter fun s => s.key = k) := by
  -- only the rules with the key change what the map holds at it
  rw [← foldl_absorb_none]
  exact OrderedMap.find?_foldl_upsert RuleSite.key (absorb options) sites ∅ k

theorem mem_gather {sites : List RuleSite} {k : GroupKey} {g : RuleGroup} :
    (k, g) ∈ (gather options sites).entries ↔
      ofSites options (sites.filter fun s => s.key = k) = some g := by
  rw [← OrderedMap.find?_eq_some_iff, find?_gather]

/-- Every rule is in a group. -/
theorem exists_mem_gather {sites : List RuleSite} {s : RuleSite} (h : s ∈ sites) :
    ∃ g, (s.key, g) ∈ (gather options sites).entries := by
  -- the rules with the key are at least this one
  have hs : s ∈ sites.filter fun s' => s'.key = s.key := by simp [h]
  cases hl : sites.filter fun s' => s'.key = s.key with
  | nil => rw [hl] at hs; cases hs
  | cons s' rest => exact ⟨_, mem_gather.mpr (by rw [hl]; rfl)⟩

/-- A group is named after the first of its rules. -/
theorem exists_first_of_ofSites {p : RuleSite → Bool} {sites : List RuleSite} {g : RuleGroup}
    (h : ofSites options (sites.filter p) = some g) :
    ∃ s, sites.find? p = some s ∧ g.ingress = s.ingress.name ∧ g.ruleIndex = s.index := by
  cases hl : sites.filter p with
  | nil =>
    rw [hl] at h
    cases h
  | cons s rest =>
    rw [hl] at h
    cases h
    exact ⟨s, by rw [← List.head?_filter, hl]; rfl, rfl, rfl⟩

theorem tls_of_ofSites {sites : List RuleSite} {g : RuleGroup}
    (h : ofSites options sites = some g) : g.tls = sites.flatMap (·.tls) := by
  cases sites with
  | nil => cases h
  | cons s rest => cases h; rfl

theorem routes_of_ofSites {sites : List RuleSite} {g : RuleGroup}
    (h : ofSites options sites = some g) :
    g.routes = addBackends [] (sites.flatMap (·.routed options)) := by
  cases sites with
  | nil => cases h
  | cons s rest => cases h; rfl

theorem pairs_of_ofSites {sites : List RuleSite} {g : RuleGroup}
    (h : ofSites options sites = some g) :
    (pairs g.routes).Perm (sites.flatMap (·.routed options)) := by
  rw [routes_of_ofSites h]
  exact pairs_addBackends [] _

end RuleGroup

end GatewayMigration
