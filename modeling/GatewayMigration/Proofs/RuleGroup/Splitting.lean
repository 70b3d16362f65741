import GatewayMigration.Proofs.Lists
import GatewayMigration.Proofs.RuleGroup.Gathering
import GatewayMigration.Proofs.RuleGroup.Paths

/-!
# A rule in two parts

The paths of a rule can be parted, and two rules for the same host can take the two parts. The
rules that come after get other positions, and so do the paths of the second part. Positions count
for the fields of errors and for nothing else. Each rule brings the certificates of its Ingress to
its group, so the group of the parted rule gets them once more.

## Main definitions

* `RuleSplit`: a rule of an Ingress, and where its paths are parted
* `RuleSplit.whole`, `RuleSplit.parted`: the Ingress with the rule, and with the two rules
* `FieldError.unindexed`: an error without the positions in its field
* `RuleSplit.Counterpart`: a group on both sides

## Main results

* `RuleSplit.exists_whole`: every rule with paths can be parted anywhere
* `RuleSplit.counterpart_find?_gather`: what becomes of a group
* `RuleSplit.map_unindexed_fieldErrors`: the errors of the Ingress are the same but for positions
-/

namespace GatewayMigration

/-! ### The split -/

/-- A rule of an Ingress, and where its paths are parted. -/
structure RuleSplit where
  metadata : Metadata
  /-- What the Ingress specifies besides its rules. -/
  spec : IngressSpec
  /-- The rules before the rule. -/
  before : List IngressRule
  host : Option String
  /-- The paths of the first part. -/
  first : List IngressPath
  /-- The paths of the second part. -/
  second : List IngressPath
  /-- The rules after the rule. -/
  after : List IngressRule

namespace RuleSplit

variable (options : ConversionOptions) (s : RuleSplit)

/-- The Ingress with other rules. -/
def withRules (rules : List IngressRule) : Ingress :=
  ⟨s.metadata, some { s.spec with rules := some rules }⟩

/-- The Ingress with the rule in one. -/
def whole : Ingress :=
  s.withRules (s.before ++ ⟨s.host, some (s.first ++ s.second)⟩ :: s.after)

/-- The Ingress with the rule in two. -/
def parted : Ingress :=
  s.withRules (s.before ++ ⟨s.host, some s.first⟩ :: ⟨s.host, some s.second⟩ :: s.after)

/-- The key of the group of the rule, and of its parts. -/
def key : GroupKey := s.whole.keyOf options ⟨s.host, none⟩

/-- **Every rule with paths can be parted** anywhere. -/
theorem exists_whole {i : Ingress} {n : Nat} {rule : IngressRule} (hrule : i.rules[n]? = some rule)
    {first second : List IngressPath} (hpaths : rule.paths = some (first ++ second)) :
    ∃ s : RuleSplit, s.whole = i ∧ s.before.length = n ∧ s.host = rule.host ∧ s.first = first ∧
      s.second = second := by
  obtain ⟨metadata, spec⟩ := i
  obtain ⟨host, paths⟩ := rule
  obtain rfl : paths = some (first ++ second) := hpaths
  -- an Ingress with a rule specifies its rules
  cases spec with
  | none => cases hrule
  | some spec =>
    obtain ⟨defaultBackend, className, rules, tls⟩ := spec
    cases rules with
    | none => cases hrule
    | some rules =>
      obtain ⟨hn, hget⟩ := List.getElem?_eq_some_iff.mp hrule
      have hn : n < rules.length := hn
      have hget : rules[n] = ⟨host, some (first ++ second)⟩ := hget
      refine ⟨⟨metadata, ⟨defaultBackend, className, none, tls⟩, rules.take n, host, first, second,
        rules.drop (n + 1)⟩, ?_, ?_, rfl, rfl, rfl⟩
      · have hsplit : rules.take n ++ ⟨host, some (first ++ second)⟩ :: rules.drop (n + 1) =
            rules := by
          rw [← hget, ← List.drop_eq_getElem_cons, List.take_append_drop]
        simp only [whole, withRules, hsplit]
      · rw [List.length_take, Nat.min_eq_left (Nat.le_of_lt hn)]

end RuleSplit

/-! ### Positions -/

/-- A step of a field without its position in a list. -/
def PathEntry.unindexed : PathEntry → PathEntry
  | .field name => .field name
  | .index _ => .index 0

/-- An error without the positions in its field. -/
def FieldError.unindexed (e : FieldError) : FieldError :=
  { e with path := e.path.map PathEntry.unindexed }

/-- Fields that differ in positions cannot be told apart. -/
theorem FieldError.unindexed_under (e : FieldError) {field field' : FieldPath}
    (h : field.map PathEntry.unindexed = field'.map PathEntry.unindexed) (object : ObjectRef) :
    ((e.under field).ofObject object).unindexed = ((e.under field').ofObject object).unindexed := by
  have hpath : (field ++ e.path).map PathEntry.unindexed =
      (field' ++ e.path).map PathEntry.unindexed := by
    rw [List.map_append, List.map_append, h]
  simp only [unindexed, ofObject, under, hpath]

/-- A rule without its position in its Ingress. -/
def RuleSite.unnumbered (s : RuleSite) : RuleSite := { s with index := 0 }

theorem RuleSite.map_path_pathSites (s : RuleSite) :
    s.pathSites.map PathSite.path = s.rule.paths.getD [] := by
  have h : s.pathSites.map PathSite.path = (s.rule.paths.getD []).map id := by
    apply map_mapIdx_of_forall
    intro n path
    rfl
  rw [h, List.map_id]

theorem RuleSite.routed_eq_filterMap (options : ConversionOptions) (s : RuleSite) :
    s.routed options = (s.rule.paths.getD []).filterMap fun p => (p.convert options).toOption := by
  rw [routed_eq, ← s.map_path_pathSites, List.filterMap_map]
  rfl

/-- A rule has the same backends wherever it stands. -/
theorem RuleSite.routed_unnumbered (options : ConversionOptions) (s : RuleSite) :
    s.unnumbered.routed options = s.routed options := by
  rw [routed_eq_filterMap, routed_eq_filterMap]
  rfl

namespace RuleGroup

variable {options : ConversionOptions}

/-- A group without the position of its first rule. -/
def unnumbered (g : RuleGroup) : RuleGroup := { g with ruleIndex := 0 }

theorem ofSites_map_unnumbered (sites : List RuleSite) :
    ofSites options (sites.map RuleSite.unnumbered) = (ofSites options sites).map unnumbered := by
  cases sites with
  | nil => rfl
  | cons s rest =>
    have htls : (rest.map RuleSite.unnumbered).flatMap (·.tls) = rest.flatMap (·.tls) :=
      List.flatMap_map ..
    have hroutes : (rest.map RuleSite.unnumbered).flatMap (·.routed options) =
        rest.flatMap (·.routed options) := by
      rw [List.flatMap_map]
      exact List.flatMap_congr fun s' _ => RuleSite.routed_unnumbered options s'
    simp only [List.map_cons, ofSites, List.flatMap_cons, htls, hroutes,
      RuleSite.routed_unnumbered]
    rfl

end RuleGroup

/-! ### Errors on both sides -/

namespace Ingress

variable (options : ConversionOptions) (i : Ingress)

/-- The error of a path that does not convert, without positions. -/
def pathError? (path : IngressPath) : Option FieldError :=
  match path.convert options with
  | .error e => some ((e.under (pathField 0 0)).ofObject i.ref).unindexed
  | .ok _ => none

theorem map_path_pathSites :
    (i.pathSites options).map PathSite.path = i.rules.flatMap fun rule => rule.paths.getD [] := by
  have hrules : (i.sites options).map RuleSite.rule = i.rules.map id := by
    apply map_mapIdx_of_forall
    intro n rule
    rfl
  rw [List.map_id] at hrules
  rw [pathSites, List.map_flatMap, ← hrules, List.flatMap_map]
  exact List.flatMap_congr fun s _ => s.map_path_pathSites

/-- **The errors of an Ingress**, without positions, are those of its paths, whatever the rules
that the paths stand in. -/
theorem map_unindexed_fieldErrors :
    (i.fieldErrors options).map FieldError.unindexed =
      (i.rules.flatMap fun rule => rule.paths.getD []).filterMap (i.pathError? options) ++
        ((i.defaultError? options).map FieldError.unindexed).toList := by
  rw [fieldErrors_eq, List.map_append, List.map_filterMap, ← map_path_pathSites, List.filterMap_map]
  congr 1
  · apply List.filterMap_congr
    intro p hp
    obtain ⟨s, hs, hps⟩ := List.mem_flatMap.mp hp
    -- the error names the Ingress of the path
    have hingress : p.site.ingress = i.objectName := by
      rw [RuleSite.site_of_mem_pathSites hps, ingress_of_mem_sites options hs]
    unfold PathSite.error?
    rw [hingress]
    dsimp only [Function.comp_apply, pathError?]
    cases p.path.convert options with
    | ok c => rfl
    | error e => exact congrArg some (FieldError.unindexed_under e rfl _)
  · cases i.defaultError? options <;> rfl

end Ingress

/-! ### Groups on both sides -/

namespace RuleSplit

variable (options : ConversionOptions) (s : RuleSplit)

/-- A group on both sides. Only the group of the rule changes: it gets the certificates of the
Ingress once more, right after the first time. -/
structure Counterpart (k : GroupKey) (g g' : RuleGroup) : Prop where
  ingress : g'.ingress = g.ingress
  routes : g'.routes = g.routes
  tls_of_ne : k ≠ s.key options → g'.tls = g.tls
  tls_of_eq : k = s.key options →
    ∃ a b, g.tls = a ++ s.whole.tls ++ b ∧ g'.tls = a ++ (s.whole.tls ++ s.whole.tls) ++ b

/-- A rule of the Ingress, wherever it stands. -/
def site (rule : IngressRule) : RuleSite := s.whole.siteOf options 0 rule

theorem key_site {rule : IngressRule} (h : rule.host = s.host) :
    (s.site options rule).key = s.key options := by
  show (⟨_, _, rule.host.getD ""⟩ : GroupKey) = ⟨_, _, s.host.getD ""⟩
  rw [h]
  rfl

theorem map_unnumbered_sites (rules : List IngressRule) :
    ((s.withRules rules).sites options).map RuleSite.unnumbered = rules.map (s.site options) := by
  apply map_mapIdx_of_forall
  intro n rule
  rfl

/-- A rule in one and in two parts, without its position: the group gets the same backends, and the
certificates of the Ingress once or twice. -/
theorem counterpart_ofSites (xs ys : List RuleSite) :
    Option.Rel (s.Counterpart options (s.key options))
      (RuleGroup.ofSites options
        (xs ++ s.site options ⟨s.host, some (s.first ++ s.second)⟩ :: ys))
      (RuleGroup.ofSites options
        (xs ++ s.site options ⟨s.host, some s.first⟩ :: s.site options ⟨s.host, some s.second⟩ ::
          ys)) := by
  have hrouted : (s.site options ⟨s.host, some (s.first ++ s.second)⟩).routed options =
      (s.site options ⟨s.host, some s.first⟩).routed options ++
        (s.site options ⟨s.host, some s.second⟩).routed options := by
    simp only [RuleSite.routed_eq_filterMap]
    exact List.filterMap_append
  have htls : ∀ rule, (s.site options rule).tls = s.whole.tls := fun _ => rfl
  cases xs with
  | nil =>
    -- the first part stands where the rule stood, and has its name
    refine .some ⟨rfl, ?_, (absurd rfl ·), fun _ => ⟨[], ys.flatMap (·.tls), ?_, ?_⟩⟩
    · simp [hrouted]
    · simp [htls]
    · simp [htls]
  | cons x xs =>
    refine .some ⟨rfl, ?_, (absurd rfl ·), fun _ =>
      ⟨(x :: xs).flatMap (·.tls), ys.flatMap (·.tls), ?_, ?_⟩⟩
    · simp [hrouted]
    · simp [htls]
    · simp [htls]

theorem counterpart_of_ne {k : GroupKey} (h : k ≠ s.key options) (group : Option RuleGroup) :
    Option.Rel (s.Counterpart options k) group group := by
  cases group with
  | none => exact .none
  | some g => exact .some ⟨rfl, rfl, fun _ => rfl, (absurd · h)⟩

variable {options s} in
/-- The position of the first rule does not count. -/
theorem counterpart_of_unnumbered {k : GroupKey} {group group' : Option RuleGroup}
    (h : Option.Rel (s.Counterpart options k) (group.map RuleGroup.unnumbered)
      (group'.map RuleGroup.unnumbered)) :
    Option.Rel (s.Counterpart options k) group group' := by
  cases group with
  | none =>
    cases group' with
    | none => exact .none
    | some g' => cases h
  | some g =>
    cases group' with
    | none => cases h
    | some g' =>
      cases h with
      | some h => exact .some ⟨h.ingress, h.routes, h.tls_of_ne, h.tls_of_eq⟩

variable (left right : List Ingress)

/-- The rules of all Ingresses with a key, without positions. -/
theorem filter_map_unnumbered (k : GroupKey) (rules : List IngressRule) :
    (((left ++ s.withRules rules :: right).flatMap (Ingress.sites options)).filter
        fun t => t.key = k).map RuleSite.unnumbered =
      ((left.flatMap (Ingress.sites options)).filter fun t => t.key = k).map RuleSite.unnumbered ++
        ((rules.map (s.site options)).filter (fun t => t.key = k) ++
          ((right.flatMap (Ingress.sites options)).filter
            fun t => t.key = k).map RuleSite.unnumbered) := by
  have hkey : ∀ l : List RuleSite, (l.filter fun t => t.key = k).map RuleSite.unnumbered =
      (l.map RuleSite.unnumbered).filter fun t => t.key = k := by
    intro l
    symm
    apply filter_map_of_forall
    intro t _
    rfl
  rw [List.flatMap_append, List.flatMap_cons, List.filter_append, List.filter_append,
    List.map_append, List.map_append, hkey ((s.withRules rules).sites options),
    map_unnumbered_sites]

/-- **What becomes of a group** when the rule is parted. -/
theorem counterpart_find?_gather (k : GroupKey) :
    Option.Rel (s.Counterpart options k)
      ((RuleGroup.gather options
        ((left ++ s.whole :: right).flatMap (Ingress.sites options))).find? k)
      ((RuleGroup.gather options
        ((left ++ s.parted :: right).flatMap (Ingress.sites options))).find? k) := by
  rw [RuleGroup.find?_gather, RuleGroup.find?_gather]
  apply counterpart_of_unnumbered
  rw [← RuleGroup.ofSites_map_unnumbered, ← RuleGroup.ofSites_map_unnumbered]
  unfold whole parted
  rw [filter_map_unnumbered, filter_map_unnumbered]
  by_cases hk : s.key options = k
  · -- the rule and its parts are among the rules with the key
    subst hk
    have h := counterpart_ofSites options s
      (((left.flatMap (Ingress.sites options)).filter
          fun t => t.key = s.key options).map RuleSite.unnumbered ++
        (s.before.map (s.site options)).filter fun t => t.key = s.key options)
      ((s.after.map (s.site options)).filter (fun t => t.key = s.key options) ++
        ((right.flatMap (Ingress.sites options)).filter
          fun t => t.key = s.key options).map RuleSite.unnumbered)
    simpa [key_site] using h
  · -- they are not, and the other rules are the same on both sides
    simp only [List.map_append, List.map_cons, List.filter_append, List.filter_cons, key_site, hk,
      decide_false, Bool.false_eq_true, if_false]
    exact counterpart_of_ne options s (Ne.symm hk) _

/-- **The errors of the Ingress** are the same but for positions. -/
theorem map_unindexed_fieldErrors :
    (s.parted.fieldErrors options).map FieldError.unindexed =
      (s.whole.fieldErrors options).map FieldError.unindexed := by
  have hpaths : (s.parted.rules.flatMap fun rule => rule.paths.getD []) =
      s.whole.rules.flatMap fun rule => rule.paths.getD [] := by
    show (s.before ++ _ :: _ :: s.after).flatMap _ = (s.before ++ _ :: s.after).flatMap _
    simp
  rw [Ingress.map_unindexed_fieldErrors, Ingress.map_unindexed_fieldErrors, hpaths]
  rfl

end RuleSplit

end GatewayMigration
