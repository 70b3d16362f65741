import GatewayMigration.Proofs.Conversion.Settlement

/-!
# Kept and reported groups

Groups are taken in the order of their keys, and each is compared with the groups that were kept
before it. So a list of groups splits into those that are kept and those that are reported, and
every group has a place in the list where its lot was decided by what was kept up to there.

## Main results

* `KeyedGroup.perm_kept_reported`: every group is kept or reported, once
* `KeyedGroup.exists_split_of_mem_kept`, `KeyedGroup.exists_split_of_mem_reported`: the place where
  a group was decided on
* `KeyedGroup.clash?_eq_none_iff`: when a group does not clash
* `Conversion.exists_split_of_mem_keptGroups`, `Conversion.exists_prefix_of_mem_reportedGroups`: the
  same for the groups of a conversion
* `Conversion.mem_httpRoutes_convert_iff`: the routes of a conversion
-/

namespace GatewayMigration

namespace KeyedGroup

variable {before es : List KeyedGroup} {e : KeyedGroup}

theorem kept_append (before xs ys : List KeyedGroup) :
    kept before (xs ++ ys) = kept before xs ++ kept (before ++ kept before xs) ys := by
  induction xs generalizing before with
  | nil => simp [kept]
  | cons x xs ih =>
    simp only [List.cons_append, kept]
    split
    case isTrue => exact ih before
    case isFalse => rw [ih, List.cons_append, List.append_assoc, List.singleton_append]

theorem kept_sublist (before es : List KeyedGroup) : (kept before es).Sublist es := by
  induction es generalizing before with
  | nil => exact .slnil
  | cons e es ih =>
    unfold kept
    split
    case isTrue => exact (ih before).cons e
    case isFalse => exact (ih _).cons_cons e

/-- **Every group is kept or reported**, once. -/
theorem perm_kept_reported (before es : List KeyedGroup) :
    (kept before es ++ (reported before es).map (·.1)).Perm es := by
  induction es generalizing before with
  | nil => exact .refl _
  | cons e es ih =>
    cases hc : clash? before e with
    | none => simpa [kept, reported, hc] using ih _
    | some message =>
      -- the reported group stands after all kept ones
      simp only [kept, reported, hc, Option.isSome_some, if_true, List.map_cons]
      exact List.perm_middle.trans ((ih before).cons e)

/-! ### Where a group was decided on -/

theorem exists_split_of_mem_kept (h : e ∈ kept before es) :
    ∃ xs ys, es = xs ++ e :: ys ∧ clash? (before ++ kept before xs) e = none := by
  -- Induction on the groups left, whatever was kept before them.
  induction es generalizing before with
  | nil => cases h
  | cons x es ih =>
    cases hc : clash? before x with
    | none =>
      simp only [kept, hc, Option.isSome_none, Bool.false_eq_true, if_false] at h
      rcases List.mem_cons.mp h with rfl | h
      · -- the group stands first and was decided on right away
        exact ⟨[], es, rfl, by simpa [kept] using hc⟩
      · obtain ⟨xs, ys, rfl, he⟩ := ih h
        refine ⟨x :: xs, ys, rfl, ?_⟩
        simpa [kept, hc] using he
    | some message =>
      simp only [kept, hc, Option.isSome_some, if_true] at h
      obtain ⟨xs, ys, rfl, he⟩ := ih h
      refine ⟨x :: xs, ys, rfl, ?_⟩
      simpa [kept, hc] using he

theorem exists_split_of_mem_reported {message : String} (h : (e, message) ∈ reported before es) :
    ∃ xs ys, es = xs ++ e :: ys ∧ clash? (before ++ kept before xs) e = some message := by
  induction es generalizing before with
  | nil => cases h
  | cons x es ih =>
    cases hc : clash? before x with
    | none =>
      simp only [reported, hc] at h
      obtain ⟨xs, ys, rfl, he⟩ := ih h
      refine ⟨x :: xs, ys, rfl, ?_⟩
      simpa [kept, hc] using he
    | some message' =>
      simp only [reported, hc] at h
      rcases List.mem_cons.mp h with h | h
      · cases h
        exact ⟨[], es, rfl, by simpa [kept] using hc⟩
      · obtain ⟨xs, ys, rfl, he⟩ := ih h
        refine ⟨x :: xs, ys, rfl, ?_⟩
        simpa [kept, hc] using he

theorem kept_of_split {xs : List KeyedGroup} (ys : List KeyedGroup)
    (h : clash? (before ++ kept before xs) e = none) :
    kept before (xs ++ e :: ys) =
      kept before xs ++ e :: kept (before ++ kept before xs ++ [e]) ys := by
  rw [kept_append, kept, h]
  rfl

/-! ### When a group clashes -/

/-- The route name of a group is taken by one of the groups before it. -/
def Overtaken (before : List KeyedGroup) (e : KeyedGroup) : Prop :=
  e.2.routes ≠ [] ∧ ∃ e' ∈ before, e'.2.routes ≠ [] ∧ e'.routeName = e.routeName

theorem mem_routes_map_attachment {r : ObjectName × HttpRoute} :
    r ∈ Attachment.routes (before.map attachment) ↔
      ∃ e ∈ before, e.2.routes ≠ [] ∧ r = (e.routeName, e.2.toHttpRoute e.1) := by
  simp only [routes_map_attachment, List.mem_map, List.mem_filter, Bool.not_eq_true',
    List.isEmpty_eq_false_iff, and_assoc]
  exact exists_congr fun e => and_congr_right fun _ => and_congr_right fun _ => eq_comm

/-- A group does not clash if its route name is free and each of its listener names is free or
taken for its own host. -/
theorem clash?_eq_none_iff :
    clash? before e = none ↔ ¬ Overtaken before e ∧
      ∀ l ∈ e.listeners, ∀ l', (Attachment.gatewayAt (before.map attachment) e.gateway).listener?
        l.name = some l' → l'.hostname = l.hostname := by
  have hr : (!e.2.routes.isEmpty && (Attachment.routes (before.map attachment)).any
      (fun r => r.1 = e.routeName)) = true ↔ Overtaken before e := by
    simp only [Overtaken, Bool.and_eq_true, Bool.not_eq_true', List.isEmpty_eq_false_iff,
      List.any_eq_true, decide_eq_true_eq, mem_routes_map_attachment]
    refine and_congr_right fun _ => ⟨?_, ?_⟩
    · rintro ⟨_, ⟨e', he', hne, rfl⟩, hn⟩
      exact ⟨e', he', hne, hn⟩
    · rintro ⟨e', he', hne, hn⟩
      exact ⟨_, ⟨e', he', hne, rfl⟩, hn⟩
  unfold clash?
  by_cases ho : Overtaken before e
  · simp [if_pos (hr.mpr ho), ho]
  · rw [if_neg fun h => ho (hr.mp h)]
    simp only [ho, not_false_eq_true, true_and, List.findSome?_eq_none_iff]
    refine forall₂_congr fun l _ => ?_
    unfold Gateway.listenerConflict?
    cases hl : (Attachment.gatewayAt (before.map attachment) e.gateway).listener? l.name <;> simp

end KeyedGroup

/-! ### The groups of a conversion -/

namespace Conversion

variable (options : ConversionOptions) (ingresses : List Ingress)

theorem sorted_groups :
    (groups options ingresses).Pairwise fun a b => compare a.1 b.1 = .lt :=
  OrderedMap.sorted _

theorem sorted_keptGroups :
    (keptGroups options ingresses).Pairwise fun a b => compare a.1 b.1 = .lt :=
  (sorted_groups options ingresses).sublist (KeyedGroup.kept_sublist _ _)

theorem nodup_keys_groups : ((groups options ingresses).map (·.1)).Nodup :=
  OrderedMap.nodup_keys _

/-- The keys of the kept groups and of the reported groups are all different. -/
theorem nodup_keys_kept_reported :
    ((keptGroups options ingresses).map (·.1) ++
      (reportedGroups options ingresses).map (·.1.1)).Nodup := by
  have hp := (KeyedGroup.perm_kept_reported [] (groups options ingresses)).map (·.1)
  rw [List.map_append, List.map_map] at hp
  exact hp.nodup_iff.mpr (nodup_keys_groups options ingresses)

variable {options ingresses} {e e' : KeyedGroup}

/-- The group of a key is made of the rules with that key. -/
theorem mem_groups_iff : e ∈ groups options ingresses ↔
    RuleGroup.ofSites options
      ((ingresses.flatMap (Ingress.sites options)).filter fun s => s.key = e.1) = some e.2 :=
  RuleGroup.mem_gather

theorem exists_mem_groups {s : RuleSite} (hs : s ∈ ingresses.flatMap (Ingress.sites options)) :
    ∃ g, (s.key, g) ∈ groups options ingresses :=
  RuleGroup.exists_mem_gather hs

/-- A group has the certificates of each of its rules. -/
theorem mem_tls_of_mem_groups {s : RuleSite} (hs : s ∈ ingresses.flatMap (Ingress.sites options))
    (he : e ∈ groups options ingresses) (hkey : s.key = e.1) {t : IngressTls} (ht : t ∈ s.tls) :
    t ∈ e.2.tls := by
  rw [RuleGroup.tls_of_ofSites (mem_groups_iff.mp he), List.mem_flatMap]
  exact ⟨s, by simp [hs, hkey], ht⟩

theorem mem_groups_of_mem_keptGroups (h : e ∈ keptGroups options ingresses) :
    e ∈ groups options ingresses :=
  (KeyedGroup.kept_sublist _ _).subset h

/-- The groups before a group have smaller keys. -/
theorem compare_of_mem_left {xs ys : List KeyedGroup} (h : groups options ingresses = xs ++ e :: ys)
    (he' : e' ∈ xs) : compare e'.1 e.1 = .lt := by
  have hs := sorted_groups options ingresses
  rw [h] at hs
  exact (List.pairwise_append.mp hs).2.2 e' he' e (List.mem_cons_self ..)

/-- A kept group does not clash with the kept groups before it. -/
theorem exists_split_of_mem_keptGroups (h : e ∈ keptGroups options ingresses) :
    ∃ pre post, keptGroups options ingresses = pre ++ e :: post ∧
      KeyedGroup.clash? pre e = none ∧ ∀ e' ∈ pre, compare e'.1 e.1 = .lt := by
  obtain ⟨xs, ys, hsplit, hc⟩ := KeyedGroup.exists_split_of_mem_kept h
  have hk := KeyedGroup.kept_of_split ys hc
  rw [← hsplit] at hk
  exact ⟨KeyedGroup.kept [] xs, _, hk, hc,
    fun e' he' => compare_of_mem_left hsplit ((KeyedGroup.kept_sublist _ _).subset he')⟩

/-- A reported group clashes with the kept groups before it. -/
theorem exists_prefix_of_mem_reportedGroups {message : String}
    (h : (e, message) ∈ reportedGroups options ingresses) :
    ∃ pre, pre <+: keptGroups options ingresses ∧
      KeyedGroup.clash? pre e = some message ∧ ∀ e' ∈ pre, compare e'.1 e.1 = .lt := by
  obtain ⟨xs, ys, hsplit, hc⟩ := KeyedGroup.exists_split_of_mem_reported h
  have hk := KeyedGroup.kept_append [] xs (e :: ys)
  rw [← hsplit] at hk
  exact ⟨KeyedGroup.kept [] xs, ⟨_, hk.symm⟩, hc,
    fun e' he' => compare_of_mem_left hsplit ((KeyedGroup.kept_sublist _ _).subset he')⟩

/-- Of two kept groups, the one with the smaller key was kept before the other. -/
theorem mem_left_of_compare {pre post : List KeyedGroup}
    (h : keptGroups options ingresses = pre ++ e :: post) (he' : e' ∈ keptGroups options ingresses)
    (hlt : compare e'.1 e.1 = .lt) : e' ∈ pre := by
  have hs := sorted_keptGroups options ingresses
  rw [h] at hs he'
  exact OrderedMap.mem_left_of_compare hs he' hlt

theorem mem_kept_or_reported (h : e ∈ groups options ingresses) :
    e ∈ keptGroups options ingresses ∨
      ∃ message, (e, message) ∈ reportedGroups options ingresses := by
  rcases List.mem_append.mp ((KeyedGroup.perm_kept_reported [] _).mem_iff.mpr h) with h | h
  · exact .inl h
  · obtain ⟨⟨_, message⟩, hm, rfl⟩ := List.mem_map.mp h
    exact .inr ⟨message, hm⟩

/-- A route is that of a kept group or of a placed default backend. -/
theorem mem_httpRoutes_convert_iff {name : ObjectName} {r : HttpRoute} :
    (name, r) ∈ (convert options ingresses).1.httpRoutes.entries ↔
      (∃ e ∈ keptGroups options ingresses, e.2.routes ≠ [] ∧ name = e.routeName ∧
        r = e.2.toHttpRoute e.1) ∨
      ∃ b ∈ placedDefaults options ingresses, name = b.routeName ∧ r = b.toHttpRoute := by
  rw [(perm_httpRoutes_convert options ingresses).mem_iff, attachments, Attachment.routes_append,
    List.mem_append, KeyedGroup.mem_routes_map_attachment, DefaultRoute.routes_map_attachment]
  simp [eq_comm]

end Conversion

end GatewayMigration
