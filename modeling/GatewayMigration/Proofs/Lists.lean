import Mathlib.Data.List.Forall2
import Mathlib.Data.List.Induction
import Mathlib.Data.List.Nodup

/-!
# Parts of lists, and runs over them

Lists are made from other lists, and their parts from parts of those. An element is taken where it
first occurs, and a list is known by its elements and their order. A run over a list that is looked
at from one side only is a run over the part of the list that can be seen from there.

## Main results

* `filter_flatMap_of_forall`, `filter_filterMap_of_forall`, `filter_map_of_forall`: the part of a
  list is made from a part of its source
* `flatMap_filter_of_forall`: elements that nothing comes from
* `filterMap_eraseIdx`: an element that gives nothing
* `forall₂_filter_filterMap`: the elements that give something, beside what they give
* `map_mapIdx_of_forall`, `map_mapIdx_eq_range`: positions that are not looked at, and the
  positions themselves
* `filter_key_eq_singleton`: an element that has a key of its own
* `getLast?_filterMap_concat`: the last thing that is given
* `eraseDups_concat`: an element at the end occurs there for the first time, or it does not count
* `mem_foldl_insert`, `foldl_insert_of_subset`: a run that adds what is not there yet
* `eq_of_perm_of_order`: a list is determined by its elements and the order of each two of them
* `pair_sublist_swap`: two neighbours that trade places
* `eq_of_append_eq_append`: a list that goes up to a mark can be told from what follows
* `mapM_eq_filterMap`, `mapM_error_of_first`: a list whose elements can all be read, and one with an
  element that cannot
* `forall_or_exists_first`: the first element without a property
* `foldl_filter_of_step`: a run that is looked at from one side
* `apply_foldl_eq`: what no step changes, a run does not change
-/

namespace GatewayMigration

universe u v w

/-! ### Parts -/

theorem filter_eq_of_forall {α : Type} {p : α → Bool} {b : Bool} {l : List α}
    (h : ∀ a ∈ l, p a = b) : l.filter p = if b then l else [] := by
  cases b with
  | true => exact List.filter_eq_self.mpr h
  | false => exact List.filter_eq_nil_iff.mpr fun a ha => by simp [h a ha]

/-- Where all elements that come from one source pass a test along with it, the tests can be made
on the sources. -/
theorem filter_flatMap_of_forall {α β : Type} {p : α → Bool} {q : β → Bool} {f : α → List β}
    {l : List α} (h : ∀ a ∈ l, ∀ b ∈ f a, q b = p a) :
    (l.flatMap f).filter q = (l.filter p).flatMap f := by
  induction l with
  | nil => rfl
  | cons a l ih =>
    rw [List.flatMap_cons, List.filter_append, filter_eq_of_forall (h a (List.mem_cons_self ..)),
      ih fun a' ha' => h a' (List.mem_cons_of_mem _ ha')]
    by_cases hp : p a <;> simp [hp]

theorem filter_map_of_forall {α β : Type} {p : α → Bool} {q : β → Bool} {f : α → β} {l : List α}
    (h : ∀ a ∈ l, q (f a) = p a) : (l.map f).filter q = (l.filter p).map f := by
  rw [List.filter_map]
  exact congrArg _ (List.filter_congr h)

theorem filter_filterMap_of_forall {α β : Type} {p : α → Bool} {q : β → Bool} {f : α → Option β}
    {l : List α} (h : ∀ a ∈ l, ∀ b, f a = some b → q b = p a) :
    (l.filterMap f).filter q = (l.filter p).filterMap f := by
  induction l with
  | nil => rfl
  | cons a l ih =>
    have hrest := ih fun a' ha' => h a' (List.mem_cons_of_mem _ ha')
    cases hf : f a with
    | none => by_cases hp : p a <;> simp [hf, hp, hrest]
    | some b =>
      have hb := h a (List.mem_cons_self ..) b hf
      by_cases hp : p a <;> simp [hf, hp, hb, hrest]

/-- Elements that nothing comes from may be left out. -/
theorem flatMap_filter_of_forall {α β : Type} {p : α → Bool} {f : α → List β} {l : List α}
    (h : ∀ a ∈ l, p a = false → f a = []) : (l.filter p).flatMap f = l.flatMap f := by
  induction l with
  | nil => rfl
  | cons a l ih =>
    have hrest := ih fun a' ha' => h a' (List.mem_cons_of_mem _ ha')
    cases hp : p a with
    | true => rw [List.filter_cons, hp, if_pos rfl, List.flatMap_cons, List.flatMap_cons, hrest]
    | false =>
      rw [List.filter_cons, hp, if_neg Bool.false_ne_true, List.flatMap_cons,
        h a (List.mem_cons_self ..) hp, List.nil_append, hrest]

/-- An element that gives nothing may be left out. -/
theorem filterMap_eraseIdx {α β : Type} {f : α → Option β} {l : List α} {j : Nat} {a : α}
    (ha : l[j]? = some a) (hf : f a = none) : (l.eraseIdx j).filterMap f = l.filterMap f := by
  induction l generalizing j with
  | nil => rfl
  | cons x l ih =>
    cases j with
    | zero =>
      obtain rfl : x = a := Option.some.inj ha
      rw [List.eraseIdx_cons_zero, List.filterMap_cons_none hf]
    | succ j => rw [List.eraseIdx_cons_succ, List.filterMap_cons, List.filterMap_cons, ih ha]

/-- Where a position is not looked at, a list is mapped as it is without positions. -/
theorem map_mapIdx_of_forall {α β γ : Type} {f : Nat → α → β} {g : β → γ} {f' : α → γ}
    (h : ∀ n a, g (f n a) = f' a) (l : List α) : (l.mapIdx f).map g = l.map f' := by
  apply List.ext_getElem
  · simp
  · intro n h₁ h₂
    simp [h]

/-- The indices of a mapped list are those of the list. -/
theorem map_mapIdx_eq_range {α β : Type} {f : Nat → α → β} {index : β → Nat}
    (h : ∀ n a, index (f n a) = n) (l : List α) : (l.mapIdx f).map index = List.range l.length := by
  apply List.ext_getElem
  · simp
  · intro n h₁ h₂
    simp [h]

/-- Only one element of a list has a key if the keys are different. -/
theorem filter_key_eq_singleton {α β : Type} [DecidableEq β] (key : α → β) {l : List α} {a : α}
    (h : (l.map key).Nodup) (ha : a ∈ l) : l.filter (fun x => key x = key a) = [a] := by
  induction l with
  | nil => cases ha
  | cons x l ih =>
    obtain ⟨hx, hl⟩ := List.nodup_cons.mp h
    rcases List.mem_cons.mp ha with rfl | ha
    · -- no later element has the key
      have hnil : l.filter (fun x => key x = key a) = [] := by
        refine List.filter_eq_nil_iff.mpr fun y hy hk => hx ?_
        rw [← of_decide_eq_true hk]
        exact List.mem_map_of_mem hy
      rw [List.filter_cons_of_pos (by simp), hnil]
    · have hne : key x ≠ key a := fun hk => hx (hk ▸ List.mem_map_of_mem ha)
      rw [List.filter_cons_of_neg (by simpa using hne), ih hl ha]

/-- The last thing that is given, when there is one more element. -/
theorem getLast?_filterMap_concat {α β : Type} (f : α → Option β) (l : List α) (a : α) :
    ((l ++ [a]).filterMap f).getLast? = (f a).or (l.filterMap f).getLast? := by
  rw [List.filterMap_append]
  cases h : f a with
  | none => rw [List.filterMap_cons_none h, List.filterMap_nil, List.append_nil, Option.none_or]
  | some b =>
    rw [List.filterMap_cons_some h, List.filterMap_nil, List.getLast?_concat, Option.some_or]

/-! ### First occurrences -/

section EraseDups

variable {α : Type} [DecidableEq α]

/-- An element at the end of a list occurs there for the first time, or it does not count. -/
theorem eraseDups_concat (l : List α) (a : α) :
    (l ++ [a]).eraseDups = if a ∈ l then l.eraseDups else l.eraseDups ++ [a] := by
  rw [List.eraseDups_append]
  by_cases ha : a ∈ l <;> simp [List.removeAll, List.eraseDups_cons, ha]

theorem nodup_eraseDups (l : List α) : l.eraseDups.Nodup := by
  induction l using List.reverseRecOn with
  | nil => exact List.nodup_nil
  | append_singleton l a ih =>
    rw [eraseDups_concat]
    split
    case isTrue => exact ih
    case isFalse ha =>
      refine List.nodup_append.mpr ⟨ih, List.nodup_singleton a, ?_⟩
      intro x hx y hy hxy
      rw [List.mem_singleton] at hy
      exact ha (hy ▸ hxy ▸ List.mem_eraseDups.mp hx)

end EraseDups

/-! ### Elements that are added once -/

section Once

variable {α : Type} [BEq α] [LawfulBEq α]

/-- A run that adds what is not there yet. -/
theorem mem_foldl_insert (l acc : List α) (a : α) :
    a ∈ l.foldl (fun acc a => if acc.contains a then acc else acc ++ [a]) acc ↔
      a ∈ acc ∨ a ∈ l := by
  induction l generalizing acc with
  | nil => simp
  | cons x l ih =>
    rw [List.foldl_cons, ih]
    by_cases hx : x ∈ acc
    · -- an element that is there is not added again
      simp only [List.contains_iff_mem.mpr hx, if_true, List.mem_cons]
      refine ⟨Or.imp_right .inr, ?_⟩
      rintro (ha | rfl | ha)
      · exact .inl ha
      · exact .inl hx
      · exact .inr ha
    · simp [hx, or_assoc]

theorem nodup_foldl_insert (l acc : List α) (h : acc.Nodup) :
    (l.foldl (fun acc a => if acc.contains a then acc else acc ++ [a]) acc).Nodup := by
  induction l generalizing acc with
  | nil => exact h
  | cons x l ih =>
    rw [List.foldl_cons]
    refine ih _ ?_
    split
    case isTrue => exact h
    case isFalse hx =>
      refine List.nodup_append.mpr ⟨h, List.nodup_singleton x, ?_⟩
      rintro a ha _ hx' rfl
      rw [List.mem_singleton.mp hx'] at ha
      exact hx (List.contains_iff_mem.mpr ha)

theorem foldl_insert_of_subset {l acc : List α} (h : ∀ a ∈ l, a ∈ acc) :
    l.foldl (fun acc a => if acc.contains a then acc else acc ++ [a]) acc = acc := by
  induction l with
  | nil => rfl
  | cons x l ih =>
    have hx : acc.contains x = true := List.contains_iff_mem.mpr (h x (List.mem_cons_self ..))
    rw [List.foldl_cons, if_pos hx]
    exact ih fun a ha => h a (List.mem_cons_of_mem _ ha)

end Once

/-! ### Orders -/

section Order

variable {α : Type}

/-- In a list without repetitions, two elements stand in one order only. -/
theorem eq_of_pair_sublist {l : List α} {a b : α} (hnodup : l.Nodup) (hab : [a, b].Sublist l)
    (hba : [b, a].Sublist l) : a = b := by
  induction l with
  | nil => cases hab
  | cons x l ih =>
    obtain ⟨hx, hl⟩ := List.nodup_cons.mp hnodup
    cases hab with
    | cons _ hab =>
      cases hba with
      | cons _ hba => exact ih hl hab hba
      | cons_cons _ hba =>
        -- `b` stands first, so it does not stand after `a` as well
        exact absurd (hab.subset (by simp)) hx
    | cons_cons _ hab =>
      cases hba with
      | cons _ hba => exact absurd (hba.subset (by simp)) hx
      | cons_cons _ hba => rfl

/-- **A list is determined** by its elements and the order of each two of them. -/
theorem eq_of_perm_of_order {l l' : List α} (hperm : l.Perm l') (hnodup : l.Nodup)
    (horder : ∀ a b, [a, b].Sublist l → [a, b].Sublist l') : l = l' := by
  have hnodup' : l'.Nodup := hperm.nodup_iff.mp hnodup
  -- both lists ascend in the order of the second one
  have hl : l.Pairwise fun a b => [a, b].Sublist l' :=
    List.pairwise_iff_forall_sublist.mpr fun {a b} => horder a b
  have hl' : l'.Pairwise fun a b => [a, b].Sublist l' :=
    List.pairwise_iff_forall_sublist.mpr id
  apply List.Perm.eq_of_pairwise _ hl hl' hperm
  intro a b _ _ hab hba
  exact eq_of_pair_sublist hnodup' hab hba

/-- Where a test keeps the order of each two elements that pass it, it keeps the same list. -/
theorem filter_eq_of_perm_of_order {l l' : List α} {p : α → Bool} (hperm : l.Perm l')
    (hnodup : l.Nodup)
    (horder : ∀ a b, p a = true → p b = true → [a, b].Sublist l → [a, b].Sublist l') :
    l.filter p = l'.filter p := by
  apply eq_of_perm_of_order (hperm.filter p) (hnodup.filter p)
  intro a b hab
  have ha : p a = true := List.of_mem_filter (hab.subset (by simp))
  have hb : p b = true := List.of_mem_filter (hab.subset (by simp))
  have hab' : [a, b].Sublist l' := horder a b ha hb (hab.trans List.filter_sublist)
  simpa [ha, hb] using hab'.filter p

/-- Where two neighbours trade places, only their own order changes. -/
theorem pair_sublist_swap {a b x y : α} {l l' : List α} (hne : ¬ (a = x ∧ b = y))
    (h : [a, b].Sublist (l ++ x :: y :: l')) : [a, b].Sublist (l ++ y :: x :: l') := by
  induction l with
  | nil =>
    cases h with
    | cons _ h =>
      cases h with
      | cons _ h => exact (h.cons x).cons y
      | cons_cons _ h => exact (h.cons x).cons_cons a
    | cons_cons _ h =>
      cases h with
      | cons _ h => exact (h.cons_cons a).cons y
      | cons_cons _ h => exact absurd ⟨rfl, rfl⟩ hne
  | cons z l ih =>
    cases h with
    | cons _ h => exact (ih h).cons z
    | cons_cons _ h =>
      -- `a` stands before the two, and `b` is behind it on both sides
      have hperm : (l ++ x :: y :: l').Perm (l ++ y :: x :: l') :=
        (List.Perm.swap y x l').append_left l
      have hb : b ∈ l ++ x :: y :: l' := h.subset (List.mem_singleton_self b)
      exact (List.singleton_sublist.mpr (hperm.mem_iff.mp hb)).cons_cons a

end Order

/-! ### Marks -/

/-- **A list that goes up to a mark, or to the end, can be told from what follows.** -/
theorem eq_of_append_eq_append {α : Type} {isMark : α → Bool} {xs xs' ys ys' : List α}
    (hxs : ∀ a ∈ xs, isMark a = false) (hxs' : ∀ a ∈ xs', isMark a = false)
    (hys : ∀ a ∈ ys.head?, isMark a = true) (hys' : ∀ a ∈ ys'.head?, isMark a = true)
    (h : xs ++ ys = xs' ++ ys') : xs = xs' ∧ ys = ys' := by
  induction xs generalizing xs' with
  | nil =>
    cases xs' with
    | nil => exact ⟨rfl, h⟩
    | cons a xs' =>
      -- what follows on the left begins with an element that is no mark
      rw [List.nil_append, List.cons_append] at h
      subst h
      have hmark := hys a rfl
      rw [hxs' a (List.mem_cons_self ..)] at hmark
      cases hmark
  | cons a xs ih =>
    rw [List.forall_mem_cons] at hxs
    cases xs' with
    | nil =>
      rw [List.nil_append, List.cons_append] at h
      subst h
      have hmark := hys' a rfl
      rw [hxs.1] at hmark
      cases hmark
    | cons a' xs' =>
      rw [List.forall_mem_cons] at hxs'
      rw [List.cons_append, List.cons_append] at h
      obtain ⟨rfl, htail⟩ := List.cons.inj h
      obtain ⟨rfl, hrest⟩ := ih hxs.2 hxs'.2 htail
      exact ⟨rfl, hrest⟩

/-! ### Lists that are read -/

/-- **A list whose elements can all be read is read as a whole**, whatever a failure would be. -/
theorem mapM_eq_filterMap {m : Type → Type} [Monad m] [LawfulMonad m] {α β : Type} {f : α → m β}
    {g : α → Option β} {l : List α} (h : ∀ a ∈ l, ∃ b, g a = some b ∧ f a = pure b) :
    l.mapM f = pure (l.filterMap g) := by
  induction l with
  | nil => rfl
  | cons a l ih =>
    obtain ⟨b, hg, hf⟩ := h a (List.mem_cons_self ..)
    have hl := ih fun a' ha' => h a' (List.mem_cons_of_mem _ ha')
    rw [List.mapM_cons, hf, hl, List.filterMap_cons_some hg, pure_bind, pure_bind]

/-- The elements that give something stand beside what they give. -/
theorem forall₂_filter_filterMap {α β : Type} (f : α → Option β) (l : List α) :
    List.Forall₂ (fun a b => f a = some b) (l.filter fun a => (f a).isSome) (l.filterMap f) := by
  induction l with
  | nil => exact .nil
  | cons a l ih =>
    cases h : f a with
    | none =>
      rw [List.filterMap_cons_none h, List.filter_cons_of_neg (by simp [h])]
      exact ih
    | some b =>
      rw [List.filterMap_cons_some h, List.filter_cons_of_pos (by simp [h])]
      exact .cons h ih

/-- A list has a first element without a property, if not all its elements have it. -/
theorem forall_or_exists_first {α : Type} (p : α → Prop) (l : List α) :
    (∀ a ∈ l, p a) ∨
      ∃ before a after, l = before ++ a :: after ∧ (∀ a' ∈ before, p a') ∧ ¬p a := by
  induction l with
  | nil =>
    left
    intro a ha
    cases ha
  | cons a l ih =>
    by_cases ha : p a
    · rcases ih with hl | ⟨before, a', after, rfl, hbefore, ha'⟩
      · exact .inl (List.forall_mem_cons.mpr ⟨ha, hl⟩)
      · exact .inr ⟨a :: before, a', after, rfl, List.forall_mem_cons.mpr ⟨ha, hbefore⟩, ha'⟩
    · exact .inr ⟨[], a, l, rfl, List.forall_mem_nil _, ha⟩

/-- **The first element that cannot be read** is why a list cannot be read. -/
theorem mapM_error_of_first {ε α β : Type} {f : α → Except ε β} {e : ε} {before after : List α}
    {a : α} (hbefore : ∀ a' ∈ before, ∃ b, f a' = .ok b) (ha : f a = .error e) :
    (before ++ a :: after).mapM f = .error e := by
  induction before with
  | nil =>
    rw [List.nil_append, List.mapM_cons, ha]
    rfl
  | cons first before ih =>
    obtain ⟨⟨b, hb⟩, hbefore⟩ := List.forall_mem_cons.mp hbefore
    rw [List.cons_append, List.mapM_cons, hb, ih hbefore]
    rfl

/-! ### Runs -/

/-- **A run that is looked at from one side.** Where a step is either made as it is on this side, or
cannot be seen from it, the run is a run over the elements that are seen. -/
theorem foldl_filter_of_step {σ : Type u} {σ' : Type v} {τ : Type w} {f : σ → σ'}
    {step : σ → τ → σ} {step' : σ' → τ → σ'} {p : τ → Prop} [DecidablePred p] {l : List τ}
    (h : ∀ x ∈ l, ∀ s, f (step s x) = if p x then step' (f s) x else f s) (s : σ) :
    f (l.foldl step s) = (l.filter fun x => p x).foldl step' (f s) := by
  induction l generalizing s with
  | nil => rfl
  | cons x l ih =>
    rw [List.foldl_cons, ih fun x' hx' => h x' (List.mem_cons_of_mem _ hx'),
      h x (List.mem_cons_self ..)]
    by_cases hx : p x <;> simp [hx]

/-- What no step changes, a run does not change. -/
theorem apply_foldl_eq {σ : Type u} {β : Type v} {τ : Type w} {f : σ → β} {step : σ → τ → σ}
    (h : ∀ s x, f (step s x) = f s) (l : List τ) (s : σ) : f (l.foldl step s) = f s := by
  induction l generalizing s with
  | nil => rfl
  | cons x l ih => rw [List.foldl_cons, ih, h]

end GatewayMigration
