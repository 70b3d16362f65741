/-!
# Ordered maps

A finite map kept as its list of entries in strictly ascending key order. Iterating a map visits
its keys in order, and two maps with the same look-ups are the same map.

## Main definitions

* `OrderedMap κ α`: a map from `κ` to `α`
* `OrderedMap.find? m k`: the value at a key
* `OrderedMap.upsert m k f`: put `f` of the present value, if any, at a key
* `OrderedMap.insert`, `OrderedMap.ofList`, `OrderedMap.filter`, `OrderedMap.mapValues`

## Main results

* `eq_of_pairwise_of_mem_iff`: a list in a strict order is determined by its elements
* `find?_upsert`: an upsert changes the look-up of its own key only
* `ext_find?`: a map is determined by its look-ups
-/

namespace GatewayMigration

universe u v

/-- Two lists with the same elements are the same list, if both stand in a strict order. -/
theorem eq_of_pairwise_of_mem_iff {α : Type u} {r : α → α → Prop} (hr : ∀ a b, r a b → ¬r b a)
    {l l' : List α} (hl : l.Pairwise r) (hl' : l'.Pairwise r) (h : ∀ a, a ∈ l ↔ a ∈ l') :
    l = l' := by
  have hnodup : ∀ {l : List α}, l.Pairwise r → l.Nodup := by
    intro l hl
    refine hl.imp ?_
    rintro a _ hab rfl
    exact hr a a hab hab
  have hperm : l.Perm l' := (List.perm_ext_iff_of_nodup (hnodup hl) (hnodup hl')).mpr h
  refine hperm.eq_of_pairwise ?_ hl hl'
  intro a b _ _ hab hba
  exact absurd hba (hr a b hab)

/-- A finite map: its entries, in strictly ascending order of their keys. -/
structure OrderedMap (κ : Type) (α : Type u) [Ord κ] where
  /-- The entries, keys ascending. -/
  entries : List (κ × α)
  sorted : entries.Pairwise fun a b => compare a.1 b.1 = .lt

namespace OrderedMap

variable {κ : Type} {α : Type u} {β : Type v} [Ord κ]

instance [DecidableEq κ] [DecidableEq α] : DecidableEq (OrderedMap κ α) := fun a b =>
  if h : a.entries = b.entries then
    .isTrue (by cases a; cases b; cases h; rfl)
  else
    .isFalse fun e => h (e ▸ rfl)

/-- The map with no entries. -/
def empty : OrderedMap κ α := ⟨[], .nil⟩

instance : EmptyCollection (OrderedMap κ α) := ⟨empty⟩

instance : Inhabited (OrderedMap κ α) := ⟨empty⟩

/-- The keys, ascending. -/
def keys (m : OrderedMap κ α) : List κ := m.entries.map (·.1)

/-- The values, in the order of their keys. -/
def values (m : OrderedMap κ α) : List α := m.entries.map (·.2)

def isEmpty (m : OrderedMap κ α) : Bool := m.entries.isEmpty

/-- The value of the first entry with the key. -/
def lookupIn (k : κ) : List (κ × α) → Option α
  | [] => none
  | (k', v) :: rest => if compare k k' = .eq then some v else lookupIn k rest

/-- The value at a key. -/
def find? (m : OrderedMap κ α) (k : κ) : Option α := lookupIn k m.entries

def contains (m : OrderedMap κ α) (k : κ) : Bool := (m.find? k).isSome

/-- Put `f` of the present value at the key, keeping the order. -/
def upsertEntry (k : κ) (f : Option α → α) : List (κ × α) → List (κ × α)
  | [] => [(k, f none)]
  | (k', v) :: rest =>
    match compare k k' with
    | .lt => (k, f none) :: (k', v) :: rest
    | .eq => (k', f (some v)) :: rest
    | .gt => (k', v) :: upsertEntry k f rest

theorem key_of_mem_upsertEntry {k : κ} {f : Option α → α} {e : κ × α} {l : List (κ × α)}
    (h : e ∈ upsertEntry k f l) : e.1 = k ∨ ∃ e' ∈ l, e'.1 = e.1 := by
  induction l with
  | nil => simp_all [upsertEntry]
  | cons hd tl ih =>
    obtain ⟨k', v⟩ := hd
    simp only [upsertEntry] at h
    split at h <;> rcases List.mem_cons.1 h with rfl | h
    · exact .inl rfl
    · exact .inr ⟨e, h, rfl⟩
    · exact .inr ⟨(k', v), List.mem_cons_self .., rfl⟩
    · exact .inr ⟨e, List.mem_cons_of_mem _ h, rfl⟩
    · exact .inr ⟨(k', v), List.mem_cons_self .., rfl⟩
    · exact (ih h).imp_right fun ⟨e', he', he⟩ => ⟨e', List.mem_cons_of_mem _ he', he⟩

theorem sorted_upsertEntry [Std.TransOrd κ] (k : κ) (f : Option α → α) {l : List (κ × α)}
    (h : l.Pairwise fun a b => compare a.1 b.1 = .lt) :
    (upsertEntry k f l).Pairwise fun a b => compare a.1 b.1 = .lt := by
  induction l with
  | nil => simp [upsertEntry]
  | cons hd tl ih =>
    obtain ⟨k', v⟩ := hd
    rw [List.pairwise_cons] at h
    simp only [upsertEntry]
    split
    case _ hk =>
      refine .cons (fun a ha => ?_) (List.pairwise_cons.2 h)
      rcases List.mem_cons.1 ha with rfl | ha
      · exact hk
      · exact Std.TransCmp.lt_trans hk (h.1 a ha)
    case _ hk => exact .cons (fun a ha => h.1 a ha) h.2
    case _ hk =>
      refine .cons (fun a ha => ?_) (ih h.2)
      rcases key_of_mem_upsertEntry ha with e | ⟨e', he', e⟩
      · simpa [e] using Std.OrientedCmp.lt_of_gt hk
      · simpa [← e] using h.1 e' he'

variable [Std.TransOrd κ]

/-- Put `f` of the present value, if there is one, at the key. -/
def upsert (m : OrderedMap κ α) (k : κ) (f : Option α → α) : OrderedMap κ α :=
  ⟨upsertEntry k f m.entries, sorted_upsertEntry k f m.sorted⟩

/-- Put a value at the key, in place of any present one. -/
def insert (m : OrderedMap κ α) (k : κ) (v : α) : OrderedMap κ α := m.upsert k fun _ => v

/-- The map of a list of entries; of two entries with one key, the last one counts. -/
def ofList (l : List (κ × α)) : OrderedMap κ α := l.foldl (fun m e => m.insert e.1 e.2) empty

omit [Std.TransOrd κ] in
/-- The entries whose key and value pass a test. -/
def filter (p : κ → α → Bool) (m : OrderedMap κ α) : OrderedMap κ α :=
  ⟨m.entries.filter fun e => p e.1 e.2, m.sorted.filter _⟩

omit [Std.TransOrd κ] in
/-- Change each value, its key in view. -/
def mapValues (f : κ → α → β) (m : OrderedMap κ α) : OrderedMap κ β :=
  ⟨m.entries.map fun e => (e.1, f e.1 e.2), List.pairwise_map.2 m.sorted⟩

omit [Std.TransOrd κ] in
/-- Change the value at a key, if there is one. -/
def adjust (m : OrderedMap κ α) (k : κ) (f : α → α) : OrderedMap κ α :=
  m.mapValues fun k' v => if compare k k' = .eq then f v else v

/-! ### Look-ups -/

omit [Std.TransOrd κ] in
@[simp] theorem find?_empty (k : κ) : (empty : OrderedMap κ α).find? k = none := rfl

omit [Std.TransOrd κ] in
@[simp] theorem entries_empty : (empty : OrderedMap κ α).entries = [] := rfl

omit [Std.TransOrd κ] in
theorem lookupIn_eq_none_of_forall_lt {k : κ} {l : List (κ × α)}
    (h : ∀ e ∈ l, compare k e.1 = .lt) : lookupIn k l = none := by
  induction l with
  | nil => rfl
  | cons e l ih =>
    simp only [lookupIn, h e (List.mem_cons_self ..), reduceCtorEq, if_false]
    exact ih fun e' he' => h e' (List.mem_cons_of_mem _ he')

theorem lookupIn_upsertEntry [Std.LawfulEqOrd κ] [DecidableEq κ] (k k' : κ) (f : Option α → α)
    {l : List (κ × α)} (h : l.Pairwise fun a b => compare a.1 b.1 = .lt) :
    lookupIn k' (upsertEntry k f l) =
      if k' = k then some (f (lookupIn k l)) else lookupIn k' l := by
  induction l with
  | nil => by_cases e : k' = k <;> simp [upsertEntry, lookupIn, e]
  | cons hd tl ih =>
    obtain ⟨k₀, v⟩ := hd
    rw [List.pairwise_cons] at h
    simp only [upsertEntry]
    split
    case _ hk =>
      have hne : lookupIn k ((k₀, v) :: tl) = none := by
        refine lookupIn_eq_none_of_forall_lt fun a ha => ?_
        rcases List.mem_cons.1 ha with rfl | ha
        · exact hk
        · exact Std.TransCmp.lt_trans hk (h.1 a ha)
      by_cases e : k' = k
      · subst e
        rw [hne]
        simp [lookupIn]
      · simp [lookupIn, e]
    case _ hk =>
      have hk := Std.compare_eq_iff_eq.1 hk
      subst hk
      by_cases e : k' = k <;> simp [lookupIn, e]
    case _ hk =>
      have hne : k ≠ k₀ := fun e => by simp [e] at hk
      by_cases e : k' = k
      · subst e
        simp [lookupIn, hk, ih h.2]
      · simp [lookupIn, e, ih h.2]

/-- An upsert changes the look-up of its own key only. -/
theorem find?_upsert [Std.LawfulEqOrd κ] [DecidableEq κ] (m : OrderedMap κ α) (k k' : κ)
    (f : Option α → α) :
    (m.upsert k f).find? k' = if k' = k then some (f (m.find? k)) else m.find? k' :=
  lookupIn_upsertEntry k k' f m.sorted

theorem find?_insert [Std.LawfulEqOrd κ] [DecidableEq κ] (m : OrderedMap κ α) (k k' : κ) (v : α) :
    (m.insert k v).find? k' = if k' = k then some v else m.find? k' :=
  find?_upsert m k k' _

omit [Std.TransOrd κ] in
theorem lookupIn_map (f : κ → α → β) [Std.LawfulEqOrd κ] (k : κ) (l : List (κ × α)) :
    lookupIn k (l.map fun e => (e.1, f e.1 e.2)) = (lookupIn k l).map (f k) := by
  induction l with
  | nil => rfl
  | cons hd tl ih =>
    by_cases e : k = hd.1 <;> simp_all [lookupIn]

omit [Std.TransOrd κ] in
theorem find?_mapValues [Std.LawfulEqOrd κ] (f : κ → α → β) (m : OrderedMap κ α) (k : κ) :
    (m.mapValues f).find? k = (m.find? k).map (f k) :=
  lookupIn_map f k m.entries

omit [Std.TransOrd κ] in
theorem lookupIn_eq_some_iff [Std.TransOrd κ] [Std.LawfulEqOrd κ] {k : κ} {v : α}
    {l : List (κ × α)} (h : l.Pairwise fun a b => compare a.1 b.1 = .lt) :
    lookupIn k l = some v ↔ (k, v) ∈ l := by
  induction l with
  | nil => simp [lookupIn]
  | cons e l ih =>
    obtain ⟨k₀, v₀⟩ := e
    rw [List.pairwise_cons] at h
    by_cases hk : k = k₀
    · subst hk
      have : (k, v) ∉ l := fun hm => by simpa using h.1 _ hm
      simp [lookupIn, this, eq_comm]
    · simp [lookupIn, hk, ih h.2]

/-- A map is determined by its look-ups. -/
theorem ext_find? [Std.LawfulEqOrd κ] {m n : OrderedMap κ α} (h : ∀ k, m.find? k = n.find? k) :
    m = n := by
  have hmem : ∀ e, e ∈ m.entries ↔ e ∈ n.entries := by
    rintro ⟨k, v⟩
    rw [← lookupIn_eq_some_iff m.sorted, ← lookupIn_eq_some_iff n.sorted]
    exact iff_of_eq (congrArg (· = some v) (h k))
  have hasymm : ∀ a b : κ × α, compare a.1 b.1 = .lt → compare b.1 a.1 ≠ .lt :=
    fun _ _ => Std.OrientedCmp.not_lt_of_lt
  obtain ⟨l, hl⟩ := m
  obtain ⟨l', hl'⟩ := n
  obtain rfl : l = l' := eq_of_pairwise_of_mem_iff hasymm hl hl' hmem
  rfl

end OrderedMap

end GatewayMigration
