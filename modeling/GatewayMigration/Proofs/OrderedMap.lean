import GatewayMigration.OrderedMap
import GatewayMigration.Proofs.Lists
import Mathlib.Data.List.Perm.Basic

/-!
# Entries and look-ups of ordered maps

An entry of a map and a successful look-up are the same thing. A key that is new to a map adds
one entry to it, and a map that is built by changing one key after the other holds at each key
what the changes of that key made of it.

## Main definitions

* `buckets`: the values of each key of a list of pairs
* `restrict`: the part of a map with the keys that pass a test

## Main results

* `find?_eq_some_iff`, `contains_iff`: look-ups and entries
* `mem_left_of_compare`: in a list with ascending keys, what has a smaller key stands before
* `perm_entries_insert`: a new key adds one entry
* `find?_adjust`: an adjustment changes the look-up of its own key only
* `find?_foldl_upsert`: a map that is built by changes holds at a key what its changes made
* `mem_of_mem_buckets`, `perm_buckets`: a bucket holds the values of its key, and no value is lost
* `find?_filter`: the look-ups of a filtered map
* `restrict_foldl_upsert`: a restriction passes through the changes that built a map
* `find?_ofList`: the map of a list holds the last value of each key
* `ofList_eq_of_perm`: the order of a list without repeated keys does not count
-/

namespace GatewayMigration

namespace OrderedMap

universe u

variable {κ : Type} {α : Type u} [Ord κ] [Std.TransOrd κ] [Std.LawfulEqOrd κ]

/-! ### Entries -/

theorem find?_eq_some_iff {m : OrderedMap κ α} {k : κ} {v : α} :
    m.find? k = some v ↔ (k, v) ∈ m.entries :=
  lookupIn_eq_some_iff m.sorted

theorem contains_iff {m : OrderedMap κ α} {k : κ} :
    m.contains k = true ↔ ∃ v, (k, v) ∈ m.entries := by
  simp only [contains, Option.isSome_iff_exists, find?_eq_some_iff]

omit [Std.TransOrd κ] [Std.LawfulEqOrd κ] in
theorem contains_eq_false_iff {m : OrderedMap κ α} {k : κ} :
    m.contains k = false ↔ m.find? k = none := by
  simp [contains]

omit [Std.TransOrd κ] in
theorem nodup_keys (m : OrderedMap κ α) : m.keys.Nodup := by
  refine List.pairwise_map.mpr (m.sorted.imp fun {a b} h he => ?_)
  rw [he, Std.compare_self] at h
  cases h

omit [Std.LawfulEqOrd κ] in
/-- In a list with ascending keys, what has a smaller key stands before. -/
theorem mem_left_of_compare {xs ys : List (κ × α)} {e e' : κ × α}
    (hs : (xs ++ e :: ys).Pairwise fun a b => compare a.1 b.1 = .lt) (he' : e' ∈ xs ++ e :: ys)
    (hlt : compare e'.1 e.1 = .lt) : e' ∈ xs := by
  obtain ⟨-, hys, -⟩ := List.pairwise_append.mp hs
  rcases List.mem_append.mp he' with he' | he'
  · exact he'
  rcases List.mem_cons.mp he' with rfl | he'
  · -- a key is not before itself
    rw [Std.compare_self] at hlt
    cases hlt
  · -- what comes after has a greater key
    have hgt := Std.OrientedCmp.gt_of_lt (List.rel_of_pairwise_cons hys he')
    rw [hlt] at hgt
    cases hgt

/-- Two entries with one key are the same entry. -/
theorem eq_of_mem_entries {m : OrderedMap κ α} {k : κ} {v w : α} (hv : (k, v) ∈ m.entries)
    (hw : (k, w) ∈ m.entries) : v = w := by
  rw [← find?_eq_some_iff] at hv hw
  exact Option.some.inj (hv.symm.trans hw)

omit [Std.TransOrd κ] [Std.LawfulEqOrd κ] in
theorem perm_upsertEntry {k : κ} {f : Option α → α} {l : List (κ × α)}
    (h : lookupIn k l = none) : (upsertEntry k f l).Perm ((k, f none) :: l) := by
  induction l with
  | nil => exact .refl _
  | cons hd tl ih =>
    obtain ⟨k', v⟩ := hd
    simp only [lookupIn] at h
    simp only [upsertEntry]
    split <;> rename_i hc
    · -- the key comes before all others
      exact .refl _
    · -- the key is there already, against the assumption
      simp [hc] at h
    · -- the entry goes into the rest (induction)
      rw [hc] at h
      exact ((ih h).cons _).trans (.swap _ _ _)

omit [Std.LawfulEqOrd κ] in
/-- A new key adds one entry. -/
theorem perm_entries_insert {m : OrderedMap κ α} {k : κ} (h : m.find? k = none) (v : α) :
    (m.insert k v).entries.Perm ((k, v) :: m.entries) :=
  perm_upsertEntry h

omit [Std.TransOrd κ] in
/-- An adjustment changes the look-up of its own key only. -/
theorem find?_adjust [DecidableEq κ] (m : OrderedMap κ α) (k k' : κ) (f : α → α) :
    (m.adjust k f).find? k' = if k' = k then (m.find? k).map f else m.find? k' := by
  rw [adjust, find?_mapValues]
  by_cases hk : k' = k
  · subst hk
    simp
  · have hne : compare k k' ≠ .eq := fun h => hk (Std.LawfulEqOrd.eq_of_compare h).symm
    simp [hk, hne]

/-! ### Maps that are built by changes -/

/-- A map that is built by changing one key after the other holds at a key what the changes of
that key made of it, in their order. -/
theorem find?_foldl_upsert [DecidableEq κ] {σ : Type u} (key : σ → κ) (f : σ → Option α → α)
    (l : List σ) (m : OrderedMap κ α) (k : κ) :
    (l.foldl (fun m s => m.upsert (key s) (f s)) m).find? k =
      (l.filter fun s => key s = k).foldl (fun v s => some (f s v)) (m.find? k) := by
  induction l generalizing m with
  | nil => rfl
  | cons s l ih =>
    rw [List.foldl_cons, ih, find?_upsert]
    by_cases hk : key s = k
    · -- the change counts at `k`
      simp [hk]
    · -- the change is of another key, on both sides
      simp [hk, Ne.symm hk]

/-! ### Buckets -/

omit [Std.LawfulEqOrd κ] in
/-- The values of each key, in the order of a list of pairs. -/
def buckets (l : List (κ × α)) : OrderedMap κ (List α) :=
  l.foldl (fun m p => m.upsert p.1 fun values => values.getD [] ++ [p.2]) ∅

theorem find?_buckets [DecidableEq κ] (l : List (κ × α)) (k : κ) :
    (buckets l).find? k =
      if l.filter (fun p => p.1 = k) = [] then none
      else some ((l.filter fun p => p.1 = k).map (·.2)) := by
  have hfold : ∀ (ps : List (κ × α)) (values : List α),
      ps.foldl (fun v p => some (v.getD [] ++ [p.2])) (some values) =
        some (values ++ ps.map (·.2)) := by
    intro ps
    induction ps with
    | nil => simp
    | cons p ps ih => simp [ih]
  refine (find?_foldl_upsert Prod.fst
    (fun (p : κ × α) values => values.getD [] ++ [p.2]) l ∅ k).trans ?_
  cases l.filter fun p => p.1 = k with
  | nil => rfl
  | cons p ps => exact hfold ps [p.2]

/-- A bucket holds the values of its key. -/
theorem mem_of_mem_buckets {l : List (κ × α)} {e : κ × List α} (he : e ∈ (buckets l).entries)
    {v : α} : v ∈ e.2 ↔ (e.1, v) ∈ l := by
  classical
  have hfind := find?_buckets l e.1
  rw [find?_eq_some_iff.mpr he] at hfind
  split at hfind
  case isTrue => cases hfind
  case isFalse =>
    rw [Option.some.inj hfind]
    simp

/-- There is a bucket for each key. -/
theorem mem_keys_buckets {l : List (κ × α)} {k : κ} :
    k ∈ (buckets l).entries.map (·.1) ↔ ∃ v, (k, v) ∈ l := by
  classical
  constructor
  · intro hk
    obtain ⟨e, he, rfl⟩ := List.mem_map.mp hk
    have hfind := find?_buckets l e.1
    rw [find?_eq_some_iff.mpr he] at hfind
    split at hfind
    case isTrue => cases hfind
    case isFalse hne =>
      obtain ⟨p, hp⟩ := List.exists_mem_of_ne_nil _ hne
      obtain ⟨hp, hk⟩ := List.mem_filter.mp hp
      exact ⟨p.2, by rwa [← of_decide_eq_true hk]⟩
  · rintro ⟨v, hv⟩
    have hfind := find?_buckets l k
    rw [if_neg (List.ne_nil_of_mem (List.mem_filter.mpr ⟨hv, decide_eq_true rfl⟩))] at hfind
    exact List.mem_map.mpr ⟨_, find?_eq_some_iff.mp hfind, rfl⟩

omit [Std.TransOrd κ] in
theorem perm_flatMap_upsertEntry (k : κ) (v : α) (m : List (κ × List α)) :
    ((upsertEntry k (fun values => values.getD [] ++ [v]) m).flatMap fun e =>
        e.2.map (e.1, ·)).Perm ((m.flatMap fun e => e.2.map (e.1, ·)) ++ [(k, v)]) := by
  induction m with
  | nil => exact .refl _
  | cons e m ih =>
    obtain ⟨k', values⟩ := e
    simp only [upsertEntry]
    split <;> rename_i hc
    · -- the key is new and comes before all others
      exact (List.perm_append_singleton (k, v) _).symm
    · -- the value joins those of its key
      obtain rfl := Std.LawfulEqOrd.eq_of_compare hc
      simp only [List.flatMap_cons, Option.getD_some, List.map_append, List.append_assoc]
      exact List.perm_append_comm.append_left _
    · -- the key comes later (induction)
      simp only [List.flatMap_cons, List.append_assoc]
      exact ih.append_left _

/-- **Buckets neither lose nor repeat a value.** -/
theorem perm_buckets (l : List (κ × α)) :
    ((buckets l).entries.flatMap fun e => e.2.map (e.1, ·)).Perm l := by
  have hfold : ∀ (l : List (κ × α)) (m : OrderedMap κ (List α)),
      ((l.foldl (fun m p => m.upsert p.1 fun values => values.getD [] ++ [p.2]) m).entries.flatMap
        fun e => e.2.map (e.1, ·)).Perm ((m.entries.flatMap fun e => e.2.map (e.1, ·)) ++ l) := by
    intro l
    induction l with
    | nil => simp
    | cons p l ih =>
      intro m
      have h := (perm_flatMap_upsertEntry p.1 p.2 m.entries).append_right l
      rw [List.append_assoc] at h
      exact (ih _).trans h
  exact hfold l ∅

/-! ### Filters -/

theorem find?_filter (p : κ → α → Bool) (m : OrderedMap κ α) (k : κ) :
    (m.filter p).find? k = (m.find? k).filter (p k) := by
  refine Option.ext fun v => ?_
  rw [find?_eq_some_iff, Option.filter_eq_some_iff, find?_eq_some_iff]
  simp [filter]

omit [Std.TransOrd κ] [Std.LawfulEqOrd κ] in
/-- The entries whose key passes a test. -/
def restrict (p : κ → Bool) (m : OrderedMap κ α) : OrderedMap κ α := m.filter fun k _ => p k

variable {p : κ → Bool}

theorem find?_restrict (m : OrderedMap κ α) (k : κ) :
    (m.restrict p).find? k = if p k then m.find? k else none := by
  rw [restrict, find?_filter]
  cases hk : p k <;> cases m.find? k <;> simp

theorem restrict_upsert [DecidableEq κ] (m : OrderedMap κ α) (k : κ) (f : Option α → α) :
    (m.upsert k f).restrict p = if p k then (m.restrict p).upsert k f else m.restrict p := by
  refine ext_find? fun k' => ?_
  by_cases hk : k' = k
  · subst hk
    by_cases hp : p k' <;> simp [find?_restrict, find?_upsert, hp]
  · by_cases hp : p k <;> simp [find?_restrict, find?_upsert, hp, hk]

/-- **A restriction passes through the changes that built a map**: those of other keys are left
out. -/
theorem restrict_foldl_upsert [DecidableEq κ] {σ : Type u} (key : σ → κ)
    (f : σ → Option α → α) (l : List σ) (m : OrderedMap κ α) :
    (l.foldl (fun m s => m.upsert (key s) (f s)) m).restrict p =
      (l.filter fun s => p (key s)).foldl (fun m s => m.upsert (key s) (f s)) (m.restrict p) := by
  have hfilter : (l.filter fun s => p (key s)) = l.filter fun s => decide (p (key s) = true) := by
    simp only [Bool.decide_eq_true]
  rw [hfilter]
  exact foldl_filter_of_step (fun s _ m => restrict_upsert m (key s) (f s)) m

theorem restrict_ofList [DecidableEq κ] (l : List (κ × α)) :
    (ofList l).restrict p = ofList (l.filter fun e => p e.1) :=
  restrict_foldl_upsert Prod.fst (fun e _ => e.2) l empty

theorem restrict_buckets [DecidableEq κ] (l : List (κ × α)) :
    (buckets l).restrict p = buckets (l.filter fun e => p e.1) :=
  restrict_foldl_upsert Prod.fst (fun (e : κ × α) values => values.getD [] ++ [e.2]) l ∅

/-! ### Maps of lists -/

/-- The map of a list holds at a key the last value that the list has for it. -/
theorem find?_ofList [DecidableEq κ] (l : List (κ × α)) (k : κ) :
    (ofList l).find? k = ((l.filter fun e => e.1 = k).map (·.2)).getLast? := by
  have hlast : ∀ (l : List (κ × α)) (v : Option α),
      l.foldl (fun _ e => some e.2) v = (l.map (·.2)).getLast?.or v := by
    intro l
    induction l with
    | nil => intro v; rfl
    | cons e l ih =>
      intro v
      rw [List.foldl_cons, ih, List.map_cons, List.getLast?_cons]
      cases (l.map (·.2)).getLast? <;> rfl
  refine (find?_foldl_upsert Prod.fst (fun e _ => e.2) l empty k).trans ?_
  rw [hlast, find?_empty, Option.or_none]

theorem mem_of_mem_ofList [DecidableEq κ] {l : List (κ × α)} {e : κ × α}
    (he : e ∈ (ofList l).entries) : e ∈ l := by
  obtain ⟨k, v⟩ := e
  rw [← find?_eq_some_iff, find?_ofList] at he
  obtain ⟨e', hmem, rfl⟩ := List.mem_map.mp (List.mem_of_getLast? he)
  obtain ⟨hmem, hk⟩ := List.mem_filter.mp hmem
  rwa [← of_decide_eq_true hk]

/-- **The order of a list without repeated keys does not count** for its map. -/
theorem ofList_eq_of_perm [DecidableEq κ] {l l' : List (κ × α)} (hperm : l.Perm l')
    (hnodup : (l.map (·.1)).Nodup) : ofList l = ofList l' := by
  refine ext_find? fun k => ?_
  rw [find?_ofList, find?_ofList]
  -- a key has one value at most, so its values are the same list on both sides
  have hk := hperm.filter fun e => e.1 = k
  rcases hl : l.filter fun e => e.1 = k with _ | ⟨e, _ | ⟨e', rest⟩⟩
  · rw [hl] at hk ⊢
    rw [hk.symm.eq_nil]
  · rw [hl] at hk ⊢
    rw [List.perm_singleton.mp hk.symm]
  · exfalso
    have hsub : ((e :: e' :: rest).map (·.1)).Nodup := by
      rw [← hl]
      exact hnodup.sublist (List.filter_sublist.map _)
    have hmem : ∀ x ∈ e :: e' :: rest, x.1 = k := by
      intro x hx
      rw [← hl] at hx
      exact of_decide_eq_true (List.mem_filter.mp hx).2
    simp [hmem] at hsub

end OrderedMap

end GatewayMigration
