import GatewayMigration.Proofs.OrderedMap
import GatewayMigration.Topology.Codec

/-!
# Members of written objects

An object is written from a list of members, some of which may be left out. Where the list names
each key once, a member is found again under its key, and one that was left out is not. So nothing
that goes into a written object is lost: two of them with the same keys are equal only if every
member is.

## Main results

* `field?_object`: a member of a written object
* `field?_of_mem`: the same, where each key is named once
* `object_injective`: the members of a written object are those that it was written from
* `ofInt64_injective`, `ofUInt16_injective`, `ofNonempty_injective`: the values of members
-/

namespace GatewayMigration.Json

/-! ### Looking members up -/

theorem lookup_entries (m : OrderedMap String Json) (k : String) :
    lookup k m.entries = m.find? k := by
  unfold OrderedMap.find?
  induction m.entries with
  | nil => rfl
  | cons e l ih =>
    obtain ⟨k', v⟩ := e
    by_cases hk : k' = k
    · simp [lookup, OrderedMap.lookupIn, hk]
    · simp [lookup, OrderedMap.lookupIn, hk, Ne.symm hk, ih]

theorem field?_obj (members : Fields) (k : String) :
    (Json.obj members).field? k = lookup k members := rfl

/-- A member of an object is the last one of its key. -/
theorem field?_object (members : List (String × Option Json)) (k : String) :
    (object members).field? k =
      (((members.filterMap fun m => m.2.map (m.1, ·)).filter fun m => m.1 = k).map
        (·.2)).getLast? := by
  show lookup k (OrderedMap.ofList _).entries = _
  rw [lookup_entries, OrderedMap.find?_ofList]

/-! ### Each key once -/

variable {members members' : List (String × Option Json)} {k : String}

/-- A key that is not named has no member. -/
theorem filter_filterMap_eq_nil (h : k ∉ members.map (·.1)) :
    (members.filterMap fun m => m.2.map (m.1, ·)).filter (fun m => m.1 = k) = [] := by
  apply List.filter_eq_nil_iff.mpr
  intro m hm hk
  obtain ⟨m', hm', hsome⟩ := List.mem_filterMap.mp hm
  obtain ⟨v, -, rfl⟩ := Option.map_eq_some_iff.mp hsome
  exact h (List.mem_map.mpr ⟨m', hm', of_decide_eq_true hk⟩)

theorem field?_of_notMem (h : k ∉ members.map (·.1)) : (object members).field? k = none := by
  rw [field?_object, filter_filterMap_eq_nil h]
  rfl

/-- **Where each key is named once, a member is found under its key**, and one that is left out is
not found. -/
theorem field?_of_mem (hnodup : (members.map (·.1)).Nodup) {v : Option Json}
    (hv : (k, v) ∈ members) : (object members).field? k = v := by
  rw [field?_object]
  induction members with
  | nil => cases hv
  | cons m members ih =>
    obtain ⟨hm, hrest⟩ := List.nodup_cons.mp hnodup
    obtain ⟨k', v'⟩ := m
    rcases List.mem_cons.mp hv with hfirst | hlater
    · -- the member is the first one, and no other has its key
      cases hfirst
      have hnone := filter_filterMap_eq_nil hm
      cases v with
      | none => simpa using hnone
      | some v => simp [hnone]
    · -- the first member has another key
      have hne : k' ≠ k := fun he => hm (List.mem_map.mpr ⟨_, hlater, he.symm⟩)
      cases v' with
      | none => exact ih hrest hlater
      | some v' =>
        rw [List.filterMap_cons, Option.map_some, List.filter_cons_of_neg (by simpa using hne)]
        exact ih hrest hlater

/-- **Nothing that an object is written from is lost.** -/
theorem object_injective (h : object members = object members')
    (hkeys : members.map (·.1) = members'.map (·.1)) (hnodup : (members.map (·.1)).Nodup) :
    members = members' := by
  have hlength : members.length = members'.length := by
    simpa using congrArg List.length hkeys
  apply List.ext_getElem hlength
  intro i hi hi'
  -- the members at one place have one key, so each of them is found under it
  have hkey : members[i].1 = members'[i].1 := by
    have hmap := List.getElem_of_eq hkeys (by simpa using hi)
    rwa [List.getElem_map, List.getElem_map] at hmap
  have hfound : (object members).field? members[i].1 = members[i].2 :=
    field?_of_mem hnodup (List.getElem_mem hi)
  have hfound' : (object members').field? members'[i].1 = members'[i].2 :=
    field?_of_mem (hkeys ▸ hnodup) (List.getElem_mem hi')
  rw [← h, ← hkey, hfound] at hfound'
  exact Prod.ext hkey hfound'

/-! ### Values of members -/

theorem str_injective : Function.Injective str := by
  intro a b h
  cases h
  rfl

theorem arr_injective : Function.Injective arr := by
  intro a b h
  cases h
  rfl

theorem ofInt64_injective : Function.Injective ofInt64 := by
  intro a b h
  exact Int64.toInt_inj.mp (Json.int.inj h)

theorem ofUInt16_injective : Function.Injective ofUInt16 := by
  intro a b h
  exact UInt16.toNat_inj.mp (Int.ofNat.inj (Json.int.inj h))

/-- A list that is left out is empty. -/
theorem ofNonempty_injective : Function.Injective ofNonempty := by
  intro a b h
  cases a <;> cases b <;> simp_all [ofNonempty]

end GatewayMigration.Json
