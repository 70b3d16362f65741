import GatewayMigration.Conversion
import Mathlib.Data.List.Nodup

/-!
# The listeners of a Gateway

A Gateway has one listener of each name: of several listeners with one name that are added, the
first one stays. The name of a listener says its protocol, so a listener is never taken for one of
the other protocol.

## Main results

* `HostName.protocol_eq_of_listenerName_eq`: the name of a listener says its protocol
* `Gateway.listener?_addListeners`: of the listeners with a name, the first one stays
* `Gateway.mem_addListeners_iff`: the listeners that stay
* `Gateway.listeners_addListeners`: the first of each name, in the order in which they were added
-/

namespace GatewayMigration

/-! ### Names -/

namespace HostName

theorem exists_listenerName_eq (h : Option String) (p : Protocol) :
    ∃ stem, listenerName h p = stem ++ p.suffix := by
  unfold listenerName
  split
  · exact ⟨"", by simp⟩
  · exact ⟨"", by simp⟩
  · exact ⟨_, rfl⟩

/-- The name of a listener says its protocol. -/
theorem protocol_eq_of_listenerName_eq {h h' : Option String} {p p' : Protocol}
    (he : listenerName h p = listenerName h' p') : p = p' := by
  obtain ⟨stem, hs⟩ := exists_listenerName_eq h p
  obtain ⟨stem', hs'⟩ := exists_listenerName_eq h' p'
  rw [hs, hs'] at he
  -- the suffixes of the protocols end in different letters
  have hl := congrArg (fun s => s.toList.getLast?) he
  cases p <;> cases p' <;> simp [Protocol.suffix] at hl ⊢

end HostName

namespace Gateway

variable (g : Gateway) (l : Listener) (ls : List Listener)

/-- Add listeners one after the other. -/
def addListeners : Gateway := ls.foldl addListener g

@[simp] theorem addListeners_nil : g.addListeners [] = g := rfl

@[simp] theorem addListeners_cons : g.addListeners (l :: ls) = (g.addListener l).addListeners ls :=
  rfl

theorem addListeners_append (ls' : List Listener) :
    g.addListeners (ls ++ ls') = (g.addListeners ls).addListeners ls' :=
  List.foldl_append

/-! ### The listener of a name -/

theorem listener?_addListener (name : String) :
    (g.addListener l).listener? name =
      (g.listener? name).or (if l.name = name then some l else none) := by
  unfold addListener listener?
  split
  case isTrue h =>
    -- the name is taken: the listener that has it is found on both sides
    by_cases hn : l.name = name
    · subst hn
      obtain ⟨l', hl', hn'⟩ := List.any_eq_true.mp h
      have hs : (g.listeners.find? (·.name == l.name)).isSome :=
        List.find?_isSome.mpr ⟨l', hl', hn'⟩
      rw [Option.or_of_isSome hs]
    · simp [hn]
  case isFalse h => by_cases hn : l.name = name <;> simp [List.find?_append, hn]

/-- **Of the listeners with a name, the first one stays.** -/
theorem listener?_addListeners (name : String) :
    (g.addListeners ls).listener? name =
      (g.listener? name).or (ls.find? (·.name == name)) := by
  induction ls generalizing g with
  | nil => simp
  | cons l ls ih =>
    -- what `l` adds is found after the listeners of `g` and before those of `ls`
    rw [addListeners_cons, ih, listener?_addListener, List.find?_cons, Option.or_assoc]
    by_cases hn : l.name = name
    · simp [hn]
    · simp [beq_false_of_ne hn, hn]

/-! ### All listeners -/

theorem nodup_names_addListener (h : (g.listeners.map (·.name)).Nodup) :
    ((g.addListener l).listeners.map (·.name)).Nodup := by
  unfold addListener
  split
  case isTrue => exact h
  case isFalse hl =>
    rw [List.map_append, List.map_singleton]
    refine List.nodup_append.mpr ⟨h, List.nodup_singleton _, ?_⟩
    rintro n hn _ hl' rfl
    rw [List.mem_singleton.mp hl'] at hn
    obtain ⟨l', hl', hn'⟩ := List.mem_map.mp hn
    exact hl (List.any_eq_true.mpr ⟨l', hl', by simp [hn']⟩)

theorem nodup_names_addListeners (h : (g.listeners.map (·.name)).Nodup) :
    ((g.addListeners ls).listeners.map (·.name)).Nodup := by
  induction ls generalizing g with
  | nil => exact h
  | cons l ls ih => exact ih _ (nodup_names_addListener g l h)

variable {g l ls}

theorem listener?_eq_some_iff (h : (g.listeners.map (·.name)).Nodup) {name : String} :
    g.listener? name = some l ↔ l ∈ g.listeners ∧ l.name = name := by
  unfold listener?
  constructor
  · intro hf
    exact ⟨List.mem_of_find?_eq_some hf, by simpa using List.find?_some hf⟩
  · rintro ⟨hl, rfl⟩
    cases hf : g.listeners.find? (·.name == l.name) with
    | none => simpa using List.find?_eq_none.mp hf l hl
    | some l' =>
      have hn : l'.name = l.name := by simpa using List.find?_some hf
      rw [List.inj_on_of_nodup_map h (List.mem_of_find?_eq_some hf) hl hn]

/-- The listeners of a new Gateway are the first ones of their names. -/
theorem mem_addListeners_iff {className : String} :
    l ∈ ((ofClass className).addListeners ls).listeners ↔ ls.find? (·.name == l.name) = some l := by
  have h := nodup_names_addListeners (ofClass className) ls (by simp [ofClass])
  have hl : l ∈ ((ofClass className).addListeners ls).listeners ↔
      ((ofClass className).addListeners ls).listener? l.name = some l := by
    simp [listener?_eq_some_iff h]
  rw [hl, listener?_addListeners]
  simp [listener?, ofClass]

theorem mem_of_mem_addListeners {className : String}
    (h : l ∈ ((ofClass className).addListeners ls).listeners) : l ∈ ls :=
  List.mem_of_find?_eq_some (mem_addListeners_iff.mp h)

/-- Listeners are added after those that are there. -/
theorem prefix_addListeners (g : Gateway) (ls : List Listener) :
    g.listeners <+: (g.addListeners ls).listeners := by
  induction ls generalizing g with
  | nil => exact List.prefix_rfl
  | cons l ls ih =>
    have hstep : g.listeners <+: (g.addListener l).listeners := by
      unfold addListener
      split
      case isTrue => exact List.prefix_rfl
      case isFalse => exact List.prefix_append _ _
    exact hstep.trans (ih _)

theorem listeners_addListener (g : Gateway) (l : Listener) : (g.addListener l).listeners =
    if g.listeners.any (·.name == l.name) then g.listeners else g.listeners ++ [l] := by
  unfold addListener
  split <;> rfl

/-- Listeners are added, the first of each name and in their order, unless their name is taken. -/
theorem listeners_addListeners (g : Gateway) (ls : List Listener) :
    (g.addListeners ls).listeners = g.listeners ++
      (ls.filter fun l => !g.listeners.any (·.name == l.name)).eraseDupsBy
        fun l l' => l.name == l'.name := by
  induction ls generalizing g with
  | nil => simp
  | cons l ls ih =>
    rw [addListeners_cons, ih, listeners_addListener]
    cases hl : g.listeners.any (·.name == l.name) with
    | true => simp [hl]
    | false =>
      -- the name is taken for the rest of the listeners
      have hrest : (ls.filter fun l' => !(g.listeners ++ [l]).any (·.name == l'.name)) =
          (ls.filter fun l' => !g.listeners.any (·.name == l'.name)).filter
            fun l' => decide ((l'.name == l.name) = false) := by
        rw [List.filter_filter]
        refine List.filter_congr fun l' _ => ?_
        by_cases hn : l'.name = l.name
        · simp [hn]
        · simp [hn, Ne.symm hn]
      rw [if_neg Bool.false_ne_true, hrest, List.append_assoc,
        List.filter_cons_of_pos (by simp [hl]), List.eraseDupsBy_cons]
      rfl

/-- The first listener that is added to a new Gateway stays the first. -/
theorem head?_addListeners {className : String} (l : Listener) (ls : List Listener) :
    ((ofClass className).addListeners (l :: ls)).listeners.head? = some l := by
  obtain ⟨rest, hrest⟩ := prefix_addListeners ((ofClass className).addListener l) ls
  rw [addListeners_cons, ← hrest]
  rfl

/-- A new Gateway is without listeners only if none was added to it. -/
theorem addListeners_eq_nil_iff {className : String} :
    ((ofClass className).addListeners ls).listeners = [] ↔ ls = [] := by
  constructor
  · intro h
    cases ls with
    | nil => rfl
    | cons l ls =>
      have hl : l ∈ ((ofClass className).addListeners (l :: ls)).listeners :=
        mem_addListeners_iff.mpr (by simp)
      rw [h] at hl
      cases hl
  · rintro rfl
    rfl

end Gateway

end GatewayMigration
