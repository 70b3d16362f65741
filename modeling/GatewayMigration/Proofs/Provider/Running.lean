import GatewayMigration.Provider
import Mathlib.Data.List.Forall2

/-!
# Providers one after the other

A run takes the names of providers in their order and ends at the first one that gives nothing: a
name that nobody has registered, or a provider that cannot read the source. Until then each name
gives an output, and what it gives does not depend on the names around it. So a run over two lists
is a run over the first one, and another over the second.

## Main definitions

* `Provider.Gives`: what a provider makes of what it has read
* `Registry.Runs`, `Registry.Stops`: a name gives an output, or it ends a run
* `Registry.Sequential`: what runs are made of

## Main results

* `Registry.run_append`: a run over two lists of names
* `Registry.exists_ok_run_iff`: a run succeeds when all names are registered and can read the source
* `Registry.forall₂_of_run_ok`: a run that succeeds has an output of each name
* `Registry.run_eq_error_iff`: a run fails at the first name that ends it
* `Registry.sequential_run`: all of it, for every registry and source
-/

namespace GatewayMigration

/-- What a provider makes of what it has read. Nothing in it comes from another provider. -/
structure Provider.Gives (p : Provider) (store : p.Store) (o : Output) : Prop where
  provider : o.provider = p.name
  resources : o.resources = (p.lower (p.convert store).1).1
  notifications : o.notifications = (p.convert store).2.2
  /-- The errors of the conversion come first, then those of writing. -/
  errors : o.errors = (p.convert store).2.1 ++ (p.lower (p.convert store).1).2

theorem Provider.gives_iff {p : Provider} {store : p.Store} {o : Output} :
    p.Gives store o ↔ o = p.output store := by
  constructor
  · rintro ⟨hprovider, hresources, hnotifications, herrors⟩
    obtain ⟨provider, resources, notifications, errors⟩ := o
    subst hprovider hresources hnotifications herrors
    rfl
  · rintro rfl
    exact ⟨rfl, rfl, rfl, rfl⟩

namespace Registry

section Names

variable (r : Registry) (ns : Option String) (source : Source) (name : String)

/-- The name gives an output, after some requests. -/
inductive Runs : Output → List String → Prop
  /-- It is registered, and its provider reads the source. Field errors do not keep it from giving
  an output. -/
  | reads {p : Provider} {store : p.Store} {o : Output} {requests : List String}
      (hname : r.find? name = some p) (hread : p.read ns source = (.ok store, requests))
      (hgives : p.Gives store o) : Runs o requests

/-- The name ends a run, after some requests. -/
inductive Stops : Failure → List String → Prop
  /-- Nobody has registered it, and nothing is asked of the source. -/
  | unknown (hname : r.find? name = none) : Stops (.unknownProvider name) []
  /-- Its provider cannot read the source. The failure tells which provider it was. -/
  | unreadable {p : Provider} {e : Failure} {requests : List String}
      (hname : r.find? name = some p) (hread : p.read ns source = (.error e, requests)) :
      Stops (.provider p.name e) requests

/-- A name does one or the other. -/
theorem runs_or_stops :
    (∃ o requests, Runs r ns source name o requests) ∨
      ∃ e requests, Stops r ns source name e requests := by
  cases hname : r.find? name with
  | none => exact .inr ⟨_, _, .unknown hname⟩
  | some p =>
    rcases hread : p.read ns source with ⟨⟨e⟩ | ⟨store⟩, requests⟩
    · exact .inr ⟨_, _, .unreadable hname hread⟩
    · exact .inl ⟨_, _, .reads hname hread (Provider.gives_iff.mpr rfl)⟩

end Names

variable {r : Registry} {ns : Option String} {source : Source}

/-! ### A step of a run -/

section Step

variable {name : String} {rest : List String} {o : Output} {e : Failure} {requests : List String}

theorem run_cons_of_runs (h : Runs r ns source name o requests) :
    r.run ns source (name :: rest) =
      ((r.run ns source rest).1.map (o :: ·), requests ++ (r.run ns source rest).2) := by
  obtain ⟨hname, hread, hgives⟩ := h
  rw [Provider.gives_iff.mp hgives]
  simp only [run, provider, hname, Provider.run, hread]
  rfl

theorem run_cons_of_stops (h : Stops r ns source name e requests) :
    r.run ns source (name :: rest) = (.error e, requests) := by
  cases h with
  | unknown hname => simp only [run, provider, hname]
  | unreadable hname hread =>
    simp only [run, provider, hname, Provider.run, hread]
    rfl

/-- A name alone gives what it gives among others. -/
theorem run_singleton (h : Runs r ns source name o requests) :
    r.run ns source [name] = (.ok [o], requests) := by
  rw [run_cons_of_runs h]
  simp only [run, List.append_nil]
  rfl

/-- A name that gives an output does not end a run. -/
theorem Runs.exists_read (h : Runs r ns source name o requests) :
    ∃ p, r.find? name = some p ∧ ∃ store, (p.read ns source).1 = .ok store := by
  obtain ⟨hname, hread, -⟩ := h
  exact ⟨_, hname, _, congrArg Prod.fst hread⟩

theorem Stops.not_exists_read (h : Stops r ns source name e requests) :
    ¬∃ p, r.find? name = some p ∧ ∃ store, (p.read ns source).1 = .ok store := by
  rintro ⟨p, hp, store, hstore⟩
  cases h with
  | unknown hname =>
    rw [hp] at hname
    cases hname
  | unreadable hname hread =>
    -- a reading has one outcome
    obtain rfl := Option.some.inj (hp.symm.trans hname)
    rw [hread] at hstore
    cases hstore

end Step

/-! ### Runs -/

/-- **A run over two lists of names** is a run over the first one and, if that succeeds, one over
the second. -/
theorem run_append (names names' : List String) :
    r.run ns source (names ++ names') =
      match r.run ns source names with
      | (.ok outputs, requests) =>
        ((r.run ns source names').1.map (outputs ++ ·), requests ++ (r.run ns source names').2)
      | (.error e, requests) => (.error e, requests) := by
  induction names with
  | nil =>
    -- the second run, with nothing before it
    rcases h : r.run ns source names' with ⟨⟨e⟩ | ⟨outputs⟩, requests⟩ <;> simp [run, h, Except.map]
  | cons name names ih =>
    rcases runs_or_stops r ns source name with ⟨o, made, hruns⟩ | ⟨e, made, hstops⟩
    · rw [List.cons_append, run_cons_of_runs hruns, run_cons_of_runs hruns, ih]
      rcases r.run ns source names with ⟨⟨e⟩ | ⟨outputs⟩, requests⟩
      · rfl
      · rcases r.run ns source names' with ⟨⟨e⟩ | ⟨outputs'⟩, requests'⟩ <;>
          simp [Except.map, List.append_assoc]
    · rw [List.cons_append, run_cons_of_stops hstops, run_cons_of_stops hstops]

/-- **A run succeeds** exactly when every name is registered and every provider reads the source. -/
theorem exists_ok_run_iff {names : List String} :
    (∃ outputs, (r.run ns source names).1 = .ok outputs) ↔
      ∀ name ∈ names, ∃ p, r.find? name = some p ∧ ∃ store, (p.read ns source).1 = .ok store := by
  induction names with
  | nil => simp [run]
  | cons name names ih =>
    rw [List.forall_mem_cons, ← ih]
    rcases runs_or_stops r ns source name with ⟨o, made, hruns⟩ | ⟨e, made, hstops⟩
    · -- the rest of the run decides
      rw [run_cons_of_runs hruns, and_iff_right hruns.exists_read]
      cases (r.run ns source names).1 <;> simp [Except.map]
    · rw [run_cons_of_stops hstops]
      simp [hstops.not_exists_read]

/-- **A run that succeeds has an output of each name**, in the order of the names. -/
theorem forall₂_of_run_ok {names : List String} {outputs : List Output} {requests : List String}
    (h : r.run ns source names = (.ok outputs, requests)) :
    List.Forall₂ (fun name o => ∃ made, Runs r ns source name o made) names outputs := by
  induction names generalizing outputs requests with
  | nil =>
    cases h
    exact .nil
  | cons name names ih =>
    rcases runs_or_stops r ns source name with ⟨o, made, hruns⟩ | ⟨e, made, hstops⟩
    · rw [run_cons_of_runs hruns] at h
      rcases hrest : r.run ns source names with ⟨⟨e⟩ | ⟨outputs'⟩, requests'⟩
      · rw [hrest] at h
        cases h
      · rw [hrest] at h
        cases h
        exact .cons ⟨made, hruns⟩ (ih hrest)
    · rw [run_cons_of_stops hstops] at h
      cases h

/-- **A run fails at the first name that ends it**: all names before it give outputs, and none after
it asks anything of the source. -/
theorem run_eq_error_iff {names : List String} {e : Failure} {requests : List String} :
    r.run ns source names = (.error e, requests) ↔
      ∃ before name after outputs made more, names = before ++ name :: after ∧
        r.run ns source before = (.ok outputs, made) ∧ Stops r ns source name e more ∧
        requests = made ++ more := by
  constructor
  · intro h
    induction names generalizing requests with
    | nil => cases h
    | cons name names ih =>
      rcases runs_or_stops r ns source name with ⟨o, made, hruns⟩ | ⟨e', made, hstops⟩
      · -- the failure is further on (induction)
        rw [run_cons_of_runs hruns] at h
        rcases hrest : r.run ns source names with ⟨⟨e'⟩ | ⟨outputs⟩, requests'⟩
        · rw [hrest] at h
          cases h
          obtain ⟨before, name', after, outputs, made', more, rfl, hbefore, hstops, rfl⟩ := ih hrest
          refine ⟨name :: before, name', after, o :: outputs, made ++ made', more, rfl, ?_, hstops,
            (List.append_assoc ..).symm⟩
          rw [run_cons_of_runs hruns, hbefore]
          rfl
        · rw [hrest] at h
          cases h
      · -- it is here
        rw [run_cons_of_stops hstops] at h
        cases h
        exact ⟨[], name, names, [], [], requests, rfl, rfl, hstops, rfl⟩
  · rintro ⟨before, name, after, outputs, made, more, rfl, hbefore, hstops, rfl⟩
    rw [run_append, hbefore, run_cons_of_stops hstops]
    rfl

/-! ### The result -/

/-- What runs over a source are made of. -/
structure Sequential (r : Registry) (ns : Option String) (source : Source) : Prop where
  /-- A run over two lists is a run over the first one and, if that succeeds, one over the
  second. -/
  append : ∀ names names', r.run ns source (names ++ names') =
    match r.run ns source names with
    | (.ok outputs, requests) =>
      ((r.run ns source names').1.map (outputs ++ ·), requests ++ (r.run ns source names').2)
    | (.error e, requests) => (.error e, requests)
  /-- It takes a registered name and a source that can be read, and nothing else, to go on. -/
  succeeds : ∀ names, (∃ outputs, (r.run ns source names).1 = .ok outputs) ↔
    ∀ name ∈ names, ∃ p, r.find? name = some p ∧ ∃ store, (p.read ns source).1 = .ok store
  /-- Each output is that of its own name, and the same as if there were no other names. -/
  outputs : ∀ names outputs requests, r.run ns source names = (.ok outputs, requests) →
    List.Forall₂ (fun name o => ∃ made, Runs r ns source name o made ∧
      r.run ns source [name] = (.ok [o], made)) names outputs
  /-- The first name that ends the run decides about the failure, and nothing is asked of the source
  after it. -/
  fails : ∀ names e requests, r.run ns source names = (.error e, requests) ↔
    ∃ before name after outputs made more, names = before ++ name :: after ∧
      r.run ns source before = (.ok outputs, made) ∧ Stops r ns source name e more ∧
      requests = made ++ more

/-- **Runs are made of runs of single names**, for every registry and every source. -/
theorem sequential_run (r : Registry) (ns : Option String) (source : Source) :
    Sequential r ns source where
  append := run_append
  succeeds _ := exists_ok_run_iff
  outputs names outputs requests h := by
    refine (forall₂_of_run_ok h).imp ?_
    rintro name o ⟨made, hruns⟩
    exact ⟨made, hruns, run_singleton hruns⟩
  fails _ _ _ := run_eq_error_iff

end Registry

end GatewayMigration
