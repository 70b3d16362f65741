import GatewayMigration.Provider.Progress
import GatewayMigration.Proofs.Lists
import Mathlib.Data.List.Induction

/-!
# Runs of a provider

A provider can be asked to read, to convert and to write, in any order and any number of times. What
it converts is what the last reading that succeeded gave, as if nothing else had been asked: a
reading that fails in between does not show, and nothing of earlier readings is left over. Only the
notifications of its conversions add up.

## Main definitions

* `Progress.Step`, `Progress.Reply`: what a provider is asked for, and what it returns
* `Progress.after`, `Progress.replies`: the state after a run of steps, and all that it returned
* `Progress.lastGiven`: what the last reading that succeeded gave
* `Progress.Faithful`: conversions go by the last reading that succeeded

## Main results

* `Progress.store_step`, `Progress.store_after`: what is in store after a step, and after a run
* `Progress.pairwise_notifications`: a list of notifications begins with those before it
* `Progress.faithful`: every run is faithful
-/

namespace GatewayMigration.Progress

variable {p : Provider} {ns : Option String}

/-- What a provider is asked for. -/
inductive Step where
  | read (source : Source)
  | convert
  /-- Write a topology, or that of the last conversion. -/
  | lower (topology : Option Topology)

/-- What a provider returns. -/
inductive Reply where
  /-- The failure, if there is one, with the requests that were made. -/
  | read (failure : Option Failure) (requests : List String)
  /-- The notifications are those of all conversions so far. -/
  | converted (topology : Topology) (errors : List FieldError) (notifications : List Notification)
  | lowered (resources : GatewayResources) (errors : List FieldError)

/-- The notifications that a conversion returns. -/
def Reply.notifications? : Reply → Option (List Notification)
  | .converted _ _ notifications => some notifications
  | _ => none

/-- Take a step. -/
def step (ns : Option String) (s : Progress p) : Step → Progress p × Reply
  | .read source =>
    let (after, failure, requests) := s.read ns source
    (after, .read failure requests)
  | .convert =>
    let (after, topology, errors) := s.convert
    (after, .converted topology errors after.notifications)
  | .lower topology =>
    let (resources, errors) := s.lower topology
    (s, .lowered resources errors)

/-- The state after a run of steps. -/
def after (ns : Option String) (s : Progress p) (steps : List Step) : Progress p :=
  steps.foldl (fun s step => (s.step ns step).1) s

/-- All that a run of steps returns, in order. -/
def replies (ns : Option String) : Progress p → List Step → List Reply
  | _, [] => []
  | s, step :: steps => (s.step ns step).2 :: replies ns (s.step ns step).1 steps

/-! ### What readings give -/

/-- What a step reads, if it is a reading that succeeds. -/
def given? (p : Provider) (ns : Option String) : Step → Option p.Store
  | .read source => (p.read ns source).1.toOption
  | _ => none

/-- What the last reading that succeeded gave, or what a provider has before that. -/
def lastGiven (p : Provider) (ns : Option String) (steps : List Step) : p.Store :=
  (steps.filterMap (given? p ns)).getLast?.getD p.initial

theorem lastGiven_concat (steps : List Step) (step : Step) :
    lastGiven p ns (steps ++ [step]) = (given? p ns step).getD (lastGiven p ns steps) := by
  unfold lastGiven
  rw [getLast?_filterMap_concat]
  cases given? p ns step <;> rfl

/-! ### Steps -/

section Steps

variable {source : Source} {store : p.Store} {e : Failure} {requests : List String}

theorem step_read_error (s : Progress p) (h : p.read ns source = (.error e, requests)) :
    s.step ns (.read source) = (s, .read (some e) requests) := by
  simp only [step, read, h]

theorem step_read_ok (s : Progress p) (h : p.read ns source = (.ok store, requests)) :
    s.step ns (.read source) = ({ s with store }, .read none requests) := by
  simp only [step, read, h]

end Steps

/-- **What is in store after a step** is what a reading gave, and else what was there before. -/
theorem store_step (s : Progress p) (step : Step) :
    (s.step ns step).1.store = (given? p ns step).getD s.store := by
  cases step with
  | read source =>
    rcases h : p.read ns source with ⟨⟨e⟩ | ⟨store⟩, requests⟩
    · rw [step_read_error s h, given?, h]
      rfl
    · rw [step_read_ok s h, given?, h]
      rfl
  | convert => rfl
  | lower topology => rfl

/-- No step takes a notification back. -/
theorem notifications_step (s : Progress p) (step : Step) :
    s.notifications <+: (s.step ns step).1.notifications := by
  cases step with
  | read source =>
    rcases h : p.read ns source with ⟨⟨e⟩ | ⟨store⟩, requests⟩
    · simp [step_read_error s h]
    · simp [step_read_ok s h]
  | convert => exact List.prefix_append _ _
  | lower topology => exact List.prefix_refl _

/-- The notifications that a step returns are those after it. -/
theorem eq_of_notifications?_step {s : Progress p} {step : Step} {notifications : List Notification}
    (h : (s.step ns step).2.notifications? = some notifications) :
    notifications = (s.step ns step).1.notifications := by
  cases step with
  | convert => exact (Option.some.inj h).symm
  | read source => cases h
  | lower topology => cases h

/-! ### Runs -/

theorem after_concat (s : Progress p) (steps : List Step) (step : Step) :
    s.after ns (steps ++ [step]) = ((s.after ns steps).step ns step).1 := by
  simp only [after, List.foldl_append, List.foldl_cons, List.foldl_nil]

theorem replies_append (s : Progress p) (before rest : List Step) :
    s.replies ns (before ++ rest) = s.replies ns before ++ (s.after ns before).replies ns rest := by
  induction before generalizing s with
  | nil => rfl
  | cons step before ih => exact congrArg (_ :: ·) (ih _)

theorem length_replies (s : Progress p) (steps : List Step) :
    (s.replies ns steps).length = steps.length := by
  induction steps generalizing s with
  | nil => rfl
  | cons step steps ih => exact congrArg (· + 1) (ih _)

/-- What a step in the middle of a run returns. -/
theorem getElem?_replies (s : Progress p) (before rest : List Step) (step : Step) :
    (s.replies ns (before ++ step :: rest))[before.length]? =
      some ((s.after ns before).step ns step).2 := by
  -- each step before it has returned one reply
  have hlength : before.length = (s.replies ns before).length := (length_replies s before).symm
  rw [replies_append, hlength, List.getElem?_append_right (Nat.le_refl _), Nat.sub_self]
  rfl

/-- **What is in store after a run** is what the last reading that succeeded gave. -/
theorem store_after (steps : List Step) :
    ((start p).after ns steps).store = lastGiven p ns steps := by
  -- from the end of the run, where the last reading is
  induction steps using List.reverseRecOn with
  | nil => rfl
  | append_singleton steps step ih => rw [after_concat, store_step, lastGiven_concat, ih]

/-- A list of notifications that is returned in a run begins with those before the run. -/
theorem prefix_of_mem_replies {s : Progress p} {steps : List Step}
    {notifications : List Notification}
    (h : notifications ∈ (s.replies ns steps).filterMap Reply.notifications?) :
    s.notifications <+: notifications := by
  induction steps generalizing s with
  | nil => cases h
  | cons step steps ih =>
    obtain ⟨reply, hreply, hnotifications⟩ := List.mem_filterMap.mp h
    rcases List.mem_cons.mp hreply with rfl | hrest
    · -- the list of this step is the one after it
      rw [eq_of_notifications?_step hnotifications]
      exact notifications_step s step
    · -- a later one begins with what is there after this step
      have hlater := ih (List.mem_filterMap.mpr ⟨reply, hrest, hnotifications⟩)
      exact (notifications_step s step).trans hlater

/-- **A list of notifications begins with those before it.** -/
theorem pairwise_notifications (s : Progress p) (steps : List Step) :
    ((s.replies ns steps).filterMap Reply.notifications?).Pairwise (· <+: ·) := by
  induction steps generalizing s with
  | nil => exact .nil
  | cons step steps ih =>
    rw [replies]
    cases h : (s.step ns step).2.notifications? with
    | none =>
      rw [List.filterMap_cons_none h]
      exact ih _
    | some notifications =>
      -- what this step returns is in the state that all later steps start from
      rw [List.filterMap_cons_some h, eq_of_notifications?_step h]
      refine List.pairwise_cons.mpr ⟨?_, ih _⟩
      intro later hlater
      exact prefix_of_mem_replies hlater

/-! ### Faithful runs -/

/-- A run in which conversions go by the last reading that succeeded, and by nothing else. -/
structure Faithful (p : Provider) (ns : Option String) (steps : List Step) : Prop where
  /-- After the run, that is what is in store. -/
  stored : ((start p).after ns steps).store = lastGiven p ns steps
  /-- A conversion on the way is that of what was last given before it; its notifications follow
  those of the conversions before. -/
  converted : ∀ before rest, steps = before ++ .convert :: rest →
    ((start p).replies ns steps)[before.length]? =
      some (.converted (p.convert (lastGiven p ns before)).1 (p.convert (lastGiven p ns before)).2.1
        (((start p).after ns before).notifications ++ (p.convert (lastGiven p ns before)).2.2))
  /-- A reading that fails next changes nothing. -/
  failed : ∀ source e requests, p.read ns source = (.error e, requests) →
    ((start p).after ns steps).step ns (.read source) =
      ((start p).after ns steps, .read (some e) requests)
  /-- A reading that succeeds next replaces what is in store, and changes nothing else. -/
  replaced : ∀ source store requests, p.read ns source = (.ok store, requests) →
    ((start p).after ns steps).step ns (.read source) =
      ({ (start p).after ns steps with store }, .read none requests)
  /-- Other steps leave what is in store. -/
  kept : ∀ step, (∀ source, step ≠ .read source) →
    (((start p).after ns steps).step ns step).1.store = ((start p).after ns steps).store
  /-- A list of notifications begins with those before it. -/
  notified : (((start p).replies ns steps).filterMap Reply.notifications?).Pairwise (· <+: ·)

/-- **Every run is faithful.** -/
theorem faithful (p : Provider) (ns : Option String) (steps : List Step) : Faithful p ns steps where
  stored := store_after steps
  converted := by
    rintro before rest rfl
    rw [getElem?_replies, ← store_after]
    rfl
  failed _ _ _ h := step_read_error _ h
  replaced _ _ _ h := step_read_ok _ h
  kept := by
    intro step hstep
    rw [store_step]
    cases step with
    | read source => exact absurd rfl (hstep source)
    | convert => rfl
    | lower topology => rfl
  notified := pairwise_notifications _ _

end GatewayMigration.Progress
