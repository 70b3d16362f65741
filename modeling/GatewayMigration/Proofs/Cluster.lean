import GatewayMigration.Cluster
import GatewayMigration.Proofs.Lists

/-!
# Sessions with a cluster

A session hands the requests that it has made from one step to the next, and its first failure ends
it. To list the objects of a type is one request with one of three ends: the objects, no objects
because the cluster does not know the type at all, or a failure.

## Main definitions

* `Answer.objects`: what an answer says about the objects of a type
* `Answer.Lists`: the answer says that some documents are all objects of a type
* `Answer.Fails`: the answer says nothing about the objects of a type
* `Session.runFrom`: the outcome of a session that goes on where others stopped

## Main results

* `Answer.exists_error_iff`: when a list request fails
* `Answer.objects_of_lists`: a list of documents that have the shape of the type is read
* `Session.runFrom_bind`: one session after another
* `Session.runFrom_list`: a list is one request
-/

namespace GatewayMigration

open Json

variable {α β : Type}

/-! ### Answers -/

namespace Answer

/-- What an answer says about the objects of a type. -/
def objects (t : ResourceType α) (answer : Answer) : Except Failure (List α) :=
  match answer.list t with
  | .ok l => .ok l
  | .error e => if t.isCustom && isUnknownType e then .ok [] else .error e

/-- The members of a list: what is said about the list can be read, and the items are given. -/
structure Holds (members : Fields) (items : Json) : Prop where
  metadata : (members.defaulted .null listMetadataShape.read? "metadata").isSome
  items : lookup "items" members = some items

/-- The answer says that the documents are all objects of the type. -/
inductive Lists (t : ResourceType α) : List Json → Answer → Prop
  /-- It is a success with the documents as its items. -/
  | items {docs : List Json} {status : Nat} {members : Fields}
      (hstatus : 200 ≤ status ∧ status < 300) (hmembers : Holds members (.arr docs)) :
      Lists t docs (response status (some (.obj members)))
  /-- It is a success with null in place of items. -/
  | null {status : Nat} {members : Fields}
      (hstatus : 200 ≤ status ∧ status < 300) (hmembers : Holds members .null) :
      Lists t [] (response status (some (.obj members)))
  /-- The type is an extension that is not installed. -/
  | absent {status : Nat} {body : Option Json} (hcustom : t.isCustom = true)
      (hstatus : 400 ≤ status ∧ status ≤ 599) (hcode : (body.bind bodyCode?).getD status = 404) :
      Lists t [] (response status body)

/-- The answer says nothing about the objects of the type. -/
inductive Fails (t : ResourceType α) : Answer → Prop
  /-- No answer comes. -/
  | lost : Fails t lost
  /-- The request is refused, and not because the type is an extension that is not installed. -/
  | refused {status : Nat} {body : Option Json} (hstatus : 400 ≤ status ∧ status ≤ 599)
      (hcode : ¬(t.isCustom = true ∧ (body.bind bodyCode?).getD status = 404)) :
      Fails t (response status body)
  /-- The body is no list of objects of the type. -/
  | unreadable {status : Nat} {body : Option Json} (hstatus : ¬(400 ≤ status ∧ status ≤ 599))
      (hbody : body.bind (items? t.ofJson?) = none) : Fails t (response status body)

section Items

variable {item : Json → Option α} {members : Fields} {docs : List Json}

theorem items?_arr (h : Holds members (.arr docs)) :
    items? item (.obj members) = docs.mapM item := by
  obtain ⟨metadata, hmetadata⟩ := Option.isSome_iff_exists.mp h.metadata
  simp only [items?, fields?, hmetadata, h.items, Option.bind_eq_bind, Option.bind_some, listOf?]

theorem items?_null (h : Holds members .null) : items? item (.obj members) = some [] := by
  obtain ⟨metadata, hmetadata⟩ := Option.isSome_iff_exists.mp h.metadata
  simp only [items?, fields?, hmetadata, h.items, Option.bind_eq_bind, Option.bind_some,
    Option.pure_def]

end Items

section Objects

variable {t : ResourceType α} {status : Nat} {body : Option Json}

theorem objects_lost : objects t lost = .error (.unlistable t.kind none) := by
  simp [objects, list, isUnknownType]

/-- A request that is refused fails, unless the type is an extension that is not installed. -/
theorem objects_refused (hstatus : 400 ≤ status ∧ status ≤ 599) :
    (response status body).objects t =
      if t.isCustom = true ∧ (body.bind bodyCode?).getD status = 404 then .ok []
      else .error (.unlistable t.kind (some ((body.bind bodyCode?).getD status))) := by
  simp [objects, list, hstatus, isUnknownType]

/-- Any other answer has to be a list. -/
theorem objects_answered (hstatus : ¬(400 ≤ status ∧ status ≤ 599)) :
    (response status body).objects t =
      match body.bind (items? t.ofJson?) with
      | some l => .ok l
      | none => .error (.unlistable t.kind none) := by
  simp only [objects, list, if_neg hstatus]
  cases body.bind (items? t.ofJson?) with
  | some l => rfl
  | none => simp [isUnknownType]

/-- **A list request fails** without an answer, when it is refused, and when its answer is no
list. -/
theorem exists_error_iff {answer : Answer} :
    (∃ e, answer.objects t = .error e) ↔ Fails t answer := by
  constructor
  · rintro ⟨e, he⟩
    cases answer with
    | lost => exact .lost
    | response status body =>
      by_cases hstatus : 400 ≤ status ∧ status ≤ 599
      · refine .refused hstatus fun hcode => ?_
        rw [objects_refused hstatus, if_pos hcode] at he
        cases he
      · -- what is not refused has to be a list
        refine .unreadable hstatus ?_
        cases hbody : body.bind (items? t.ofJson?) with
        | none => rfl
        | some l =>
          rw [objects_answered hstatus, hbody] at he
          cases he
  · rintro (_ | ⟨hstatus, hcode⟩ | ⟨hstatus, hbody⟩)
    · exact ⟨_, objects_lost⟩
    · rw [objects_refused hstatus, if_neg hcode]
      exact ⟨_, rfl⟩
    · rw [objects_answered hstatus, hbody]
      exact ⟨_, rfl⟩

/-- **A list of documents that have the shape of the type is read**: it says what the objects are,
in the order of the documents. -/
theorem objects_of_lists {docs : List Json} {answer : Answer} (h : Lists t docs answer)
    (hdocs : ∀ doc ∈ docs, (t.ofJson? doc).isSome) :
    answer.objects t = .ok (docs.filterMap t.ofJson?) := by
  cases h with
  | items hstatus hmembers =>
    have hread : docs.mapM t.ofJson? = some (docs.filterMap t.ofJson?) := by
      apply mapM_eq_filterMap
      intro doc hdoc
      obtain ⟨x, hx⟩ := Option.isSome_iff_exists.mp (hdocs doc hdoc)
      exact ⟨x, hx, hx⟩
    rw [objects_answered (by omega), Option.bind_some, items?_arr hmembers, hread]
  | null hstatus hmembers =>
    rw [objects_answered (by omega), Option.bind_some, items?_null hmembers]
    rfl
  | absent hcustom hstatus hcode =>
    rw [objects_refused hstatus, if_pos ⟨hcustom, hcode⟩]
    rfl

end Objects

end Answer

/-! ### Sessions -/

namespace Session

/-- The outcome of a session that goes on where others stopped, with the requests made by all of
them. -/
def runFrom (s : Session α) (server : ApiServer) (requests : List String) :
    Except Failure α × List String :=
  (ReaderT.run s server).run.run requests

variable {server : ApiServer} {requests : List String}

theorem run_eq_runFrom (s : Session α) (server : ApiServer) : s.run server = s.runFrom server [] :=
  rfl

/-- **One session after another**: the second begins with the requests of the first, unless that
failed. -/
theorem runFrom_bind (s : Session α) (f : α → Session β) :
    (s >>= f).runFrom server requests =
      match s.runFrom server requests with
      | (.ok a, requests) => (f a).runFrom server requests
      | (.error e, requests) => (.error e, requests) := by
  unfold runFrom
  rw [ReaderT.run_bind, ExceptT.run_bind, StateT.run_bind]
  rcases (ReaderT.run s server).run.run requests with ⟨⟨e⟩ | ⟨a⟩, requests⟩ <;> rfl

/-- **A list is one request**: what it gives is what the answer says. -/
theorem runFrom_list (t : ResourceType α) (ns : Option String) :
    (list t ns).runFrom server requests =
      ((server (t.listPath ns)).objects t, requests ++ ["GET " ++ t.listPath ns]) := by
  have hget : (get (t.listPath ns)).runFrom server requests =
      (.ok (server (t.listPath ns)), requests ++ ["GET " ++ t.listPath ns]) := rfl
  unfold list
  rw [runFrom_bind, hget]
  dsimp only
  unfold Answer.objects
  cases (server (t.listPath ns)).list t with
  | ok l => rfl
  | error e => dsimp only; split <;> rfl

section After

variable {t : ResourceType α} {ns : Option String} {f : List α → Session β}

/-- What a session gives that begins with a list goes by what the answer says. -/
theorem fst_runFrom_list_bind :
    ((list t ns >>= f).runFrom server requests).1 = (server (t.listPath ns)).objects t >>= fun l =>
      ((f l).runFrom server (requests ++ ["GET " ++ t.listPath ns])).1 := by
  rw [runFrom_bind, runFrom_list]
  cases (server (t.listPath ns)).objects t <;> rfl

/-- A session goes on after a list that is there. -/
theorem runFrom_list_bind {l : List α} (h : (server (t.listPath ns)).objects t = .ok l) :
    (list t ns >>= f).runFrom server requests =
      (f l).runFrom server (requests ++ ["GET " ++ t.listPath ns]) := by
  rw [runFrom_bind, runFrom_list, h]

end After

end Session

end GatewayMigration
