import GatewayMigration.Proofs.Gce.Sources

/-!
# Requests to a cluster

A cluster is read by one request for each kind of objects, in a fixed order, and the reading ends
with the first answer that is fatal. An answer that says that a custom resource is not installed is
no more than an empty list. A server is asked for no path twice, so it does not matter whether it
would answer the same again.

## Main definitions

* `Gce.Kind.Absent`, `Gce.Kind.Fatal`: what an answer can say about a kind besides its objects
* `Gce.installed`: a server that answers with an empty list instead
* `Gce.ReadProtocol`: how a cluster is read

## Main results

* `Gce.Kind.listPath_injective`: kinds are told apart by their requests
* `Gce.runFrom_visit_first`: a reading ends with the first fatal answer
* `Gce.run_ofCluster_congr`: a reading goes by the objects that the answers tell
* `Gce.readProtocol_ofCluster`: every cluster is read like this
-/

namespace GatewayMigration

/-! ### Codes -/

namespace Answer

variable {α : Type} {t : ResourceType α} {answer : Answer}

/-- The code of an error of the server: the one that its body describes, or else its status. -/
def code? : Answer → Option Nat
  | lost => none
  | response status body =>
    if 400 ≤ status ∧ status ≤ 599 then some ((body.bind bodyCode?).getD status) else none

/-- The answer with an empty list. -/
def emptyList : Answer := .response 200 (some (.obj [("items", .arr [])]))

theorem objects_emptyList : emptyList.objects t = .ok [] :=
  objects_of_lists (.items (by omega) ⟨rfl, rfl⟩) (List.forall_mem_nil _)

/-- An answer with a code is no list. -/
theorem list_of_code? {code : Nat} (h : answer.code? = some code) :
    answer.list t = .error (.unlistable t.kind (some code)) := by
  cases answer with
  | lost => cases h
  | response status body =>
    by_cases hstatus : 400 ≤ status ∧ status ≤ 599
    · rw [code?, if_pos hstatus] at h
      rw [list, if_pos hstatus, h]
    · rw [code?, if_neg hstatus] at h
      cases h

/-- **A failure tells the kind**, and the code if the server sent an error. -/
theorem eq_of_list_error {e : Failure} (h : answer.list t = .error e) :
    e = .unlistable t.kind answer.code? := by
  cases hcode : answer.code? with
  | some code =>
    rw [list_of_code? hcode] at h
    cases h
    rfl
  | none =>
    cases answer with
    | lost =>
      cases h
      rfl
    | response status body =>
      have hstatus : ¬(400 ≤ status ∧ status ≤ 599) := by
        intro hstatus
        rw [code?, if_pos hstatus] at hcode
        cases hcode
      rw [list, if_neg hstatus] at h
      cases hbody : body.bind (items? t.ofJson?) with
      | some l =>
        rw [hbody] at h
        cases h
      | none =>
        rw [hbody] at h
        cases h
        rfl

end Answer

/-- Servers that say the same of a list can only differ in what comes after it. -/
theorem Session.runFrom_list_bind_congr {α β : Type} {t : ResourceType α} {ns : Option String}
    {f : List α → Session β} {server server' : ApiServer} {requests : List String}
    (h : (server (t.listPath ns)).objects t = (server' (t.listPath ns)).objects t)
    (hf : ∀ l, (f l).runFrom server (requests ++ ["GET " ++ t.listPath ns]) =
      (f l).runFrom server' (requests ++ ["GET " ++ t.listPath ns])) :
    (list t ns >>= f).runFrom server requests = (list t ns >>= f).runFrom server' requests := by
  rw [runFrom_bind, runFrom_bind, runFrom_list, runFrom_list, h]
  cases (server' (t.listPath ns)).objects t with
  | error e => rfl
  | ok l => exact hf l

namespace Gce

/-! ### Kinds and their requests -/

namespace Kind

variable (ns : Option String) (server : ApiServer) (k : Kind)

/-- What a server answers to the request for the objects of the kind. -/
def answer : Answer := server (k.resource.listPath ns)

/-- The request for the objects of the kind. -/
def request : String := "GET " ++ k.resource.listPath ns

/-- The kinds that are custom resources. -/
def custom : List Kind := [backendConfig, betaBackendConfig, frontendConfig]

/-- The answer says that the kind is a custom resource that is not installed. -/
def Absent (a : Answer) : Prop := k ∈ custom ∧ a.code? = some 404

/-- The answer fails, and not because the kind is a custom resource that is not installed. -/
def Fatal (a : Answer) : Prop := (∃ e, a.list k.resource = .error e) ∧ ¬k.Absent a

instance (a : Answer) : Decidable (k.Absent a) := inferInstanceAs (Decidable (_ ∧ _))

variable {k}

theorem mem_custom_iff : k ∈ custom ↔ k.resource.isCustom = true := by
  cases k <;> decide

theorem nodup_all : all.Nodup := by decide

/-- **Kinds are told apart by their requests.** -/
theorem listPath_injective : (fun k : Kind => k.resource.listPath ns).Injective := by
  intro k k' h
  have hlength : k.resource.group.length + k.resource.plural.length =
      k'.resource.group.length + k'.resource.plural.length := by
    have h := congrArg String.length h
    cases ns <;> simp only [ResourceType.listPath, String.length_append] at h <;> omega
  -- no two groups and plurals are of one length together
  revert hlength
  cases k <;> cases k' <;> decide

theorem request_injective : (request ns).Injective := by
  intro k k' h
  exact listPath_injective ns ((String.append_right_inj _).mp h)

variable {a : Answer}

/-- **The objects of a kind**: those of the list, or none of a kind that is not there. -/
theorem objects_eq : a.objects k.resource =
    if k.Absent a then .ok [] else a.list k.resource := by
  unfold Answer.objects
  cases hlist : a.list k.resource with
  | ok l =>
    have habsent : ¬k.Absent a := by
      rintro ⟨-, hcode⟩
      rw [Answer.list_of_code? hcode] at hlist
      cases hlist
    rw [if_neg habsent]
  | error e =>
    obtain rfl := Answer.eq_of_list_error hlist
    simp [Absent, mem_custom_iff, Answer.isUnknownType]

theorem objects_of_fatal (h : k.Fatal a) :
    a.objects k.resource = .error (.unlistable k.resource.kind a.code?) := by
  obtain ⟨⟨e, he⟩, habsent⟩ := h
  rw [objects_eq, if_neg habsent, he, Answer.eq_of_list_error he]

theorem exists_objects_of_not_fatal (h : ¬k.Fatal a) : ∃ l, a.objects k.resource = .ok l := by
  rw [objects_eq]
  split
  case isTrue => exact ⟨[], rfl⟩
  case isFalse habsent =>
    cases hlist : a.list k.resource with
    | ok l => exact ⟨l, rfl⟩
    | error e => exact absurd ⟨⟨e, hlist⟩, habsent⟩ h

end Kind

/-! ### Readings -/

variable {ns : Option String} {server : ApiServer}

/-- Ask for the objects of kinds, and leave them. -/
def visit (ns : Option String) : List Kind → Session Unit
  | [] => pure ()
  | k :: ks => do
    let _ ← Session.list k.resource ns
    visit ns ks

/-- A cluster is read by asking for all kinds. -/
theorem map_ofCluster (ns : Option String) :
    (fun _ => ()) <$> Inventory.ofCluster ns = visit ns Kind.all := by
  simp only [Inventory.ofCluster, visit, Kind.all, map_bind, map_pure]
  rfl

/-- **The first fatal answer ends it all**: the requests up to it are made, and no other ones. -/
theorem runFrom_visit_first {before after : List Kind} {k : Kind}
    (hbefore : ∀ k' ∈ before, ¬k'.Fatal (k'.answer ns server)) (hk : k.Fatal (k.answer ns server))
    (requests : List String) :
    (visit ns (before ++ k :: after)).runFrom server requests =
      (.error (.unlistable k.resource.kind (k.answer ns server).code?),
        requests ++ (before ++ [k]).map (Kind.request ns)) := by
  induction before generalizing requests with
  | nil =>
    have hobjects : (server (k.resource.listPath ns)).objects k.resource = _ :=
      Kind.objects_of_fatal hk
    rw [List.nil_append, visit, Session.runFrom_bind, Session.runFrom_list, hobjects]
    rfl
  | cons first before ih =>
    obtain ⟨hfirst, hbefore⟩ := List.forall_mem_cons.mp hbefore
    obtain ⟨l, hl⟩ := Kind.exists_objects_of_not_fatal hfirst
    rw [List.cons_append, visit, Session.runFrom_list_bind hl, ih hbefore, List.append_assoc]
    rfl

/-- Leaving the result of a session changes neither its failure nor its requests. -/
theorem run_eq_of_map {α β : Type} {s : Session α} {f : α → β} {e : Failure}
    {requests : List String} (h : (f <$> s).run server = (.error e, requests)) :
    s.run server = (.error e, requests) := by
  rw [← bind_pure_comp, Session.run_eq_runFrom, Session.runFrom_bind] at h
  rw [Session.run_eq_runFrom]
  cases hs : s.runFrom server [] with
  | mk outcome made =>
    rw [hs] at h
    cases outcome with
    | error e' =>
      cases h
      rfl
    | ok x => cases h

theorem run_ofCluster_first {before after : List Kind} {k : Kind}
    (hall : Kind.all = before ++ k :: after)
    (hbefore : ∀ k' ∈ before, ¬k'.Fatal (k'.answer ns server))
    (hk : k.Fatal (k.answer ns server)) :
    (Inventory.ofCluster ns).run server =
      (.error (.unlistable k.resource.kind (k.answer ns server).code?),
        (before ++ [k]).map (Kind.request ns)) := by
  have h : (visit ns (before ++ k :: after)).runFrom server [] = _ :=
    runFrom_visit_first hbefore hk []
  rw [← hall, ← map_ofCluster] at h
  exact run_eq_of_map h

/-! ### Custom resources that are not installed -/

/-- The server that answers with an empty list where it is asked for a custom resource that is not
installed. -/
def installed (ns : Option String) (server : ApiServer) : ApiServer := fun path =>
  if ∃ k ∈ Kind.custom, k.resource.listPath ns = path ∧ (server path).code? = some 404 then
    .emptyList
  else server path

theorem answer_installed (k : Kind) : k.answer ns (installed ns server) =
    if k.Absent (k.answer ns server) then .emptyList else k.answer ns server := by
  have hiff : (∃ k' ∈ Kind.custom, k'.resource.listPath ns = k.resource.listPath ns ∧
      (server (k.resource.listPath ns)).code? = some 404) ↔ k.Absent (k.answer ns server) := by
    constructor
    · rintro ⟨k', hk', hpath, hcode⟩
      obtain rfl := Kind.listPath_injective ns hpath
      exact ⟨hk', hcode⟩
    · rintro ⟨hk, hcode⟩
      exact ⟨k, hk, rfl, hcode⟩
  unfold installed Kind.answer
  simp only [hiff]
  rfl

/-- **An extension that is not installed has no objects**, as if it were installed and had none. -/
theorem objects_installed (k : Kind) :
    (k.answer ns (installed ns server)).objects k.resource =
      (k.answer ns server).objects k.resource := by
  rw [answer_installed]
  split
  case isTrue habsent => rw [Answer.objects_emptyList, Kind.objects_eq, if_pos habsent]
  case isFalse => rfl

/-- A reading goes by what the answers say about the objects of each kind. -/
theorem run_ofCluster_congr {server' : ApiServer}
    (h : ∀ k : Kind, (k.answer ns server).objects k.resource =
      (k.answer ns server').objects k.resource) :
    (Inventory.ofCluster ns).run server = (Inventory.ofCluster ns).run server' := by
  rw [Session.run_eq_runFrom, Session.run_eq_runFrom]
  -- each list, with all that comes after it
  refine Session.runFrom_list_bind_congr (h .ingress) fun ingresses => ?_
  refine Session.runFrom_list_bind_congr (h .service) fun services => ?_
  refine Session.runFrom_list_bind_congr (h .backendConfig) fun backendConfigs => ?_
  refine Session.runFrom_list_bind_congr (h .betaBackendConfig) fun betaBackendConfigs => ?_
  refine Session.runFrom_list_bind_congr (h .frontendConfig) fun frontendConfigs => ?_
  rfl

/-! ### The protocol -/

/-- How a cluster is read, for all kinds in their order. -/
structure ReadProtocol (ns : Option String) (server : ApiServer) : Prop where
  /-- The first fatal answer is the failure of the reading. The requests up to it are made. -/
  stops : ∀ before k after, Kind.all = before ++ k :: after →
    (∀ k' ∈ before, ¬k'.Fatal (k'.answer ns server)) → k.Fatal (k.answer ns server) →
    (Inventory.ofCluster ns).run server =
      (.error (.unlistable k.resource.kind (k.answer ns server).code?),
        (before ++ [k]).map (Kind.request ns))
  /-- Without a fatal answer all requests are made. What is read are the lists of the answers, and
  no objects of custom resources that are not installed. -/
  reads : (∀ k : Kind, ¬k.Fatal (k.answer ns server)) → ∃ lists : (k : Kind) → List k.Object,
    (∀ k : Kind, if k.Absent (k.answer ns server) then lists k = []
      else (k.answer ns server).list k.resource = .ok (lists k)) ∧
    (Inventory.ofCluster ns).run server = (.ok (.ofKinds lists), Kind.all.map (Kind.request ns))
  /-- The reading succeeds just when no answer is fatal. -/
  succeeds : (∃ inventory, ((Inventory.ofCluster ns).run server).1 = .ok inventory) ↔
    ∀ k : Kind, ¬k.Fatal (k.answer ns server)
  /-- It comes to the same if the custom resources that are not installed are, without objects. -/
  installed : (Inventory.ofCluster ns).run (installed ns server) =
    (Inventory.ofCluster ns).run server
  /-- No request is made twice. -/
  once : ((Inventory.ofCluster ns).run server).2.Nodup

theorem reads_of_not_fatal (h : ∀ k : Kind, ¬k.Fatal (k.answer ns server)) :
    ∃ lists : (k : Kind) → List k.Object,
      (∀ k : Kind, (k.answer ns server).objects k.resource = .ok (lists k)) ∧
      (Inventory.ofCluster ns).run server =
        (.ok (.ofKinds lists), Kind.all.map (Kind.request ns)) := by
  choose lists hlists using fun k => Kind.exists_objects_of_not_fatal (h k)
  exact ⟨lists, hlists, Inventory.run_ofCluster_ok hlists⟩

/-- Either no answer is fatal, or there is a first one that is. -/
theorem not_fatal_or_first (ns : Option String) (server : ApiServer) :
    (∀ k : Kind, ¬k.Fatal (k.answer ns server)) ∨
      ∃ before k after, Kind.all = before ++ k :: after ∧
        (∀ k' ∈ before, ¬k'.Fatal (k'.answer ns server)) ∧ k.Fatal (k.answer ns server) := by
  rcases forall_or_exists_first (fun k : Kind => ¬k.Fatal (k.answer ns server)) Kind.all with
    hall | ⟨before, k, after, hall, hbefore, hk⟩
  · exact .inl fun k => hall k k.mem_all
  · exact .inr ⟨before, k, after, hall, hbefore, not_not.mp hk⟩

/-- **How a cluster is read**, whatever its server answers and whether or not a namespace is
given. -/
theorem readProtocol_ofCluster (ns : Option String) (server : ApiServer) :
    ReadProtocol ns server where
  stops before k after hall hbefore hk := run_ofCluster_first hall hbefore hk
  reads h := by
    obtain ⟨lists, hlists, hrun⟩ := reads_of_not_fatal h
    refine ⟨lists, fun k => ?_, hrun⟩
    have hk := hlists k
    rw [Kind.objects_eq] at hk
    split
    case isTrue habsent =>
      rw [if_pos habsent] at hk
      exact (Except.ok.inj hk).symm
    case isFalse habsent => rwa [if_neg habsent] at hk
  succeeds := by
    constructor
    · rintro ⟨inventory, hinventory⟩
      rcases not_fatal_or_first ns server with h | ⟨before, k, after, hall, hbefore, hk⟩
      · exact h
      · rw [run_ofCluster_first hall hbefore hk] at hinventory
        cases hinventory
    · intro h
      obtain ⟨lists, -, hrun⟩ := reads_of_not_fatal h
      exact ⟨_, congrArg Prod.fst hrun⟩
  installed := run_ofCluster_congr objects_installed
  once := by
    have hnodup : (Kind.all.map (Kind.request ns)).Nodup :=
      Kind.nodup_all.map (Kind.request_injective ns)
    rcases not_fatal_or_first ns server with h | ⟨before, k, after, hall, hbefore, hk⟩
    · obtain ⟨lists, -, hrun⟩ := reads_of_not_fatal h
      rw [hrun]
      exact hnodup
    · rw [run_ofCluster_first hall hbefore hk]
      rw [hall, List.append_cons, List.map_append] at hnodup
      exact (List.nodup_append.mp hnodup).1

/-- The code in the body of an answer counts, and not its status: this one is fatal. -/
example : ((Inventory.ofCluster none).run fun path =>
      if path = BackendConfig.v1.listPath none then
        .response 404 (some (.obj [("status", .str "Failure"), ("code", .int 403)]))
      else .emptyList) =
    (.error (.unlistable "BackendConfig" (some 403)),
      [Kind.ingress, .service, .backendConfig].map (Kind.request none)) := by
  decide +kernel

end Gce

end GatewayMigration
