import GatewayMigration.Proofs.Gce.Policies
import GatewayMigration.Proofs.Json.Form

/-!
# Settings and policies are read as they are written

The settings of Services and Gateways are records whose members are declared here. The policies of a
topology say nothing about themselves but the name of their object, so that nothing is lost when
they are read back from their documents.

## Main definitions

* `Gce.HealthCheck.declared`, and the same for the other settings: the members of a record

## Main results

* `Gce.HealthCheck.form`, and the same for the other settings: how they are written and read
* `Metadata.ofJson?_toJson_ofName`: metadata that only has an identity is read back
* `Gce.Policy.ofJson?_toJson_of_mem`: the policies of a topology are read back
-/

namespace GatewayMigration

open Json

/-! ### Objects that only have a name -/

/-- Of options that are all missing, nothing is left. -/
theorem Shape.read?_of_missing {members : List (String × Shape)} {given : Fields}
    (h : ∀ e ∈ members, lookup e.1 given = none) :
    (Shape.options members).read? (.obj given) = some (.obj []) := by
  have hnil : readMembers? (members.map fun e => (e.1, false, e.2)) given = some [] := by
    induction members with
    | nil => rfl
    | cons e members ih =>
      obtain ⟨hfirst, hrest⟩ := List.forall_mem_cons.mp h
      rw [List.map_cons, readMembers?, hfirst, ih hrest]
      rfl
  rw [options, read?, fields?, Option.bind_some, hnil]
  rfl

theorem Metadata.toJson_ofName (n : ObjectName) : (ofName n).toJson =
    .object [("annotations", none), ("name", some (.str n.name)),
      ("namespace", (ofName n).ns.map .str)] := rfl

/-- Metadata that only has an identity is read back. -/
theorem Metadata.ofJson?_toJson_ofName (n : ObjectName) :
    ofJson? (ofName n).toJson = some (ofName n) := by
  -- no other member is written
  have hothers : othersShape.read? (ofName n).toJson = some (.obj []) := by
    apply Shape.read?_of_missing
    intro e he
    apply field?_of_notMem
    revert e
    simp [ofName]
  rw [toJson_ofName] at hothers ⊢
  refine read_bind (fields?_object _) ?_
  refine read_bind (optional_written reads_string (some n.name) (by simp)) ?_
  refine read_bind (optional_written reads_string (ofName n).ns (by simp)) ?_
  refine read_bind (optional_of_absent (by simp)) ?_
  rw [hothers]
  rfl

/-- An object of a custom resource is read back if its specification is. -/
theorem CustomObject.ofJson?_toJson {σ : Type} {read : Json → Option σ} {write : σ → Json}
    (h : Reads read write) {o : CustomObject σ} {n : ObjectName} (hname : o.metadata = .ofName n) :
    ofJson? read (o.toJson write) = some o := by
  obtain ⟨apiVersion, kind, metadata, spec⟩ := o
  obtain rfl : metadata = .ofName n := hname
  refine read_bind (fields?_object _) ?_
  refine read_bind (required_written reads_string apiVersion (by simp)) ?_
  refine read_bind (required_written reads_string kind (by simp)) ?_
  refine read_bind ((required_of_present (by simp)).trans
    (Metadata.ofJson?_toJson_ofName n)) ?_
  refine read_bind (required_written h spec (by simp)) ?_
  rfl

namespace Gce

/-! ### Settings -/

/-- The members of a session affinity. -/
def SessionAffinity.declared : List (String × Presence) :=
  [("type", .required), ("cookie_ttl_sec", .optional)]

theorem SessionAffinity.form : Form ofJson? toJson declared where
  read_write a := by
    refine read_bind (variant?_object a.type (by simp)) ?_
    -- only a cookie carries anything beside its type
    cases a with
    | clientIp => rfl
    | none => rfl
    | generatedCookie t =>
      refine read_bind (record?_object _ _) ?_
      refine read_bind (optional_written reads_int64 t (by simp [ttl])) ?_
      rfl
  trimmed _ := trimmed_object (by simp [declared, Presence.omitted, reads_int64.ne_null])
  alike m m' h := by
    simp only [Alike, declared, List.forall_mem_cons, said_required] at h
    refine variant?_bind_congr h.1 fun type => ?_
    simp only [record?_obj, Option.bind_eq_bind, Option.bind_some, optional_eq, h]

/-- The members of a health check. -/
def HealthCheck.declared : List (String × Presence) :=
  [("check_interval_sec", .optional), ("timeout_sec", .optional), ("healthy_threshold", .optional),
    ("unhealthy_threshold", .optional), ("protocol", .required), ("port", .optional),
    ("request_path", .optional)]

theorem HealthCheck.form : Form ofJson? toJson declared where
  read_write := by
    rintro ⟨checkInterval, timeout, healthyThreshold, unhealthyThreshold, protocol, port,
      requestPath⟩
    -- members are read in the order of the declaration and found again by their keys
    refine read_bind (record?_object _ _) ?_
    refine read_bind (optional_written reads_int64 checkInterval (by simp)) ?_
    refine read_bind (optional_written reads_int64 timeout (by simp)) ?_
    refine read_bind (optional_written reads_int64 healthyThreshold (by simp)) ?_
    refine read_bind (optional_written reads_int64 unhealthyThreshold (by simp)) ?_
    refine read_bind
      (required_written (reads_unitVariant ProbeProtocol.ofText?_text) protocol (by simp)) ?_
    refine read_bind (optional_written reads_int64 port (by simp)) ?_
    refine read_bind (optional_written reads_string requestPath (by simp)) ?_
    rfl
  trimmed _ := trimmed_object (by simp [declared, Presence.omitted, reads_int64.ne_null])
  alike m m' h := by
    simp only [Alike, declared, List.forall_mem_cons, said_required] at h
    simp only [ofJson?, record?_obj, Option.bind_eq_bind, Option.bind_some, Fields.required,
      optional_eq, h]

/-- The members of the settings of a Service. -/
def ServiceSettings.declared : List (String × Presence) :=
  [("session_affinity", .optional), ("security_policy", .optional), ("health_check", .optional)]

theorem ServiceSettings.form : Form ofJson? toJson declared where
  read_write := by
    rintro ⟨sessionAffinity, securityPolicy, healthCheck⟩
    refine read_bind (record?_object _ _) ?_
    refine read_bind (optional_written SessionAffinity.form.reads sessionAffinity (by simp)) ?_
    refine read_bind (optional_written reads_string securityPolicy (by simp)) ?_
    refine read_bind (optional_written HealthCheck.form.reads healthCheck (by simp)) ?_
    rfl
  trimmed _ := trimmed_object (by
    simp [declared, Presence.omitted, SessionAffinity.form.reads.ne_null,
      HealthCheck.form.reads.ne_null])
  alike m m' h := by
    simp only [Alike, declared, List.forall_mem_cons] at h
    simp only [ofJson?, record?_obj, Option.bind_eq_bind, Option.bind_some, optional_eq, h]

/-- The members of the settings of a Gateway. -/
def GatewaySettings.declared : List (String × Presence) :=
  [("ssl_policy", .optional)]

theorem GatewaySettings.form : Form ofJson? toJson declared where
  read_write := by
    rintro ⟨sslPolicy⟩
    refine read_bind (record?_object _ _) ?_
    refine read_bind (optional_written reads_string sslPolicy (by simp)) ?_
    rfl
  trimmed _ := trimmed_object (by simp [declared, Presence.omitted])
  alike m m' h := by
    simp only [Alike, declared, List.forall_mem_cons] at h
    simp only [ofJson?, record?_obj, Option.bind_eq_bind, Option.bind_some, optional_eq, h]

/-! ### Contents of policies -/

theorem PolicyTarget.reads : Reads ofJson? toJson where
  read_write := by
    rintro ⟨group, kind, name⟩
    refine read_bind (record?_object _ _) ?_
    refine read_bind (required_written reads_string group (by simp)) ?_
    refine read_bind (required_written reads_string kind (by simp)) ?_
    refine read_bind (required_written reads_string name (by simp)) ?_
    rfl
  ne_null _ := Json.noConfusion

theorem PolicySpec.reads {σ : Type} {read : Json → Option σ} {write : σ → Json}
    (h : Reads read write) : Reads (ofJson? read) (toJson write) where
  read_write := by
    rintro ⟨content, target⟩
    refine read_bind (record?_object _ _) ?_
    refine read_bind (required_written h content (by simp)) ?_
    refine read_bind (required_written PolicyTarget.reads target (by simp)) ?_
    rfl
  ne_null _ := Json.noConfusion

theorem AffinityRule.reads : Reads ofJson? toJson where
  read_write := by
    rintro ⟨type, cookieTtl⟩
    refine read_bind (record?_object _ _) ?_
    refine read_bind (required_written reads_string type (by simp)) ?_
    refine read_bind (optional_written reads_int64 cookieTtl (by simp)) ?_
    rfl
  ne_null _ := Json.noConfusion

theorem BackendRules.reads : Reads ofJson? toJson where
  read_write := by
    rintro ⟨sessionAffinity, securityPolicy⟩
    refine read_bind (record?_object _ _) ?_
    refine read_bind (optional_written AffinityRule.reads sessionAffinity (by simp)) ?_
    refine read_bind (optional_written reads_string securityPolicy (by simp)) ?_
    rfl
  ne_null _ := Json.noConfusion

theorem ProbeTarget.reads : Reads ofJson? toJson where
  read_write := by
    rintro ⟨port, requestPath⟩
    refine read_bind (record?_object _ _) ?_
    refine read_bind (optional_written reads_int64 port (by simp)) ?_
    refine read_bind (optional_written reads_string requestPath (by simp)) ?_
    rfl
  ne_null _ := Json.noConfusion

theorem Probe.reads : Reads ofJson? toJson where
  read_write := by
    rintro ⟨type, http, https, http2⟩
    refine read_bind (record?_object _ _) ?_
    refine read_bind (required_written reads_string type (by simp)) ?_
    refine read_bind (optional_written ProbeTarget.reads http (by simp)) ?_
    refine read_bind (optional_written ProbeTarget.reads https (by simp)) ?_
    refine read_bind (optional_written ProbeTarget.reads http2 (by simp)) ?_
    rfl
  ne_null _ := Json.noConfusion

theorem HealthRules.reads : Reads ofJson? toJson where
  read_write := by
    rintro ⟨checkInterval, timeout, healthyThreshold, unhealthyThreshold, probe⟩
    refine read_bind (record?_object _ _) ?_
    refine read_bind (optional_written reads_int64 checkInterval (by simp)) ?_
    refine read_bind (optional_written reads_int64 timeout (by simp)) ?_
    refine read_bind (optional_written reads_int64 healthyThreshold (by simp)) ?_
    refine read_bind (optional_written reads_int64 unhealthyThreshold (by simp)) ?_
    refine read_bind (required_written Probe.reads probe (by simp)) ?_
    rfl
  ne_null _ := Json.noConfusion

theorem GatewayRules.reads : Reads ofJson? toJson where
  read_write := by
    rintro ⟨sslPolicy⟩
    refine read_bind (record?_object _ _) ?_
    refine read_bind (optional_written reads_string sslPolicy (by simp)) ?_
    rfl
  ne_null _ := Json.noConfusion

/-! ### Policies -/

/-- A policy that only has an identity beside what it says is read back. -/
theorem Policy.ofJson?_toJson {p : Policy} {n : ObjectName} (h : p.metadata = .ofName n) :
    ofJson? p.kind p.toJson = some p := by
  cases p with
  | backend policy =>
    exact congrArg (Option.map Policy.backend)
      (CustomObject.ofJson?_toJson (PolicySpec.reads BackendRules.reads) h)
  | health policy =>
    exact congrArg (Option.map Policy.health)
      (CustomObject.ofJson?_toJson (PolicySpec.reads HealthRules.reads) h)
  | gateway policy =>
    exact congrArg (Option.map Policy.gateway)
      (CustomObject.ofJson?_toJson (PolicySpec.reads GatewayRules.reads) h)

/-- **The policies of a topology are read back.** -/
theorem Policy.ofJson?_toJson_of_mem {t : Topology} {p : Policy} (hp : p ∈ policies t) :
    ofJson? p.kind p.toJson = some p := by
  rcases mem_policies_iff.mp hp with _ | _ | _ <;> exact Policy.ofJson?_toJson rfl

end Gce

end GatewayMigration
