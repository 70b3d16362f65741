import GatewayMigration.Proofs.Gce.RoundTrip

/-!
# Topologies are read as they are written

Every part of a topology is a record whose members are declared here, with what stands for a member
that is missing. What is written is read back, with all that is nested in it. What is read may have
other members, null options and empty lists; it is written without them, in a form that stays.

## Main definitions

* `Gateway.declared`, and the same for the other parts of a topology: the members of a record
* `Topology.RoundTrips`: all parts of a topology are read back, and settle

## Main results

* `Gateway.form`, and the same for the other parts of a topology: how they are written and read
* `Topology.roundTrips_parts`: topologies and their policies are read as they are written
-/

namespace GatewayMigration

open Json

/-! ### Gateways -/

namespace Listener

/-- The members of the certificates of a listener. -/
def certificatesDeclared : List (String × Presence) :=
  [("certificate_refs", .required)]

theorem certificatesForm : Form certificatesOfJson? certificatesToJson certificatesDeclared where
  read_write certificates := by
    refine read_bind (record?_object _ _) ?_
    exact required_written (reads_listOf reads_string) certificates (by simp [ofStrings])
  trimmed _ := trimmed_object (by simp [certificatesDeclared, Presence.omitted])
  alike m m' h := by
    simp only [Alike, certificatesDeclared, List.forall_mem_cons, said_required] at h
    simp only [certificatesOfJson?, record?_obj, Option.bind_eq_bind, Option.bind_some,
      Fields.required, h]

/-- The members of a listener. -/
def declared : List (String × Presence) :=
  [("name", .required), ("hostname", .optional), ("port", .required), ("protocol", .required),
    ("tls", .optional)]

theorem form : Form ofJson? toJson declared where
  read_write := by
    rintro ⟨name, hostname, port, protocol, certificates⟩
    refine read_bind (record?_object _ _) ?_
    refine read_bind (required_written reads_string name (by simp)) ?_
    refine read_bind (optional_written reads_string hostname (by simp)) ?_
    refine read_bind (required_written reads_uint16 port (by simp)) ?_
    refine read_bind
      (required_written (reads_unitVariant Protocol.ofText?_text) protocol (by simp)) ?_
    refine read_bind (optional_written certificatesForm.reads certificates (by simp)) ?_
    rfl
  trimmed _ := trimmed_object (by simp [declared, Presence.omitted, certificatesForm.reads.ne_null])
  alike m m' h := by
    simp only [Alike, declared, List.forall_mem_cons, said_required] at h
    simp only [ofJson?, record?_obj, Option.bind_eq_bind, Option.bind_some, Fields.required,
      optional_eq, h]

end Listener

/-- The members of what providers add to a Gateway. -/
def GatewayExtension.declared : List (String × Presence) :=
  [("gce", .optional)]

theorem GatewayExtension.form : Form ofJson? toJson declared where
  read_write := by
    rintro ⟨gce⟩
    refine read_bind (record?_object _ _) ?_
    refine read_bind (optional_written Gce.GatewaySettings.form.reads gce (by simp)) ?_
    rfl
  trimmed _ := trimmed_object (by
    simp [declared, Presence.omitted, Gce.GatewaySettings.form.reads.ne_null])
  alike m m' h := by
    simp only [Alike, declared, List.forall_mem_cons] at h
    simp only [ofJson?, record?_obj, Option.bind_eq_bind, Option.bind_some, optional_eq, h]

/-- The members of a Gateway. -/
def Gateway.declared : List (String × Presence) :=
  [("gateway_class_name", .required), ("listeners", .required), ("extension", .optional)]

theorem Gateway.form : Form ofJson? toJson declared where
  read_write := by
    rintro ⟨className, listeners, extension⟩
    refine read_bind (record?_object _ _) ?_
    refine read_bind (required_written reads_string className (by simp)) ?_
    refine read_bind (required_written (reads_listOf Listener.form.reads) listeners (by simp)) ?_
    refine read_bind (optional_written GatewayExtension.form.reads extension (by simp)) ?_
    rfl
  trimmed _ := trimmed_object (by
    simp [declared, Presence.omitted, GatewayExtension.form.reads.ne_null])
  alike m m' h := by
    simp only [Alike, declared, List.forall_mem_cons, said_required] at h
    simp only [ofJson?, record?_obj, Option.bind_eq_bind, Option.bind_some, Fields.required,
      optional_eq, h]

/-! ### Routes -/

/-- The members of a reference to a Gateway. -/
def ParentRef.declared : List (String × Presence) :=
  [("name", .required), ("namespace", .optional), ("section_name", .optional)]

theorem ParentRef.form : Form ofJson? toJson declared where
  read_write := by
    rintro ⟨name, ns, sectionName⟩
    refine read_bind (record?_object _ _) ?_
    refine read_bind (required_written reads_string name (by simp)) ?_
    refine read_bind (optional_written reads_string ns (by simp)) ?_
    refine read_bind (optional_written reads_string sectionName (by simp)) ?_
    rfl
  trimmed _ := trimmed_object (by simp [declared, Presence.omitted])
  alike m m' h := by
    simp only [Alike, declared, List.forall_mem_cons, said_required] at h
    simp only [ofJson?, record?_obj, Option.bind_eq_bind, Option.bind_some, Fields.required,
      optional_eq, h]

/-- The members of a condition on the path. -/
def PathMatch.declared : List (String × Presence) :=
  [("type", .required), ("value", .required)]

theorem PathMatch.form : Form ofJson? toJson declared where
  read_write p := by
    cases p with
    | pathPrefix value =>
      refine read_bind (variant?_object "PathPrefix" (by simp [parts])) ?_
      refine read_bind (record?_object _ _) ?_
      refine read_bind (required_written reads_string value (by simp [parts])) ?_
      rfl
    | exact value =>
      refine read_bind (variant?_object "Exact" (by simp [parts])) ?_
      refine read_bind (record?_object _ _) ?_
      refine read_bind (required_written reads_string value (by simp [parts])) ?_
      rfl
  trimmed _ := trimmed_object (by simp [declared, Presence.omitted])
  alike m m' h := by
    simp only [Alike, declared, List.forall_mem_cons, said_required] at h
    refine variant?_bind_congr h.1 fun type => ?_
    simp only [record?_obj, Option.bind_eq_bind, Option.bind_some, Fields.required, h]

/-- The members of a backend of either variant. -/
def BackendRef.declared : List (String × Presence) :=
  [("type", .required), ("name", .required), ("port", .required), ("group", .optional),
    ("kind", .required)]

theorem BackendRef.form : Form ofJson? toJson declared where
  read_write b := by
    -- the variant says which members there are
    cases b with
    | service name port =>
      refine read_bind (variant?_object "Service" (by simp)) ?_
      refine read_bind (record?_object _ _) ?_
      refine read_bind (required_written reads_string name (by simp)) ?_
      refine read_bind (required_written reads_uint16 port (by simp)) ?_
      rfl
    | resource group kind name =>
      refine read_bind (variant?_object "Resource" (by simp)) ?_
      refine read_bind (record?_object _ _) ?_
      refine read_bind (optional_written reads_string group (by simp)) ?_
      refine read_bind (required_written reads_string kind (by simp)) ?_
      refine read_bind (required_written reads_string name (by simp)) ?_
      rfl
  trimmed b := by
    cases b with
    | service => exact trimmed_object (by simp [declared, Presence.omitted])
    | resource => exact trimmed_object (by simp [declared, Presence.omitted])
  alike m m' h := by
    simp only [Alike, declared, List.forall_mem_cons, said_required] at h
    -- members of the other variant are not read
    refine variant?_bind_congr h.1 fun type => ?_
    simp only [record?_obj, Option.bind_eq_bind, Option.bind_some, Fields.required, optional_eq, h]

/-- The members of a rule. -/
def RouteRule.declared : List (String × Presence) :=
  [("matches", .listed), ("backend_refs", .required)]

theorem RouteRule.form : Form ofJson? toJson declared where
  read_write := by
    rintro ⟨pathMatches, backends⟩
    refine read_bind (record?_object _ _) ?_
    -- a rule for every request has no such member
    refine read_bind (defaulted_written PathMatch.form.reads pathMatches (by simp)) ?_
    refine read_bind (required_written (reads_listOf BackendRef.form.reads) backends (by simp)) ?_
    rfl
  trimmed r := trimmed_object (by simpa [declared, Presence.omitted] using ne_of_ofNonempty_eq _)
  alike m m' h := by
    simp only [Alike, declared, List.forall_mem_cons, said_required] at h
    simp only [ofJson?, record?_obj, Option.bind_eq_bind, Option.bind_some, Fields.required,
      defaulted_eq, h]

/-- The members of a route. -/
def HttpRoute.declared : List (String × Presence) :=
  [("parent_refs", .required), ("hostnames", .listed), ("rules", .required)]

theorem HttpRoute.form : Form ofJson? toJson declared where
  read_write := by
    rintro ⟨parents, hostnames, rules⟩
    refine read_bind (record?_object _ _) ?_
    refine read_bind (required_written (reads_listOf ParentRef.form.reads) parents (by simp)) ?_
    refine read_bind (defaulted_written reads_string hostnames (by simp)) ?_
    refine read_bind (required_written (reads_listOf RouteRule.form.reads) rules (by simp)) ?_
    rfl
  trimmed _ := trimmed_object (by simpa [declared, Presence.omitted] using ne_of_ofNonempty_eq _)
  alike m m' h := by
    simp only [Alike, declared, List.forall_mem_cons, said_required] at h
    simp only [ofJson?, record?_obj, Option.bind_eq_bind, Option.bind_some, Fields.required,
      defaulted_eq, h]

/-! ### Services -/

/-- The members of what providers add to a Service. -/
def ServiceExtension.declared : List (String × Presence) :=
  [("gce", .optional)]

theorem ServiceExtension.form : Form ofJson? toJson declared where
  read_write := by
    rintro ⟨gce⟩
    refine read_bind (record?_object _ _) ?_
    refine read_bind (optional_written Gce.ServiceSettings.form.reads gce (by simp)) ?_
    rfl
  trimmed _ := trimmed_object (by
    simp [declared, Presence.omitted, Gce.ServiceSettings.form.reads.ne_null])
  alike m m' h := by
    simp only [Alike, declared, List.forall_mem_cons] at h
    simp only [ofJson?, record?_obj, Option.bind_eq_bind, Option.bind_some, optional_eq, h]

/-! ### All parts of a topology -/

/-- The parts of a topology are read back after they were written, and settle when they are written
after they were read. -/
structure Topology.RoundTrips : Prop where
  gateway : Json.RoundTrips Gateway.ofJson? Gateway.toJson Gateway.declared
  listener : Json.RoundTrips Listener.ofJson? Listener.toJson Listener.declared
  httpRoute : Json.RoundTrips HttpRoute.ofJson? HttpRoute.toJson HttpRoute.declared
  routeRule : Json.RoundTrips RouteRule.ofJson? RouteRule.toJson RouteRule.declared
  parentRef : Json.RoundTrips ParentRef.ofJson? ParentRef.toJson ParentRef.declared
  pathMatch : Json.RoundTrips PathMatch.ofJson? PathMatch.toJson PathMatch.declared
  backendRef : Json.RoundTrips BackendRef.ofJson? BackendRef.toJson BackendRef.declared
  serviceExtension :
    Json.RoundTrips ServiceExtension.ofJson? ServiceExtension.toJson ServiceExtension.declared
  serviceSettings :
    Json.RoundTrips Gce.ServiceSettings.ofJson? Gce.ServiceSettings.toJson
      Gce.ServiceSettings.declared
  gatewaySettings :
    Json.RoundTrips Gce.GatewaySettings.ofJson? Gce.GatewaySettings.toJson
      Gce.GatewaySettings.declared
  sessionAffinity :
    Json.RoundTrips Gce.SessionAffinity.ofJson? Gce.SessionAffinity.toJson
      Gce.SessionAffinity.declared
  healthCheck :
    Json.RoundTrips Gce.HealthCheck.ofJson? Gce.HealthCheck.toJson Gce.HealthCheck.declared
  /-- The policies that a topology is written with are read back from their documents. -/
  policy : ∀ t, ∀ p ∈ (Gce.lower t).1.policies, Gce.Policy.ofJson? p.kind p.toJson = some p

/-- **Topologies and their policies are read as they are written.** -/
theorem Topology.roundTrips_parts : Topology.RoundTrips where
  gateway := Gateway.form.roundTrips
  listener := Listener.form.roundTrips
  httpRoute := HttpRoute.form.roundTrips
  routeRule := RouteRule.form.roundTrips
  parentRef := ParentRef.form.roundTrips
  pathMatch := PathMatch.form.roundTrips
  backendRef := BackendRef.form.roundTrips
  serviceExtension := ServiceExtension.form.roundTrips
  serviceSettings := Gce.ServiceSettings.form.roundTrips
  gatewaySettings := Gce.GatewaySettings.form.roundTrips
  sessionAffinity := Gce.SessionAffinity.form.roundTrips
  healthCheck := Gce.HealthCheck.form.roundTrips
  policy _ _ hp := Gce.Policy.ofJson?_toJson_of_mem hp

/-- A member that is not declared, a list that is empty and a namespace that is null go. -/
example :
    normal? HttpRoute.ofJson? HttpRoute.toJson
        (.obj [("comment", .bool true), ("hostnames", .arr []),
          ("parent_refs", .arr [.obj [("name", .str "nginx"), ("namespace", .null)]]),
          ("rules", .arr [])]) =
      some (.obj [("parent_refs", .arr [.obj [("name", .str "nginx")]]), ("rules", .arr [])]) := by
  rfl

end GatewayMigration
