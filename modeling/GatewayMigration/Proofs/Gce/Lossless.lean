import GatewayMigration.Proofs.Gce.Policies

/-!
# Documents tell the topology

A topology is written as documents, and the documents tell it: two topologies with the same
documents have the same routes, the same Gateways, and the same settings of Services. What they may
differ in is not written at all, that is, settings in which nothing is set.

## Main definitions

* `Gce.Written`: a document that is written for a topology, by what it is written for
* `Gce.madeSettings?`: the settings of a Service, if anything is set
* `Gce.SameContent`: two topologies have the same routes, Gateways and settings

## Main results

* `HealthRules.toJson_injective`, `BackendRules.toJson_injective`: policies tell the settings
* `mem_documents_iff`: the documents of a topology are those that are written for it
* `sameContent_of_documents_eq`: documents tell the topology
-/

namespace GatewayMigration.Gce

open Json

/-! ### What policies tell -/

theorem AffinityRule.toJson_injective : Function.Injective AffinityRule.toJson := by
  rintro ⟨type, cookieTtl⟩ ⟨type', cookieTtl'⟩ h
  have hmembers := object_injective h rfl (by simp)
  simp only [List.cons.injEq, Prod.mk.injEq, Option.some.injEq, true_and, and_true] at hmembers
  obtain ⟨httl, htype⟩ := hmembers
  obtain rfl := Option.map_injective ofInt64_injective httl
  obtain rfl := str_injective htype
  rfl

theorem BackendRules.toJson_injective : Function.Injective BackendRules.toJson := by
  rintro ⟨sessionAffinity, securityPolicy⟩ ⟨sessionAffinity', securityPolicy'⟩ h
  have hmembers := object_injective h rfl (by simp)
  simp only [List.cons.injEq, Prod.mk.injEq, true_and, and_true] at hmembers
  obtain ⟨hsecurity, haffinity⟩ := hmembers
  obtain rfl := Option.map_injective str_injective hsecurity
  obtain rfl := Option.map_injective AffinityRule.toJson_injective haffinity
  rfl

theorem ProbeTarget.toJson_injective : Function.Injective ProbeTarget.toJson := by
  rintro ⟨port, requestPath⟩ ⟨port', requestPath'⟩ h
  have hmembers := object_injective h rfl (by simp)
  simp only [List.cons.injEq, Prod.mk.injEq, true_and, and_true] at hmembers
  obtain ⟨hport, hpath⟩ := hmembers
  obtain rfl := Option.map_injective ofInt64_injective hport
  obtain rfl := Option.map_injective str_injective hpath
  rfl

theorem Probe.toJson_injective : Function.Injective Probe.toJson := by
  rintro ⟨type, http, https, http2⟩ ⟨type', http', https', http2'⟩ h
  have hmembers := object_injective h rfl (by simp)
  simp only [List.cons.injEq, Prod.mk.injEq, Option.some.injEq, true_and, and_true] at hmembers
  obtain ⟨hhttp2, hhttp, hhttps, htype⟩ := hmembers
  obtain rfl := Option.map_injective ProbeTarget.toJson_injective hhttp2
  obtain rfl := Option.map_injective ProbeTarget.toJson_injective hhttp
  obtain rfl := Option.map_injective ProbeTarget.toJson_injective hhttps
  obtain rfl := str_injective htype
  rfl

theorem HealthRules.toJson_injective : Function.Injective HealthRules.toJson := by
  rintro ⟨checkInterval, timeout, healthy, unhealthy, probe⟩
    ⟨checkInterval', timeout', healthy', unhealthy', probe'⟩ h
  have hmembers := object_injective h rfl (by simp)
  simp only [List.cons.injEq, Prod.mk.injEq, Option.some.injEq, true_and, and_true] at hmembers
  obtain ⟨hinterval, hprobe, hhealthy, htimeout, hunhealthy⟩ := hmembers
  obtain rfl := Option.map_injective ofInt64_injective hinterval
  obtain rfl := Probe.toJson_injective hprobe
  obtain rfl := Option.map_injective ofInt64_injective hhealthy
  obtain rfl := Option.map_injective ofInt64_injective htimeout
  obtain rfl := Option.map_injective ofInt64_injective hunhealthy
  rfl

theorem GatewayRules.toJson_injective : Function.Injective GatewayRules.toJson := by
  rintro ⟨sslPolicy⟩ ⟨sslPolicy'⟩ h
  have hmembers := object_injective h rfl (by simp)
  simp only [List.cons.injEq, Prod.mk.injEq, true_and, and_true] at hmembers
  obtain rfl := Option.map_injective str_injective hmembers
  rfl

theorem PolicySpec.content_eq_of_toJson_eq {σ : Type} {content : σ → Json} {s s' : PolicySpec σ}
    (hcontent : Function.Injective content) (h : s.toJson content = s'.toJson content) :
    s.content = s'.content := by
  have hmembers := object_injective h rfl (by simp)
  simp only [List.cons.injEq, Prod.mk.injEq, Option.some.injEq, true_and, and_true] at hmembers
  exact hcontent hmembers.1

/-- The type and the lifetime of a cookie tell a session affinity. -/
theorem SessionAffinity.rule_injective :
    Function.Injective fun a : SessionAffinity => (⟨a.type, a.ttl⟩ : AffinityRule) := by
  intro a b h
  simp only [AffinityRule.mk.injEq] at h
  apply Option.some.inj
  rw [← SessionAffinity.ofType?_type a, h.1, h.2, SessionAffinity.ofType?_type]

/-- The protocol of a probe is the one whose member is set. -/
theorem HealthCheck.rules_injective : Function.Injective fun h : HealthCheck =>
    (⟨h.checkInterval, h.timeout, h.healthyThreshold, h.unhealthyThreshold,
      .ofHealthCheck h⟩ : HealthRules) := by
  rintro ⟨interval, timeout, healthy, unhealthy, protocol, port, path⟩
    ⟨interval', timeout', healthy', unhealthy', protocol', port', path'⟩ h
  simp only [HealthRules.mk.injEq] at h
  obtain ⟨rfl, rfl, rfl, rfl, hprobe⟩ := h
  cases protocol <;> cases protocol' <;> simp_all [Probe.ofHealthCheck, ProbeProtocol.text]

/-! ### What is written -/

/-- A document that is written for a topology. -/
inductive Written (t : Topology) : Json → Prop
  | gateway {name : ObjectName} {g : Gateway} (found : t.gateways.find? name = some g) :
      Written t (g.toDocument name)
  | route {name : ObjectName} {r : HttpRoute} (found : t.httpRoutes.find? name = some r) :
      Written t (r.toDocument name)
  | policy {p : Policy} (called : Calls t p) : Written t p.toJson

variable {t u : Topology}

/-- **The documents of a topology are those that are written for it**, where it has nothing that
Ingresses have no counterpart for. -/
theorem mem_documents_iff (ht : t.extras = Topology.empty.extras) {doc : Json} :
    doc ∈ (lower t).1.documents ↔ Written t doc := by
  rw [documents_lower ht]
  constructor
  · intro hdoc
    rcases List.mem_append.mp hdoc with hdoc | hdoc
    · rcases List.mem_append.mp hdoc with hdoc | hdoc
      · obtain ⟨e, he, rfl⟩ := List.mem_map.mp hdoc
        exact .gateway (OrderedMap.find?_eq_some_iff.mpr he)
      · obtain ⟨e, he, rfl⟩ := List.mem_map.mp hdoc
        exact .route (OrderedMap.find?_eq_some_iff.mpr he)
    · obtain ⟨p, hp, rfl⟩ := List.mem_map.mp hdoc
      exact .policy (mem_policies_iff.mp hp)
  · intro hdoc
    cases hdoc with
    | gateway found =>
      exact List.mem_append_left _ (List.mem_append_left _
        (List.mem_map.mpr ⟨_, OrderedMap.find?_eq_some_iff.mp found, rfl⟩))
    | route found =>
      exact List.mem_append_left _ (List.mem_append_right _
        (List.mem_map.mpr ⟨_, OrderedMap.find?_eq_some_iff.mp found, rfl⟩))
    | policy called =>
      exact List.mem_append_right _ (List.mem_map.mpr ⟨_, mem_policies_iff.mpr called, rfl⟩)

/-! ### What a document is written for

The kind of a document says whether it is written for a Gateway, for a route, or as which policy, so
of the ways to write a document one is left. -/

theorem Written.exists_gateway {name : ObjectName} {g : Gateway}
    (h : Written t (g.toDocument name)) :
    ∃ g', t.gateways.find? name = some g' ∧ g.className = g'.className ∧
      g.listeners = g'.listeners := by
  generalize hdoc : g.toDocument name = doc at h
  cases h with
  | @gateway name' g' found =>
    obtain ⟨rfl, hclass, hlisteners⟩ := Gateway.eq_of_toDocument_eq hdoc
    exact ⟨g', found, hclass, hlisteners⟩
  | route => exact absurd (document_injective hdoc).2.1 (by simp)
  | policy called => cases called <;> exact absurd (document_injective hdoc).2.1 (by simp)

theorem Written.find?_route {name : ObjectName} {r : HttpRoute}
    (h : Written t (r.toDocument name)) : t.httpRoutes.find? name = some r := by
  generalize hdoc : r.toDocument name = doc at h
  cases h with
  | gateway => exact absurd (document_injective hdoc).2.1 (by simp)
  | route found =>
    obtain ⟨rfl, rfl⟩ := HttpRoute.eq_of_toDocument_eq hdoc
    exact found
  | policy called => cases called <;> exact absurd (document_injective hdoc).2.1 (by simp)

/-- A document with the kind of a policy is written as a policy of the kind. -/
theorem Written.exists_policy {σ : Type} {kind : PolicyKind} {name : ObjectName} {content : σ}
    {target : PolicyTarget} {toSpec : PolicySpec σ → Json}
    (h : Written t ((Policy.attached kind name content target).toJson toSpec)) :
    ∃ p, Calls t p ∧ p.kind = kind ∧
      p.toJson = (Policy.attached kind name content target).toJson toSpec := by
  generalize hdoc : (Policy.attached kind name content target).toJson toSpec = doc at h
  have hidentity : Manifest.identity doc = .ofName "networking.gke.io/v1" kind.text name := by
    rw [← hdoc]
    exact Manifest.identity_customObject rfl _
  cases h with
  | gateway =>
    rw [Gateway.toDocument, Manifest.identity_gatewayApiDocument] at hidentity
    exact absurd (Manifest.Identity.ofName_injective hidentity).1 (by decide)
  | route =>
    rw [HttpRoute.toDocument, Manifest.identity_gatewayApiDocument] at hidentity
    exact absurd (Manifest.Identity.ofName_injective hidentity).1 (by decide)
  | @policy p called =>
    rw [called.identity] at hidentity
    exact ⟨p, called,
      PolicyKind.text_injective (Manifest.Identity.ofName_injective hidentity).2.1, rfl⟩

theorem Written.exists_backend {service : ObjectName} {rules : BackendRules}
    (h : Written t (Policy.backend
      (Policy.attached .backend service rules (.service service.name))).toJson) :
    ∃ s, t.services.find? service = some ⟨some s⟩ ∧
      rules = ⟨s.sessionAffinity.map fun a => ⟨a.type, a.ttl⟩, s.securityPolicy⟩ := by
  obtain ⟨p, called, hkind, hdoc⟩ := Written.exists_policy h
  cases called with
  | @backend service' s found set =>
    obtain ⟨-, -, rfl, hspec⟩ := document_injective hdoc
    exact ⟨s, found, (PolicySpec.content_eq_of_toJson_eq BackendRules.toJson_injective hspec).symm⟩
  | health => cases hkind
  | gateway => cases hkind

theorem Written.exists_health {service : ObjectName} {rules : HealthRules}
    (h : Written t (Policy.health
      (Policy.attached .health service rules (.service service.name))).toJson) :
    ∃ s check, t.services.find? service = some ⟨some s⟩ ∧ s.healthCheck = some check ∧
      rules = ⟨check.checkInterval, check.timeout, check.healthyThreshold,
        check.unhealthyThreshold, .ofHealthCheck check⟩ := by
  obtain ⟨p, called, hkind, hdoc⟩ := Written.exists_policy h
  cases called with
  | backend => cases hkind
  | @health service' s check found set =>
    obtain ⟨-, -, rfl, hspec⟩ := document_injective hdoc
    exact ⟨s, check, found, set,
      (PolicySpec.content_eq_of_toJson_eq HealthRules.toJson_injective hspec).symm⟩
  | gateway => cases hkind

theorem Written.exists_sslPolicy {gateway : ObjectName} {policy : String}
    (h : Written t (Policy.gateway
      (Policy.attached .gateway gateway ⟨some policy⟩ (.gateway gateway.name))).toJson) :
    ∃ g, t.gateways.find? gateway = some g ∧ sslPolicy? g = some policy := by
  obtain ⟨p, called, hkind, hdoc⟩ := Written.exists_policy h
  cases called with
  | backend => cases hkind
  | health => cases hkind
  | @gateway gateway' g policy' found set =>
    obtain ⟨-, -, rfl, hspec⟩ := document_injective hdoc
    have hrules := PolicySpec.content_eq_of_toJson_eq GatewayRules.toJson_injective hspec
    cases hrules
    exact ⟨g, found, set⟩

/-! ### Settings of Services -/

/-- The settings of a Service. -/
def settings? (t : Topology) (service : ObjectName) : Option ServiceSettings :=
  (t.services.find? service).bind (·.gce)

/-- The settings of a Service, if anything is set. -/
def madeSettings? (t : Topology) (service : ObjectName) : Option ServiceSettings :=
  (settings? t service).filter (!·.isEmpty)

theorem settings?_eq_some_iff {service : ObjectName} {s : ServiceSettings} :
    settings? t service = some s ↔ t.services.find? service = some ⟨some s⟩ := by
  unfold settings?
  constructor
  · intro h
    obtain ⟨⟨gce⟩, hfound, rfl⟩ := Option.bind_eq_some_iff.mp h
    exact hfound
  · intro h
    rw [h]
    rfl

/-- Settings are told by their parts, unless nothing is set. -/
theorem ServiceSettings.filter_isEmpty_congr {s s' : Option ServiceSettings}
    (haffinity : s.bind (·.sessionAffinity) = s'.bind (·.sessionAffinity))
    (hsecurity : s.bind (·.securityPolicy) = s'.bind (·.securityPolicy))
    (hhealth : s.bind (·.healthCheck) = s'.bind (·.healthCheck)) :
    s.filter (!·.isEmpty) = s'.filter (!·.isEmpty) := by
  rcases s with _ | ⟨affinity, security, health⟩ <;>
    rcases s' with _ | ⟨affinity', security', health'⟩ <;>
    simp_all [isEmpty, Option.filter]

/-! ### The result -/

/-- Two topologies have the same routes, Gateways and settings. -/
structure SameContent (t u : Topology) : Prop where
  httpRoutes : t.httpRoutes = u.httpRoutes
  /-- Gateways have the same names, classes, listeners and SSL policies. -/
  gateways : ∀ name,
    (t.gateways.find? name).map (fun g => (g.className, g.listeners, sslPolicy? g)) =
      (u.gateways.find? name).map fun g => (g.className, g.listeners, sslPolicy? g)
  services : ∀ service, madeSettings? t service = madeSettings? u service

section Telling

variable (htu : ∀ doc, Written t doc → Written u doc)
include htu

theorem exists_gateway_of_written {name : ObjectName} {g : Gateway}
    (hg : t.gateways.find? name = some g) :
    ∃ g', u.gateways.find? name = some g' ∧ g.className = g'.className ∧
      g.listeners = g'.listeners :=
  (htu _ (.gateway hg)).exists_gateway

theorem sslPolicy_of_written {name : ObjectName} {policy : String}
    (h : (t.gateways.find? name).bind sslPolicy? = some policy) :
    (u.gateways.find? name).bind sslPolicy? = some policy := by
  obtain ⟨g, hg, hset⟩ := Option.bind_eq_some_iff.mp h
  obtain ⟨g', hg', hset'⟩ := (htu _ (.policy (.gateway hg hset))).exists_sslPolicy
  rw [hg', Option.bind_some, hset']

theorem exists_settings_of_written {service : ObjectName} {s : ServiceSettings}
    (hs : settings? t service = some s)
    (hset : s.sessionAffinity.isSome ∨ s.securityPolicy.isSome) :
    ∃ s', settings? u service = some s' ∧ s.sessionAffinity = s'.sessionAffinity ∧
      s.securityPolicy = s'.securityPolicy := by
  obtain ⟨s', hs', hrules⟩ :=
    (htu _ (.policy (.backend (settings?_eq_some_iff.mp hs) hset))).exists_backend
  simp only [BackendRules.mk.injEq] at hrules
  exact ⟨s', settings?_eq_some_iff.mpr hs',
    Option.map_injective SessionAffinity.rule_injective hrules.1, hrules.2⟩

theorem sessionAffinity_of_written {service : ObjectName} {a : SessionAffinity}
    (h : (settings? t service).bind (·.sessionAffinity) = some a) :
    (settings? u service).bind (·.sessionAffinity) = some a := by
  obtain ⟨s, hs, ha⟩ := Option.bind_eq_some_iff.mp h
  obtain ⟨s', hs', haffinity, -⟩ := exists_settings_of_written htu hs (.inl (by rw [ha]; rfl))
  rw [hs', Option.bind_some, ← haffinity, ha]

theorem securityPolicy_of_written {service : ObjectName} {policy : String}
    (h : (settings? t service).bind (·.securityPolicy) = some policy) :
    (settings? u service).bind (·.securityPolicy) = some policy := by
  obtain ⟨s, hs, hp⟩ := Option.bind_eq_some_iff.mp h
  obtain ⟨s', hs', -, hsecurity⟩ := exists_settings_of_written htu hs (.inr (by rw [hp]; rfl))
  rw [hs', Option.bind_some, ← hsecurity, hp]

theorem healthCheck_of_written {service : ObjectName} {check : HealthCheck}
    (h : (settings? t service).bind (·.healthCheck) = some check) :
    (settings? u service).bind (·.healthCheck) = some check := by
  obtain ⟨s, hs, hcheck⟩ := Option.bind_eq_some_iff.mp h
  obtain ⟨s', check', hs', hcheck', hrules⟩ :=
    (htu _ (.policy (.health (settings?_eq_some_iff.mp hs) hcheck))).exists_health
  obtain rfl := HealthCheck.rules_injective hrules
  rw [settings?_eq_some_iff.mpr hs', Option.bind_some, hcheck']

end Telling

theorem sameContent_of_written (h : ∀ doc, Written t doc ↔ Written u doc) : SameContent t u := by
  have htu : ∀ doc, Written t doc → Written u doc := fun doc => (h doc).mp
  have hut : ∀ doc, Written u doc → Written t doc := fun doc => (h doc).mpr
  constructor
  case httpRoutes =>
    apply OrderedMap.ext_find?
    intro name
    apply Option.ext
    intro r
    exact ⟨fun hr => (htu _ (.route hr)).find?_route, fun hr => (hut _ (.route hr)).find?_route⟩
  case gateways =>
    intro name
    have hssl : (t.gateways.find? name).bind sslPolicy? = (u.gateways.find? name).bind sslPolicy? :=
      Option.ext fun _ => ⟨sslPolicy_of_written htu, sslPolicy_of_written hut⟩
    cases hg : t.gateways.find? name with
    | none =>
      cases hg' : u.gateways.find? name with
      | none => rfl
      | some g' =>
        obtain ⟨g, hfound, -⟩ := exists_gateway_of_written hut hg'
        rw [hg] at hfound
        cases hfound
    | some g =>
      obtain ⟨g', hg', hclass, hlisteners⟩ := exists_gateway_of_written htu hg
      rw [hg, hg', Option.bind_some, Option.bind_some] at hssl
      rw [hg', Option.map_some, Option.map_some, hclass, hlisteners, hssl]
  case services =>
    intro service
    apply ServiceSettings.filter_isEmpty_congr <;> apply Option.ext <;> intro _
    · exact ⟨sessionAffinity_of_written htu, sessionAffinity_of_written hut⟩
    · exact ⟨securityPolicy_of_written htu, securityPolicy_of_written hut⟩
    · exact ⟨healthCheck_of_written htu, healthCheck_of_written hut⟩

/-- **Documents tell the topology**: its routes, its Gateways, and the settings of its Services,
where it has nothing that Ingresses have no counterpart for. -/
theorem sameContent_of_documents_eq (ht : t.extras = Topology.empty.extras)
    (hu : u.extras = Topology.empty.extras)
    (h : (lower t).1.documents = (lower u).1.documents) : SameContent t u := by
  apply sameContent_of_written
  intro doc
  rw [← mem_documents_iff ht, ← mem_documents_iff hu, h]

/-- A Service with a cookie and a health check behind a Gateway, which has a place for additions or
not. -/
def pinnedWeb (extension : Option GatewayExtension)
    (others : List (ObjectName × ServiceExtension)) : Topology :=
  { Topology.empty with
    gateways := .ofList [(⟨"", "gce"⟩,
      ⟨"gke-l7-rilb", [⟨"http", none, 80, .http, none⟩], extension⟩)]
    httpRoutes := .ofList [(⟨"", "web-all-hosts"⟩, ⟨[.gateway "gce"], [],
      [⟨[.pathPrefix "/"], [.service "web" 80]⟩]⟩)]
    services := .ofList ((⟨"", "web"⟩, ⟨some ⟨some (.generatedCookie (some 50)), none,
      some ⟨some 5, none, none, none, .http2, some 8080, some "/ready"⟩⟩⟩) :: others) }

/-- Settings in which nothing is set are not written. -/
theorem sameContent_of_documents_eq_pinnedWeb :
    (pinnedWeb none []).extras = Topology.empty.extras ∧
      (pinnedWeb (some ⟨some ⟨none⟩⟩) [(⟨"", "api"⟩, ⟨some ⟨none, none, none⟩⟩)]).extras =
        Topology.empty.extras ∧
      (lower (pinnedWeb none [])).1.documents = (lower (pinnedWeb (some ⟨some ⟨none⟩⟩)
        [(⟨"", "api"⟩, ⟨some ⟨none, none, none⟩⟩)])).1.documents ∧
      SameContent (pinnedWeb none []) (pinnedWeb (some ⟨some ⟨none⟩⟩)
        [(⟨"", "api"⟩, ⟨some ⟨none, none, none⟩⟩)]) ∧
      (lower (pinnedWeb none [])).1.documents.length = 4 := by
  have hdocs : (lower (pinnedWeb none [])).1.documents = (lower (pinnedWeb (some ⟨some ⟨none⟩⟩)
      [(⟨"", "api"⟩, ⟨some ⟨none, none, none⟩⟩)])).1.documents := by decide +kernel
  exact ⟨rfl, rfl, hdocs, sameContent_of_documents_eq rfl rfl hdocs, by decide +kernel⟩

end GatewayMigration.Gce
