import GatewayMigration.Proofs.GatewayApi
import GatewayMigration.Proofs.Gce.Isolation

/-!
# Policies and what they are attached to

Settings call for policies: those of a Service for one policy of its backends and one of its health,
those of a Gateway for one policy. A topology is written with just the policies that it calls for,
each named after the object that it is attached to, in the order of these objects. No two of them
have one kind and one name, and so no document of a conversion takes the place of another one.

## Main definitions

* `Gce.called`: the policies that a topology calls for, by kind and object
* `Gce.Calls`: a policy that a topology calls for, with what it says
* `Gce.Attaches`: a list of policies is that of a topology
* `Manifest.identity`: what tells a document from others
* `Gce.ToldApart`: documents are told apart, and policies of Gateways have a Gateway

## Main results

* `mem_policies_iff`: the policies of a topology are those that it calls for
* `nodup_called`: nothing is called for twice
* `attaches_and_toldApart`: policies are attached as they are called for, and documents are told
  apart
-/

namespace GatewayMigration

namespace Gce

/-! ### Calling for policies -/

/-- The kinds of policies that the settings of a Service call for. -/
def ServiceSettings.kinds (s : ServiceSettings) : List PolicyKind :=
  (if s.sessionAffinity.isSome ∨ s.securityPolicy.isSome then [.backend] else [])
    ++ if s.healthCheck.isSome then [.health] else []

/-- The SSL policy that is set for a Gateway. -/
def sslPolicy? (g : Gateway) : Option String := g.gce?.bind (·.sslPolicy)

/-- The kinds of policies that what is added to a Service calls for. -/
def serviceKinds (s : ServiceExtension) : List PolicyKind :=
  (s.gce.map ServiceSettings.kinds).getD []

/-- The kinds of policies that a Gateway calls for. -/
def gatewayKinds (g : Gateway) : List PolicyKind :=
  if (sslPolicy? g).isSome then [.gateway] else []

/-- The policies that a topology calls for, by kind and object: those of the Services in the order
of their names, then those of the Gateways. -/
def called (t : Topology) : List (PolicyKind × ObjectName) :=
  (t.services.entries.flatMap fun e => (serviceKinds e.2).map (·, e.1))
    ++ t.gateways.entries.flatMap fun e => (gatewayKinds e.2).map (·, e.1)

/-- A policy that a topology calls for. It says what is set, and its metadata and its target name
the object. -/
inductive Calls (t : Topology) : Policy → Prop
  | backend {service : ObjectName} {s : ServiceSettings}
      (found : t.services.find? service = some ⟨some s⟩)
      (set : s.sessionAffinity.isSome ∨ s.securityPolicy.isSome) :
      Calls t (.backend ⟨"networking.gke.io/v1", "GCPBackendPolicy", .ofName service,
        ⟨⟨s.sessionAffinity.map fun a => ⟨a.type, a.ttl⟩, s.securityPolicy⟩,
          ⟨"", "Service", service.name⟩⟩⟩)
  | health {service : ObjectName} {s : ServiceSettings} {h : HealthCheck}
      (found : t.services.find? service = some ⟨some s⟩) (set : s.healthCheck = some h) :
      Calls t (.health ⟨"networking.gke.io/v1", "HealthCheckPolicy", .ofName service,
        ⟨⟨h.checkInterval, h.timeout, h.healthyThreshold, h.unhealthyThreshold, .ofHealthCheck h⟩,
          ⟨"", "Service", service.name⟩⟩⟩)
  | gateway {gateway : ObjectName} {g : Gateway} {policy : String}
      (found : t.gateways.find? gateway = some g) (set : sslPolicy? g = some policy) :
      Calls t (.gateway ⟨"networking.gke.io/v1", "GCPGatewayPolicy", .ofName gateway,
        ⟨⟨some policy⟩, ⟨"gateway.networking.k8s.io", "Gateway", gateway.name⟩⟩⟩)

theorem ServiceSettings.backendPolicy?_eq (s : ServiceSettings) (service : ObjectName) :
    s.backendPolicy? service =
      if s.sessionAffinity.isSome ∨ s.securityPolicy.isSome then
        some (.backend ⟨"networking.gke.io/v1", "GCPBackendPolicy", .ofName service,
          ⟨⟨s.sessionAffinity.map fun a => ⟨a.type, a.ttl⟩, s.securityPolicy⟩,
            ⟨"", "Service", service.name⟩⟩⟩)
      else none := by
  unfold backendPolicy?
  cases s.sessionAffinity <;> cases s.securityPolicy <;> rfl

/-- **The policies of a topology are those that it calls for.** -/
theorem mem_policies_iff {t : Topology} {p : Policy} : p ∈ policies t ↔ Calls t p := by
  constructor
  · intro hp
    rcases List.mem_append.mp hp with hp | hp
    · -- a policy of a Service
      obtain ⟨⟨service, ⟨settings⟩⟩, he, hp⟩ := List.mem_flatMap.mp hp
      cases settings with
      | none => cases hp
      | some s =>
        have hfound := OrderedMap.find?_eq_some_iff.mpr he
        rcases List.mem_append.mp hp with hp | hp
        · rw [Option.mem_toList, ServiceSettings.backendPolicy?_eq] at hp
          split at hp
          case isTrue hset =>
            cases hp
            exact .backend hfound hset
          case isFalse => cases hp
        · obtain ⟨h, hset, rfl⟩ := Option.map_eq_some_iff.mp (Option.mem_toList.mp hp)
          exact .health hfound hset
    · -- a policy of a Gateway
      obtain ⟨⟨gateway, g⟩, he, hp⟩ := List.mem_flatMap.mp hp
      have hfound := OrderedMap.find?_eq_some_iff.mpr he
      cases hgce : g.gce? with
      | none => simp [hgce] at hp
      | some settings =>
        rw [hgce] at hp
        obtain ⟨policy, hset, rfl⟩ := Option.map_eq_some_iff.mp (Option.mem_toList.mp hp)
        exact .gateway hfound (by rw [sslPolicy?, hgce, Option.bind_some, hset])
  · intro hp
    cases hp with
    | @backend service s found set =>
      refine List.mem_append_left _ (List.mem_flatMap.mpr
        ⟨_, OrderedMap.find?_eq_some_iff.mp found, List.mem_append_left _ ?_⟩)
      rw [Option.mem_toList, ServiceSettings.backendPolicy?_eq, if_pos set]
    | @health service s h found set =>
      refine List.mem_append_left _ (List.mem_flatMap.mpr
        ⟨_, OrderedMap.find?_eq_some_iff.mp found, List.mem_append_right _ ?_⟩)
      rw [Option.mem_toList, ServiceSettings.healthPolicy?, set]
      rfl
    | @gateway gateway g policy found set =>
      obtain ⟨settings, hgce, hset⟩ := Option.bind_eq_some_iff.mp set
      refine List.mem_append_right _ (List.mem_flatMap.mpr
        ⟨_, OrderedMap.find?_eq_some_iff.mp found, ?_⟩)
      rw [hgce, Option.map_some, Option.getD_some, GatewaySettings.policies, hset]
      exact List.mem_singleton.mpr rfl

/-! ### Kinds and objects -/

theorem kinds_servicePolicies (e : ObjectName × ServiceExtension) :
    ((e.2.gce.map (·.policies e.1)).getD []).map (fun p => (p.kind, p.objectName)) =
      (serviceKinds e.2).map (·, e.1) := by
  obtain ⟨service, ⟨_ | s⟩⟩ := e
  case none => rfl
  case some =>
    simp only [Option.map_some, Option.getD_some, ServiceSettings.policies, List.map_append,
      serviceKinds, ServiceSettings.kinds]
    congr 1
    · rw [ServiceSettings.backendPolicy?_eq]
      split
      · simp [Policy.kind, Policy.objectName, Policy.metadata]
      · rfl
    · rw [ServiceSettings.healthPolicy?]
      cases s.healthCheck with
      | none => rfl
      | some h => simp [Policy.attached, Policy.kind, Policy.objectName, Policy.metadata]

theorem kinds_gatewayPolicies (e : ObjectName × Gateway) :
    ((e.2.gce?.map (·.policies e.1)).getD []).map (fun p => (p.kind, p.objectName)) =
      (gatewayKinds e.2).map (·, e.1) := by
  unfold gatewayKinds sslPolicy?
  rcases e.2.gce? with _ | ⟨_ | policy⟩
  · rfl
  · rfl
  · simp [GatewaySettings.policies, Policy.attached, Policy.kind, Policy.objectName,
      Policy.metadata]

/-- **Policies stand in the order in which they are called for.** -/
theorem map_kind_policies (t : Topology) :
    (policies t).map (fun p => (p.kind, p.objectName)) = called t := by
  unfold policies called
  rw [List.map_append, List.map_flatMap, List.map_flatMap]
  simp only [kinds_servicePolicies, kinds_gatewayPolicies]

/-- What entries of a map call for is not called for twice, if no entry calls for one kind twice. -/
theorem nodup_flatMap_kinds {α : Type} (m : OrderedMap ObjectName α) {kinds : α → List PolicyKind}
    (h : ∀ x, (kinds x).Nodup) : (m.entries.flatMap fun e => (kinds e.2).map (·, e.1)).Nodup := by
  rw [List.nodup_flatMap]
  constructor
  · intro e _
    apply (h e.2).map
    intro a b hab
    exact congrArg Prod.fst hab
  · -- two entries have two names
    refine (List.pairwise_map.mp (OrderedMap.nodup_keys m)).imp ?_
    intro e e' hne
    apply List.disjoint_left.mpr
    intro c hc hc'
    obtain ⟨_, -, rfl⟩ := List.mem_map.mp hc
    obtain ⟨_, -, heq⟩ := List.mem_map.mp hc'
    exact hne (congrArg Prod.snd heq).symm

/-- **Nothing is called for twice.** -/
theorem nodup_called (t : Topology) : (called t).Nodup := by
  have hservices : ∀ s, (serviceKinds s).Nodup := by
    rintro ⟨_ | s⟩
    · exact List.nodup_nil
    · simp only [serviceKinds, Option.map_some, Option.getD_some, ServiceSettings.kinds]
      split <;> split <;> decide
  have hgateways : ∀ g, (gatewayKinds g).Nodup := by
    intro g
    unfold gatewayKinds
    split <;> decide
  refine List.nodup_append.mpr
    ⟨nodup_flatMap_kinds _ hservices, nodup_flatMap_kinds _ hgateways, ?_⟩
  -- a policy of a Service is of another kind than one of a Gateway
  intro c hc c' hc' heq
  obtain ⟨⟨_, s⟩, -, hc⟩ := List.mem_flatMap.mp hc
  obtain ⟨⟨_, g⟩, -, hc'⟩ := List.mem_flatMap.mp hc'
  obtain ⟨kind, hkind, rfl⟩ := List.mem_map.mp hc
  obtain ⟨kind', hkind', rfl⟩ := List.mem_map.mp hc'
  obtain ⟨rfl, -⟩ := Prod.mk.inj heq
  rcases s with ⟨_ | s⟩
  · cases hkind
  · simp only [serviceKinds, Option.map_some, Option.getD_some, ServiceSettings.kinds,
      gatewayKinds] at hkind hkind'
    split at hkind' <;> simp_all

/-- A list of policies is that of a topology. -/
structure Attaches (t : Topology) (l : List Policy) : Prop where
  /-- The policies are those that are called for, in the order of the objects. -/
  kinds : l.map (fun p => (p.kind, p.objectName)) = called t
  /-- Each says what is set for its object, and names it in its metadata and its target. -/
  calls : ∀ p, p ∈ l ↔ Calls t p
  /-- No two of them have one kind and one name. -/
  nodup : (l.map fun p => (p.kind, p.objectName)).Nodup

theorem attaches_policies (t : Topology) : Attaches t (policies t) where
  kinds := map_kind_policies t
  calls _ := mem_policies_iff
  nodup := by
    rw [map_kind_policies]
    exact nodup_called t

end Gce

/-! ### Identities of documents -/

namespace Manifest

open Json

/-- What tells a document from others: the version of its API, its kind, its namespace and its
name. -/
structure Identity where
  apiVersion : Option String
  kind : Option String
  ns : Option String
  name : Option String
  deriving DecidableEq

/-- The identity of a document, by its own words. -/
def identity (doc : Json) : Identity where
  apiVersion := (doc.field? "apiVersion").bind string?
  kind := (doc.field? "kind").bind string?
  ns := nsOf? doc
  name := (metadataField? doc "name").bind string?

/-- The identity of an object in its document; an empty namespace is left out. -/
def Identity.ofName (apiVersion kind : String) (n : ObjectName) : Identity :=
  ⟨some apiVersion, some kind, (Metadata.ofName n).ns, some n.name⟩

theorem Identity.ofName_injective {apiVersion apiVersion' kind kind' : String} {n n' : ObjectName}
    (h : ofName apiVersion kind n = ofName apiVersion' kind' n') :
    apiVersion = apiVersion' ∧ kind = kind' ∧ n = n' := by
  simp only [ofName, Identity.mk.injEq, Option.some.injEq] at h
  obtain ⟨hversion, hkind, hns, hname⟩ := h
  refine ⟨hversion, hkind, Metadata.ofName_injective ?_⟩
  rw [Metadata.ofName] at hns
  simp only [Metadata.ofName, Metadata.mk.injEq, hname, and_true, true_and]
  exact hns

/-- A document of an object tells the identity of the object. -/
theorem identity_eq {apiVersion kind : String} {n : ObjectName} {doc : Json}
    (hversion : doc.field? "apiVersion" = some (.str apiVersion))
    (hkind : doc.field? "kind" = some (.str kind))
    (hmetadata : doc.field? "metadata" = some (Metadata.ofName n).toJson) :
    identity doc = .ofName apiVersion kind n := by
  have hname : (Metadata.ofName n).toJson.field? "name" = some (.str n.name) :=
    field?_of_mem (by simp [Metadata.ofName]) (by simp [Metadata.ofName])
  have hfield : metadataField? doc "name" = some (.str n.name) := by
    rw [metadataField?, hmetadata, Option.bind_some, hname]
  rw [identity, hversion, hkind, hfield, nsOf?_of_metadata hmetadata]
  rfl

theorem identity_gatewayApiDocument (kind : String) (n : ObjectName) (spec : Json) :
    identity (gatewayApiDocument kind n spec) = .ofName "gateway.networking.k8s.io/v1" kind n :=
  identity_eq (field?_of_mem (by simp) (by simp)) (field?_of_mem (by simp) (by simp))
    (field?_of_mem (by simp) (by simp))

theorem identity_customObject {σ : Type} {o : CustomObject σ} {n : ObjectName}
    (h : o.metadata = .ofName n) (spec : σ → Json) :
    identity (o.toJson spec) = .ofName o.apiVersion o.kind n :=
  identity_eq (field?_of_mem (by simp) (by simp)) (field?_of_mem (by simp) (by simp))
    (field?_of_mem (by simp) (by simp [h]))

/-- The name in the reference of a policy to its target. -/
def targetName? (doc : Json) : Option String :=
  (((doc.field? "spec").bind (·.field? "targetRef")).bind (·.field? "name")).bind string?

end Manifest

namespace Gce

variable {t : Topology}

/-- A policy that is called for has the identity of its kind and its object. -/
theorem Calls.identity {p : Policy} (h : Calls t p) :
    Manifest.identity p.toJson = .ofName "networking.gke.io/v1" p.kind.text p.objectName := by
  cases h <;> simp only [Policy.objectName, Policy.metadata, Metadata.objectName_ofName] <;>
    exact Manifest.identity_customObject rfl _

/-- The API version, the kind and the name of each document of a topology. -/
def identities (t : Topology) : List Manifest.Identity :=
  t.gateways.keys.map (.ofName "gateway.networking.k8s.io/v1" "Gateway")
    ++ t.httpRoutes.keys.map (.ofName "gateway.networking.k8s.io/v1" "HTTPRoute")
    ++ (called t).map fun c => .ofName "networking.gke.io/v1" c.1.text c.2

theorem map_identity_documents (ht : t.extras = Topology.empty.extras) :
    (lower t).1.documents.map Manifest.identity = identities t := by
  have hpolicies : ((policies t).map Policy.toJson).map Manifest.identity =
      (called t).map fun c => .ofName "networking.gke.io/v1" c.1.text c.2 := by
    rw [← map_kind_policies, List.map_map, List.map_map]
    apply List.map_congr_left
    intro p hp
    exact (mem_policies_iff.mp hp).identity
  rw [documents_lower ht, List.map_append, List.map_append, hpolicies, identities, List.map_map,
    List.map_map]
  congr 2
  · rw [OrderedMap.keys, List.map_map]
    exact List.map_congr_left fun e _ => Manifest.identity_gatewayApiDocument _ _ _
  · rw [OrderedMap.keys, List.map_map]
    exact List.map_congr_left fun e _ => Manifest.identity_gatewayApiDocument _ _ _

theorem PolicyKind.text_injective : Function.Injective PolicyKind.text := by
  intro a b h
  cases a <;> cases b <;> simp_all [text]

/-- **No two documents of a topology have one identity.** -/
theorem nodup_identities (t : Topology) : (identities t).Nodup := by
  have hkeys : ∀ {α : Type} (m : OrderedMap ObjectName α) (kind : String),
      (m.keys.map (Manifest.Identity.ofName "gateway.networking.k8s.io/v1" kind)).Nodup := by
    intro α m kind
    apply (OrderedMap.nodup_keys m).map
    intro n n' h
    exact (Manifest.Identity.ofName_injective h).2.2
  have hcalled : ((called t).map fun c =>
      Manifest.Identity.ofName "networking.gke.io/v1" c.1.text c.2).Nodup := by
    apply (nodup_called t).map
    intro c c' h
    obtain ⟨-, hkind, hname⟩ := Manifest.Identity.ofName_injective h
    exact Prod.ext (PolicyKind.text_injective hkind) hname
  refine List.nodup_append.mpr ⟨List.nodup_append.mpr ⟨hkeys _ _, hkeys _ _, ?_⟩, hcalled, ?_⟩
  · -- a Gateway is not a route
    intro i hi i' hi' heq
    obtain ⟨_, -, rfl⟩ := List.mem_map.mp hi
    obtain ⟨_, -, rfl⟩ := List.mem_map.mp hi'
    exact absurd (Manifest.Identity.ofName_injective heq).2.1 (by decide)
  · -- neither of them is a policy
    intro i hi i' hi' heq
    obtain ⟨_, -, rfl⟩ := List.mem_map.mp hi'
    rcases List.mem_append.mp hi with hi | hi <;> obtain ⟨_, -, rfl⟩ := List.mem_map.mp hi <;>
      exact absurd (Manifest.Identity.ofName_injective heq).1 (by decide)

/-- Documents are told apart, and a policy of a Gateway has its Gateway among them. -/
structure ToldApart (docs : List Json) : Prop where
  nodup : (docs.map Manifest.identity).Nodup
  /-- The Gateway has the name that the policy refers to, and is in the namespace of the policy. -/
  gateway : ∀ doc ∈ docs, (Manifest.identity doc).kind = some "GCPGatewayPolicy" →
    ∃ gateway ∈ docs, Manifest.identity gateway =
      ⟨some "gateway.networking.k8s.io/v1", some "Gateway", (Manifest.identity doc).ns,
        Manifest.targetName? doc⟩

theorem targetName?_gatewayPolicy (o : CustomObject (PolicySpec GatewayRules)) :
    Manifest.targetName? (Policy.gateway o).toJson = some o.spec.target.name := by
  have hspec : (Policy.gateway o).toJson.field? "spec" =
      some (o.spec.toJson GatewayRules.toJson) := Json.field?_of_mem (by simp) (by simp)
  have htarget : (o.spec.toJson GatewayRules.toJson).field? "targetRef" =
      some o.spec.target.toJson := Json.field?_of_mem (by simp) (by simp)
  have hname : o.spec.target.toJson.field? "name" = some (.str o.spec.target.name) :=
    Json.field?_of_mem (by simp) (by simp)
  rw [Manifest.targetName?, hspec, Option.bind_some, htarget, Option.bind_some, hname]
  rfl

/-- The documents of a topology are told apart, where it has nothing that Ingresses have no
counterpart for. -/
theorem toldApart_documents (ht : t.extras = Topology.empty.extras) :
    ToldApart (lower t).1.documents where
  nodup := by
    rw [map_identity_documents ht]
    exact nodup_identities t
  gateway := by
    intro doc hdoc hkind
    rw [documents_lower ht] at hdoc ⊢
    rcases List.mem_append.mp hdoc with hdoc | hdoc
    · -- the other documents are no policies
      rcases List.mem_append.mp hdoc with hdoc | hdoc <;> obtain ⟨_, -, rfl⟩ := List.mem_map.mp hdoc
      · rw [Gateway.toDocument, Manifest.identity_gatewayApiDocument] at hkind
        exact absurd (Option.some.inj hkind) (by decide)
      · rw [HttpRoute.toDocument, Manifest.identity_gatewayApiDocument] at hkind
        exact absurd (Option.some.inj hkind) (by decide)
    · obtain ⟨p, hp, rfl⟩ := List.mem_map.mp hdoc
      have hcalls := mem_policies_iff.mp hp
      rw [hcalls.identity] at hkind ⊢
      cases hcalls with
      | backend => exact absurd (Option.some.inj hkind : "GCPBackendPolicy" = _) (by decide)
      | health => exact absurd (Option.some.inj hkind : "HealthCheckPolicy" = _) (by decide)
      | @gateway name g policy found set =>
        -- the policy is called for by the Gateway, which is written, too
        refine ⟨g.toDocument name, List.mem_append_left _ (List.mem_append_left _
          (List.mem_map.mpr ⟨_, OrderedMap.find?_eq_some_iff.mp found, rfl⟩)), ?_⟩
        rw [Gateway.toDocument, Manifest.identity_gatewayApiDocument, targetName?_gatewayPolicy]
        simp [Manifest.Identity.ofName, Policy.objectName, Policy.metadata]

/-- **Policies are attached as they are called for, and documents are told apart.** The first holds
of every topology, the second of the conversion of all that can be read. -/
theorem attaches_and_toldApart :
    (∀ t, Attaches t (lower t).1.policies) ∧
      ∀ inventory : Inventory, ToldApart (provider.output inventory).resources.documents := by
  constructor
  · exact attaches_policies
  · intro inventory
    rw [output_eq]
    exact toldApart_documents (extras_gceConvert inventory)

end Gce

end GatewayMigration
