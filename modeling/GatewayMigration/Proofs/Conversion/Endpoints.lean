import GatewayMigration.Proofs.Conversion.Certificates
import GatewayMigration.Proofs.Conversion.References

/-!
# What the Gateways of a conversion listen on

The listeners of a Gateway come from many groups and from default backends, and only their names
are compared when they are added. A name is made from the host and the protocol, and the protocol
says the port, so listeners with different names are told apart by port and host as well. A group
that is kept finds its plain listener on its Gateway, and with it every secure listener of the
Gateway has a plain one beside it.

## Main definitions

* `Conversion.Certified`: an Ingress of the namespace and class of a Gateway has the Secret
* `Listener.Shaped`: a plain listener, or a secure one with certificates
* `Gateway.Orderly`: the listeners of a Gateway do not get in the way of each other

## Main results

* `Conversion.certified_of_mem_groups`: the certificates of a group are those of its Ingresses
* `Conversion.exists_keptGroup_of_secure_mem`: a secure listener is that of a kept group
* `orderly_convert`: the Gateways of a conversion are orderly
-/

namespace GatewayMigration

/-! ### Shapes -/

/-- A plain listener, or a secure one whose certificates are each there once and pass a test. -/
inductive Listener.Shaped (certified : String → Prop) (l : Listener) : Prop
  | plain (hprotocol : l.protocol = .http) (hport : l.port = 80) (hplain : l.certificates = none)
  | secure (hprotocol : l.protocol = .https) (hport : l.port = 443) (certificates : List String)
      (hsecure : l.certificates = some certificates) (hne : certificates ≠ [])
      (hd : certificates.Nodup) (hcertified : ∀ secret ∈ certificates, certified secret)

/-- The listeners of a Gateway do not get in the way of each other, and are made by one rule. -/
structure Gateway.Orderly (certified : String → Prop) (g : Gateway) : Prop where
  /-- No two listeners share a name. -/
  names : (g.listeners.map (·.name)).Nodup
  /-- No two listeners share a port and a host. -/
  addresses : (g.listeners.map fun l => (l.port, l.hostname)).Nodup
  /-- A listener is named after its host and its protocol. -/
  named : ∀ l ∈ g.listeners, l.name = HostName.listenerName l.hostname l.protocol
  /-- A listener is a plain one or a secure one. -/
  shaped : ∀ l ∈ g.listeners, l.Shaped certified
  /-- A secure listener has a plain one for its host beside it. -/
  paired : ∀ l ∈ g.listeners, l.protocol = .https →
    ∃ l' ∈ g.listeners, l'.protocol = .http ∧ l'.hostname = l.hostname

namespace Listener.Standard

variable {l l' : Listener}

theorem name_eq (h : Standard l) : l.name = HostName.listenerName l.hostname l.protocol := by
  cases h <;> rfl

/-- The port of a standard listener says its protocol. -/
theorem protocol_eq_of_port_eq (h : Standard l) (h' : Standard l') (hport : l.port = l'.port) :
    l.protocol = l'.protocol := by
  cases h with
  | plain =>
    cases h' with
    | plain => rfl
    | secure => exact absurd hport (show (80 : UInt16) ≠ 443 by decide)
  | secure =>
    cases h' with
    | plain => exact absurd hport (show (443 : UInt16) ≠ 80 by decide)
    | secure => rfl

/-- Standard listeners with one port and one host have one name. -/
theorem name_eq_of_address_eq (h : Standard l) (h' : Standard l')
    (haddress : (l.port, l.hostname) = (l'.port, l'.hostname)) : l.name = l'.name := by
  have hport : l.port = l'.port := congrArg Prod.fst haddress
  have hhost : l.hostname = l'.hostname := congrArg Prod.snd haddress
  rw [h.name_eq, h'.name_eq, hhost, h.protocol_eq_of_port_eq h' hport]

end Listener.Standard

/-- Where all listeners are standard, different names are different ports or hosts. -/
theorem Gateway.nodup_addresses {g : Gateway} (hnames : (g.listeners.map (·.name)).Nodup)
    (hstandard : ∀ l ∈ g.listeners, l.Standard) :
    (g.listeners.map fun l => (l.port, l.hostname)).Nodup := by
  have hpairs : g.listeners.Pairwise fun l l' => l.name ≠ l'.name := List.pairwise_map.mp hnames
  apply List.pairwise_map.mpr
  apply hpairs.imp_of_mem
  intro l l' hl hl' hne haddress
  exact hne ((hstandard l hl).name_eq_of_address_eq (hstandard l' hl') haddress)

namespace Conversion

open Attachment

variable {options : ConversionOptions} {ingresses : List Ingress} {name : ObjectName}
  {secret : String}

/-! ### Where listeners come from -/

/-- An Ingress of the namespace and class of a Gateway has a certificate in the Secret. -/
def Certified (options : ConversionOptions) (ingresses : List Ingress) (name : ObjectName)
    (secret : String) : Prop :=
  ∃ i ∈ ingresses, i.objectName.ns = name.ns ∧ i.conversionClass options = name.name ∧
    ∃ t ∈ i.tls, t.secretName = some secret

/-- **The certificates of a group** are those of its Ingresses, which attach to its Gateway. -/
theorem certified_of_mem_groups {e : KeyedGroup} (he : e ∈ groups options ingresses)
    (hsecret : secret ∈ IngressTls.secrets e.2.tls e.1.host) :
    Certified options ingresses e.gateway secret := by
  obtain ⟨t, ht, -, hname⟩ := IngressTls.mem_secrets.mp hsecret
  -- the certificate was brought in by one of the rules of the group
  rw [RuleGroup.tls_of_ofSites (mem_groups_iff.mp he)] at ht
  obtain ⟨s, hs, hts⟩ := List.mem_flatMap.mp ht
  obtain ⟨hs, hkey⟩ := List.mem_filter.mp hs
  obtain ⟨i, hi, hsi⟩ := List.mem_flatMap.mp hs
  obtain ⟨n, _, rfl⟩ := List.mem_mapIdx.mp hsi
  have hkey : GroupKey.mk i.objectName.ns (i.conversionClass options) _ = e.1 :=
    of_decide_eq_true hkey
  refine ⟨i, hi, ?_, ?_, t, hts, hname⟩
  · exact congrArg GroupKey.ns hkey
  · exact congrArg GroupKey.className hkey

/-- **A secure listener** of a Gateway is that of a kept group; a default backend has none. -/
theorem exists_keptGroup_of_secure_mem {hostname : Option String} {certificates : List String}
    (hl : Listener.secure hostname certificates ∈
      (gatewayAt (attachments options ingresses) name).listeners) :
    ∃ e ∈ keptGroups options ingresses, e.gateway = name ∧ hostname = e.2.hostname? e.1.host ∧
      certificates = IngressTls.secrets e.2.tls e.1.host := by
  obtain ⟨a, ha, hgateway, hla⟩ := mem_listenersAt.mp (Gateway.mem_of_mem_addListeners hl)
  rcases List.mem_append.mp ha with ha | ha
  · obtain ⟨e, he, rfl⟩ := List.mem_map.mp ha
    obtain ⟨-, hsecure⟩ := RuleGroup.eq_secure_of_mem_listeners hla rfl
    have hcertificates : some certificates = some (IngressTls.secrets e.2.tls e.1.host) :=
      congrArg Listener.certificates hsecure
    exact ⟨e, he, hgateway, congrArg Listener.hostname hsecure, Option.some.inj hcertificates⟩
  · -- the listener of a default backend is plain
    obtain ⟨b, -, rfl⟩ := List.mem_map.mp ha
    have hplain : Listener.secure hostname certificates = .plain none := List.mem_singleton.mp hla
    cases congrArg Listener.protocol hplain

/-! ### Orderly Gateways -/

theorem orderly_gatewayAt (options : ConversionOptions) (ingresses : List Ingress)
    (name : ObjectName) :
    (gatewayAt (attachments options ingresses) name).Orderly
      (Certified options ingresses name) := by
  have hnames := nodup_names_gatewayAt (attachments options ingresses) name
  constructor
  case names => exact hnames
  case addresses => exact Gateway.nodup_addresses hnames fun l => standard_of_mem_gatewayAt
  case named => exact fun l hl => (standard_of_mem_gatewayAt hl).name_eq
  case shaped =>
    intro l hl
    cases standard_of_mem_gatewayAt hl with
    | plain hostname => exact .plain rfl rfl rfl
    | secure hostname hne hd =>
      refine .secure rfl rfl _ rfl hne hd ?_
      intro secret hsecret
      obtain ⟨e, he, hgateway, -, rfl⟩ := exists_keptGroup_of_secure_mem hl
      rw [← hgateway]
      exact certified_of_mem_groups (mem_groups_of_mem_keptGroups he) hsecret
  case paired =>
    intro l hl hprotocol
    cases standard_of_mem_gatewayAt hl with
    | plain => cases hprotocol
    | secure hostname =>
      -- the group of the secure listener has its plain listener on the same Gateway
      obtain ⟨e, he, rfl, rfl, -⟩ := exists_keptGroup_of_secure_mem hl
      exact ⟨_, plain_mem_of_mem_keptGroups he, rfl, rfl⟩

end Conversion

/-- **The Gateways of a conversion are orderly**, whatever the Ingresses, the default class and the
match for paths left to the provider. -/
theorem orderly_convert (options : ConversionOptions) (ingresses : List Ingress)
    (name : ObjectName) (g : Gateway)
    (h : (convert options ingresses).1.gateways.find? name = some g) :
    g.Orderly (Conversion.Certified options ingresses name) := by
  rw [Conversion.find?_gateways_convert] at h
  split at h
  case isTrue =>
    rw [← Option.some.inj h]
    exact Conversion.orderly_gatewayAt options ingresses name
  case isFalse => cases h

/-- The hosts `foo.com` and `*.foo.com` on one Gateway, the first one with a certificate. -/
def apexAndWildcard : List Ingress :=
  [.single "web" "gce" (some "foo.com") [⟨some ["foo.com"], some "web-cert"⟩],
    .single "shop" "gce" (some "*.foo.com") []]

theorem orderly_convert_apexAndWildcard :
    ∃ g, (convert ⟨none, none⟩ apexAndWildcard).1.gateways.find? ⟨"default", "gce"⟩ = some g ∧
      g.listeners = [.plain (some "*.foo.com"), .plain (some "foo.com"),
        .secure (some "foo.com") ["web-cert"]] ∧
      g.Orderly (Conversion.Certified ⟨none, none⟩ apexAndWildcard ⟨"default", "gce"⟩) := by
  let g : Gateway :=
    ⟨"gce", [.plain (some "*.foo.com"), .plain (some "foo.com"),
      .secure (some "foo.com") ["web-cert"]], none⟩
  have hg : (convert ⟨none, none⟩ apexAndWildcard).1.gateways.find? ⟨"default", "gce"⟩ =
      some g := by decide +kernel
  exact ⟨g, hg, rfl, orderly_convert _ _ _ g hg⟩

end GatewayMigration
