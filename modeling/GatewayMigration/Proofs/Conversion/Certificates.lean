import GatewayMigration.Proofs.Conversion.Listeners
import GatewayMigration.Proofs.RuleGroup.Paths

/-!
# Certificates of kept groups

A kept group has its secure listener on its Gateway, or finds one of the same name there. The only
group that can be in its way without a clash is the group for every host, when that takes its host
from its only certificate: its listener was there first and stays as it is, so the certificates of
the later group are lost, without an error.

## Main definitions

* `Conversion.Shadowed`: the group for every host has the listener, with another Secret

## Main results

* `Conversion.eq_hostless_of_hostname_eq`: the only group before that has the same host
* `certificate_iff`: a certificate is on its listener unless it is shadowed
-/

namespace GatewayMigration

/-! ### The order of the groups of a Gateway -/

namespace GroupKey

variable {k k' : GroupKey}

/-- The key for every host on the Gateway of a key. -/
def hostless (k : GroupKey) : GroupKey := ⟨k.ns, k.className, ""⟩

/-- The groups of a Gateway are ordered by host. -/
theorem compare_of_gateway_eq (hg : k'.gateway = k.gateway) :
    compare k' k = compare k'.host k.host := by
  obtain ⟨hns, hclass⟩ := ObjectName.mk.inj hg
  rw [compare_eq, hns, hclass, Std.compare_self, Std.compare_self]
  rfl

/-- The group for every host comes before the others of its Gateway. -/
theorem host_ne_empty_of_compare (hg : k'.gateway = k.gateway) (hlt : compare k' k = .lt) :
    k.host ≠ "" := by
  intro he
  rw [compare_of_gateway_eq hg, he] at hlt
  have hless : k'.host < "" := compareOfLessAndEq_eq_lt.mp hlt
  exact List.not_lt_nil _ (String.lt_iff.mp hless)

theorem host_ne_of_compare (hg : k'.gateway = k.gateway) (hlt : compare k' k = .lt) :
    k'.host ≠ k.host := by
  intro he
  rw [compare_of_gateway_eq hg, he, Std.compare_self] at hlt
  cases hlt

end GroupKey

/-! ### Secrets of groups -/

theorem RuleGroup.hostname?_of_ne_empty {g : RuleGroup} {host : String} (h : host ≠ "") :
    g.hostname? host = some host := by
  rw [hostname?, if_neg (by simpa using h)]

/-- A certificate for one host has just its Secret. -/
theorem IngressTls.secrets_singleton (host : String) (secret : Option String) :
    secrets [⟨some [host], secret⟩] "" = secret.toList := by
  cases secret <;> rfl

/-- The listener of a group with the name of a secure one has the Secrets of the group. -/
theorem RuleGroup.eq_secure_of_mem_listeners {g : RuleGroup} {host : String} {l : Listener}
    {hostname : Option String} {certificates : List String} (hl : l ∈ g.listeners host)
    (hn : l.name = (Listener.secure hostname certificates).name) :
    IngressTls.secrets g.tls host ≠ [] ∧
      l = .secure (g.hostname? host) (IngressTls.secrets g.tls host) := by
  rcases mem_listeners_iff.mp hl with rfl | h
  · cases HostName.protocol_eq_of_listenerName_eq hn
  · exact h

namespace Conversion

open Attachment

variable {options : ConversionOptions} {ingresses : List Ingress} {e : KeyedGroup} {secret : String}

/-! ### Listeners that are in the way -/

/-- The only kept group before a group that can have its host is the group for every host, with
the host from its only certificate. -/
theorem eq_hostless_of_hostname_eq {e' : KeyedGroup} (hg : e'.gateway = e.gateway)
    (hlt : compare e'.1 e.1 = .lt) (hh : e'.2.hostname? e'.1.host = e.2.hostname? e.1.host) :
    e'.1 = e.1.hostless ∧ ∃ s, e'.2.tls = [⟨some [e.1.host], s⟩] := by
  obtain ⟨hns, hclass⟩ := ObjectName.mk.inj hg
  rw [RuleGroup.hostname?_of_ne_empty (GroupKey.host_ne_empty_of_compare hg hlt)] at hh
  have hempty : e'.1.host = "" := by
    by_contra hne
    rw [RuleGroup.hostname?_of_ne_empty hne] at hh
    exact GroupKey.host_ne_of_compare hg hlt (Option.some.inj hh)
  rw [RuleGroup.hostname?, if_pos (by simpa using hempty)] at hh
  refine ⟨?_, IngressTls.singleHost?_eq_some_iff.mp hh⟩
  show (⟨e'.1.ns, e'.1.className, e'.1.host⟩ : GroupKey) = ⟨e.1.ns, e.1.className, ""⟩
  rw [hns, hclass, hempty]

/-- The group for every host is kept, takes the host of a key from its only certificate, and has
another Secret. -/
def Shadowed (options : ConversionOptions) (ingresses : List Ingress) (key : GroupKey)
    (secret : String) : Prop :=
  ∃ g s, (key.hostless, g) ∈ keptGroups options ingresses ∧
    g.tls = [⟨some [key.host], some s⟩] ∧ s ≠ secret

/-- A kept group with a certificate finds a secure listener for its host. -/
theorem exists_secure_of_mem_keptGroups (he : e ∈ keptGroups options ingresses)
    (hs : secret ∈ IngressTls.secrets e.2.tls e.1.host) :
    ∃ certificates, .secure (e.2.hostname? e.1.host) certificates ∈
        (gatewayAt (attachments options ingresses) e.gateway).listeners ∧
      (¬ Shadowed options ingresses e.1 secret → secret ∈ certificates) := by
  have hown : .secure (e.2.hostname? e.1.host) (IngressTls.secrets e.2.tls e.1.host) ∈
      e.listeners :=
    RuleGroup.mem_listeners_iff.mpr (.inr ⟨List.ne_nil_of_mem hs, rfl⟩)
  obtain ⟨l, hl, hn, hh, hl' | ⟨e', he', hlt, hg, hl'⟩⟩ := exists_listener_of_mem_keptGroups he hown
  · -- the listener is the group's own
    obtain ⟨-, rfl⟩ := RuleGroup.eq_secure_of_mem_listeners hl' hn
    exact ⟨_, hl, fun _ => hs⟩
  · -- the listener is that of the group for every host
    obtain ⟨hne, rfl⟩ := RuleGroup.eq_secure_of_mem_listeners hl' hn
    obtain ⟨hkey, s, htls⟩ := eq_hostless_of_hostname_eq hg hlt hh
    have hsecrets : IngressTls.secrets e'.2.tls e'.1.host = s.toList := by
      rw [htls, show e'.1.host = "" from congrArg GroupKey.host hkey,
        IngressTls.secrets_singleton]
    rw [show e'.2.hostname? e'.1.host = e.2.hostname? e.1.host from hh] at hl
    refine ⟨_, hl, fun hshadow => ?_⟩
    rw [hsecrets] at hne ⊢
    cases s with
    | none => exact absurd rfl hne
    | some s =>
      -- the group in the way has the one Secret of its one certificate
      by_contra hmem
      refine hshadow ⟨e'.2, s, ?_, htls, fun hss => hmem ?_⟩
      · rw [← hkey]
        exact he'
      · rw [hss]
        exact List.mem_singleton.mpr rfl

/-- The secure listener of a shadowed host has the one Secret of the group for every host. -/
theorem secure_mem_of_hostless {key : GroupKey} {g : RuleGroup} {s : String}
    (hg : (key.hostless, g) ∈ keptGroups options ingresses)
    (htls : g.tls = [⟨some [key.host], some s⟩]) :
    .secure (some key.host) [s] ∈
      (gatewayAt (attachments options ingresses) key.gateway).listeners := by
  have hhost : g.hostname? "" = some key.host :=
    IngressTls.singleHost?_eq_some_iff.mpr ⟨some s, htls⟩
  have hsecrets : IngressTls.secrets g.tls "" = [s] := by
    rw [htls, IngressTls.secrets_singleton]
    rfl
  have hown : .secure (some key.host) [s] ∈ g.listeners "" :=
    RuleGroup.mem_listeners_iff.mpr (.inr (by rw [hhost, hsecrets]; exact ⟨by simp, rfl⟩))
  obtain ⟨l, hl, hn, -, hl' | ⟨e', -, hlt, hg', -⟩⟩ := exists_listener_of_mem_keptGroups hg hown
  · obtain ⟨-, rfl⟩ := RuleGroup.eq_secure_of_mem_listeners hl' hn
    rw [show (key.hostless, g).1.host = "" from rfl, hhost, hsecrets] at hl
    exact hl
  · -- no group of the Gateway comes before the one for every host
    exact absurd rfl (GroupKey.host_ne_empty_of_compare hg' hlt)

/-- A shadowed Secret is on no secure listener for its host. -/
theorem notMem_of_shadowed {key : GroupKey} (h : Shadowed options ingresses key secret)
    {certificates : List String}
    (hl : .secure (some key.host) certificates ∈
      (gatewayAt (attachments options ingresses) key.gateway).listeners) :
    secret ∉ certificates := by
  obtain ⟨g, s, hg, htls, hne⟩ := h
  -- a Gateway has one listener of each name
  have heq := eq_of_mem_gatewayAt hl (secure_mem_of_hostless hg htls) rfl
  obtain rfl : certificates = [s] := Option.some.inj (congrArg Listener.certificates heq)
  intro hmem
  exact hne (List.mem_singleton.mp hmem).symm

/-- A kept group whose own Secret is shadowed has a host. -/
theorem host_ne_empty_of_shadowed (he : e ∈ keptGroups options ingresses)
    (hs : secret ∈ IngressTls.secrets e.2.tls e.1.host)
    (h : Shadowed options ingresses e.1 secret) : e.1.host ≠ "" := by
  obtain ⟨⟨ns, className, host⟩, g⟩ := e
  obtain ⟨g', s, hg', htls, hne⟩ := h
  rintro rfl
  -- the group would be its own shadow
  have hgg : g' = g := OrderedMap.eq_of_mem_entries
    (mem_groups_of_mem_keptGroups hg') (mem_groups_of_mem_keptGroups he)
  rw [← hgg, htls, IngressTls.secrets_singleton] at hs
  exact hne (List.mem_singleton.mp hs).symm

/-- **A certificate is on a secure listener** for the host of its group just when it is not
shadowed. -/
theorem exists_secure_iff (he : e ∈ keptGroups options ingresses)
    (hs : secret ∈ IngressTls.secrets e.2.tls e.1.host) :
    (∃ l ∈ (gatewayAt (attachments options ingresses) e.gateway).listeners,
      l.protocol = .https ∧ l.port = 443 ∧ l.hostname = e.2.hostname? e.1.host ∧
        ∃ certificates, l.certificates = some certificates ∧ secret ∈ certificates) ↔
      ¬ Shadowed options ingresses e.1 secret := by
  constructor
  · rintro ⟨l, hl, hprotocol, -, hhost, certificates, hcs, hmem⟩ hshadow
    rw [RuleGroup.hostname?_of_ne_empty (host_ne_empty_of_shadowed he hs hshadow)] at hhost
    cases standard_of_mem_gatewayAt hl with
    | plain => cases hprotocol
    | secure hostname =>
      obtain rfl : hostname = some e.1.host := hhost
      obtain rfl := Option.some.inj hcs
      exact notMem_of_shadowed hshadow hl hmem
  · intro hshadow
    obtain ⟨certificates, hl, hmem⟩ := exists_secure_of_mem_keptGroups he hs
    exact ⟨_, hl, rfl, rfl, rfl, certificates, rfl, hmem hshadow⟩

end Conversion

/-! ### Certificates of rules -/

namespace Ingress

variable {options : ConversionOptions} {ingresses : List Ingress} {i : Ingress} {rule : IngressRule}

/-- The group of a rule, unless it is reported, is kept and has the certificates of its Ingress. -/
theorem exists_kept_of_mem_rules (hi : i ∈ ingresses) (hrule : rule ∈ i.rules)
    (hkey : i.keyOf options rule ∉ (Conversion.reportedGroups options ingresses).map (·.1.1)) :
    ∃ g, (i.keyOf options rule, g) ∈ Conversion.keptGroups options ingresses ∧
      ∀ t ∈ i.tls, t ∈ g.tls := by
  obtain ⟨n, hn⟩ := List.getElem?_of_mem hrule
  have hs := mem_flatMap_sites options hi hn
  obtain ⟨g, hg⟩ := Conversion.exists_mem_groups hs
  refine ⟨g, ?_, fun t ht => Conversion.mem_tls_of_mem_groups hs hg rfl ht⟩
  rcases Conversion.mem_kept_or_reported hg with hg | ⟨message, hm⟩
  · exact hg
  · exact absurd (List.mem_map.mpr ⟨_, hm, rfl⟩) hkey

end Ingress

/-- **Certificates.** Let a certificate with a Secret cover the host of a rule whose group is not
reported. Then there is a secure listener for the host of the group on its Gateway, and the Secret
is on such a listener just when it is not shadowed. -/
theorem certificate_iff (options : ConversionOptions) (ingresses : List Ingress) (i : Ingress)
    (hi : i ∈ ingresses) (rule : IngressRule) (hrule : rule ∈ i.rules)
    (hkey : i.keyOf options rule ∉ (Conversion.reportedGroups options ingresses).map (·.1.1))
    (t : IngressTls) (ht : t ∈ i.tls) (hcovers : t.covers (rule.host.getD "") = true)
    (secret : String) (hsecret : t.secretName = some secret) :
    ∃ g, (i.keyOf options rule, g) ∈ Conversion.keptGroups options ingresses ∧
      ∃ gateway, (convert options ingresses).1.gateways.find? (i.keyOf options rule).gateway =
          some gateway ∧
        (∃ l ∈ gateway.listeners, l.protocol = .https ∧ l.port = 443 ∧
          l.hostname = g.hostname? (rule.host.getD "")) ∧
        ((∃ l ∈ gateway.listeners, l.protocol = .https ∧ l.port = 443 ∧
            l.hostname = g.hostname? (rule.host.getD "") ∧
            ∃ certificates, l.certificates = some certificates ∧ secret ∈ certificates) ↔
          ¬ Conversion.Shadowed options ingresses (i.keyOf options rule) secret) := by
  obtain ⟨g, hg, htls⟩ := Ingress.exists_kept_of_mem_rules hi hrule hkey
  have hs : secret ∈ IngressTls.secrets g.tls (rule.host.getD "") :=
    IngressTls.mem_secrets.mpr ⟨t, htls t ht, hcovers, hsecret⟩
  have hgateway := Conversion.find?_gateways_of_mem_keptGroups hg
  obtain ⟨certificates, hl, -⟩ := Conversion.exists_secure_of_mem_keptGroups hg hs
  exact ⟨g, hg, _, hgateway, ⟨_, hl, rfl, rfl, rfl⟩, Conversion.exists_secure_iff hg hs⟩

/-- An Ingress with one rule, which sends the requests for a host to the Service of its name. -/
def Ingress.single (name className : String) (host : Option String) (tls : List IngressTls) :
    Ingress where
  metadata := .ofName ⟨"default", name⟩
  spec := some {
    defaultBackend := none
    className := some className
    rules := some [⟨host, some [⟨some "/", "Prefix", ⟨some ⟨name, some ⟨none, some 80⟩⟩, none⟩⟩]⟩]
    tls := some tls }

theorem certificate_iff_single :
    let ingresses := [.single "web" "gce" (some "foo.com") [⟨some ["foo.com"], some "web-cert"⟩]]
    ∃ gateway, (convert ⟨none, none⟩ ingresses).1.gateways.find? ⟨"default", "gce"⟩ = some gateway ∧
      ∃ l ∈ gateway.listeners, l.protocol = .https ∧ l.port = 443 ∧
        ∃ certificates, l.certificates = some certificates ∧ "web-cert" ∈ certificates := by
  intro ingresses
  obtain ⟨g, hg, gateway, hgateway, -, hiff⟩ :=
    certificate_iff ⟨none, none⟩ ingresses ingresses[0] (by simp [ingresses]) ⟨some "foo.com", _⟩
      (List.mem_singleton.mpr rfl) (by decide +kernel) ⟨some ["foo.com"], some "web-cert"⟩
      (List.mem_singleton.mpr rfl) (by decide) "web-cert" rfl
  have hshadow : ¬ Conversion.Shadowed ⟨none, none⟩ ingresses ⟨"default", "gce", "foo.com"⟩
      "web-cert" := by
    rintro ⟨g', s, hg', -⟩
    have hkeys : ∀ e ∈ Conversion.keptGroups ⟨none, none⟩ ingresses, e.1.host ≠ "" := by
      decide +kernel
    exact hkeys _ hg' rfl
  obtain ⟨l, hl, hprotocol, hport, -, hcs⟩ := hiff.mpr hshadow
  exact ⟨gateway, hgateway, l, hl, hprotocol, hport, hcs⟩

/-- The Ingress `shop` has a rule for every host and a certificate for `foo.com`, which the Ingress
`web` has a rule and a certificate of its own for. -/
def sharedHost : List Ingress :=
  [.single "shop" "gce" none [⟨some ["foo.com"], some "shop-cert"⟩],
    .single "web" "gce" (some "foo.com") [⟨some ["foo.com"], some "web-cert"⟩]]

/-- A Secret can be lost, and nothing is reported. -/
theorem not_forall_certificates :
    (convert ⟨none, none⟩ sharedHost).2 = [] ∧
    ¬ ∀ options ingresses, ∀ i ∈ ingresses, ∀ rule ∈ i.rules,
      i.keyOf options rule ∉ (Conversion.reportedGroups options ingresses).map (·.1.1) →
      ∀ t ∈ i.tls, t.covers (rule.host.getD "") = true → ∀ secret, t.secretName = some secret →
        ∃ gateway, (convert options ingresses).1.gateways.find? (i.keyOf options rule).gateway =
            some gateway ∧
          ∃ l ∈ gateway.listeners, l.protocol = .https ∧ l.port = 443 ∧
            ∃ certificates, l.certificates = some certificates ∧ secret ∈ certificates := by
  refine ⟨by decide +kernel, fun h => ?_⟩
  obtain ⟨gateway, hgateway, l, hl, -, -, certificates, hcs, hmem⟩ :=
    h ⟨none, none⟩ sharedHost sharedHost[1] (by simp [sharedHost]) ⟨some "foo.com", _⟩
      (List.mem_singleton.mpr rfl) (by decide +kernel) ⟨some ["foo.com"], some "web-cert"⟩
      (List.mem_singleton.mpr rfl) (by decide) "web-cert" rfl
  have hlisteners : (convert ⟨none, none⟩ sharedHost).1.gateways.find? ⟨"default", "gce"⟩ =
      some ⟨"gce", [.plain (some "foo.com"), .secure (some "foo.com") ["shop-cert"]], none⟩ := by
    decide +kernel
  obtain rfl := Option.some.inj (hgateway.symm.trans hlisteners)
  rcases List.mem_pair.mp hl with rfl | rfl
  · cases hcs
  · obtain rfl := Option.some.inj hcs
    simp at hmem

end GatewayMigration
