import GatewayMigration.Proofs.Conversion.Conflict

/-!
# The listeners of a conversion

Every listener of a conversion is a plain one or a secure one, of some host; its name says which.
A kept group finds a listener for each of its own on its Gateway: the plain one is there as it is,
the secure one with the certificates of the first group that asked for it.

## Main definitions

* `Listener.Standard`: a plain listener, or a secure one with certificates

## Main results

* `RuleGroup.mem_listeners_iff`: the listeners of a group
* `IngressTls.mem_secrets`, `IngressTls.nodup_secrets`: the certificates of a secure listener
* `Conversion.standard_of_mem_gatewayAt`: every listener is standard
* `Conversion.exists_listener_of_mem_keptGroups`: a kept group finds its listeners on its Gateway
-/

namespace GatewayMigration

/-! ### Certificates -/

namespace IngressTls

/-- The Secrets of a secure listener are those of the certificates that cover the host. -/
theorem mem_secrets {tls : List IngressTls} {host s : String} :
    s ∈ secrets tls host ↔ ∃ t ∈ tls, t.covers host = true ∧ t.secretName = some s := by
  unfold secrets
  rw [mem_foldl_insert]
  simp [and_assoc]

theorem nodup_secrets (tls : List IngressTls) (host : String) : (secrets tls host).Nodup :=
  nodup_foldl_insert _ _ List.nodup_nil

theorem singleHost?_eq_some_iff {tls : List IngressTls} {host : String} :
    singleHost? tls = some host ↔ ∃ secret, tls = [⟨some [host], secret⟩] := by
  unfold singleHost?
  split
  case _ h s =>
    simp only [Option.some.injEq, List.cons.injEq, IngressTls.mk.injEq, and_true]
    exact ⟨fun e => ⟨s, e, rfl⟩, fun ⟨_, e, _⟩ => e⟩
  case _ hne =>
    simp only [reduceCtorEq, false_iff, not_exists]
    exact fun s hs => hne host s hs

end IngressTls

/-! ### Standard listeners -/

namespace Listener

/-- A plain listener, or a secure one with certificates. -/
inductive Standard : Listener → Prop
  | plain (hostname : Option String) : Standard (.plain hostname)
  | secure (hostname : Option String) {certificates : List String} (hne : certificates ≠ [])
      (hd : certificates.Nodup) : Standard (.secure hostname certificates)

variable {l : Listener} {hostname : Option String}

/-- A standard listener with the name of a plain one is the plain listener of its host. -/
theorem Standard.eq_plain (h : Standard l) (hn : l.name = (Listener.plain hostname).name) :
    l = .plain l.hostname := by
  cases h with
  | plain => rfl
  | secure => cases HostName.protocol_eq_of_listenerName_eq hn

end Listener

namespace RuleGroup

variable {g : RuleGroup} {host : String} {l : Listener}

theorem mem_listeners_iff :
    l ∈ g.listeners host ↔ l = .plain (g.hostname? host) ∨
      IngressTls.secrets g.tls host ≠ [] ∧
        l = .secure (g.hostname? host) (IngressTls.secrets g.tls host) := by
  unfold listeners
  cases IngressTls.secrets g.tls host <;> simp

theorem standard_of_mem_listeners (h : l ∈ g.listeners host) : l.Standard := by
  rcases mem_listeners_iff.mp h with rfl | ⟨hne, rfl⟩
  · exact .plain _
  · exact .secure _ hne (IngressTls.nodup_secrets _ _)

/-- The listeners of a group are for one host. -/
theorem hostname_of_mem_listeners (h : l ∈ g.listeners host) : l.hostname = g.hostname? host := by
  rcases mem_listeners_iff.mp h with rfl | ⟨-, rfl⟩ <;> rfl

theorem listeners_ne_nil : g.listeners host ≠ [] := fun h =>
  absurd (mem_listeners_iff.mpr (.inl rfl)) (h ▸ List.not_mem_nil)

end RuleGroup

/-! ### The Gateways of a conversion -/

namespace Attachment

variable {as : List Attachment} {name : ObjectName} {n : String} {l : Listener}

theorem listener?_gatewayAt (as : List Attachment) (name : ObjectName) (n : String) :
    (gatewayAt as name).listener? n = (listenersAt as name).find? (·.name == n) := by
  rw [gatewayAt, Gateway.listener?_addListeners]
  rfl

/-- The first listener of a name that is attached to a Gateway is a listener of the Gateway. -/
theorem mem_gatewayAt_of_find?_eq_some (h : (listenersAt as name).find? (·.name == n) = some l) :
    l ∈ (gatewayAt as name).listeners ∧ l.name = n := by
  have hn : l.name = n := by simpa using List.find?_some h
  exact ⟨Gateway.mem_addListeners_iff.mpr (by rw [hn]; exact h), hn⟩

/-- A Gateway has a listener of each name that is attached to it. -/
theorem exists_mem_gatewayAt {a : Attachment} (ha : a ∈ as) (hl : l ∈ a.listeners) :
    ∃ l' ∈ (gatewayAt as a.gateway).listeners, l'.name = l.name := by
  have hs : ((listenersAt as a.gateway).find? (·.name == l.name)).isSome :=
    List.find?_isSome.mpr ⟨l, mem_listenersAt.mpr ⟨a, ha, rfl, hl⟩, by simp⟩
  obtain ⟨l', hl'⟩ := Option.isSome_iff_exists.mp hs
  exact ⟨l', mem_gatewayAt_of_find?_eq_some hl'⟩

/-- A Gateway has no two listeners of one name. -/
theorem nodup_names_gatewayAt (as : List Attachment) (name : ObjectName) :
    ((gatewayAt as name).listeners.map (·.name)).Nodup :=
  Gateway.nodup_names_addListeners _ _ List.nodup_nil

theorem eq_of_mem_gatewayAt {l' : Listener} (hl : l ∈ (gatewayAt as name).listeners)
    (hl' : l' ∈ (gatewayAt as name).listeners) (hn : l.name = l'.name) : l = l' :=
  List.inj_on_of_nodup_map (nodup_names_gatewayAt as name) hl hl' hn

end Attachment

theorem KeyedGroup.mem_listenersAt_map {es : List KeyedGroup} {name : ObjectName} {l : Listener} :
    l ∈ Attachment.listenersAt (es.map attachment) name ↔
      ∃ e ∈ es, e.gateway = name ∧ l ∈ e.listeners := by
  simp [Attachment.mem_listenersAt, attachment]

namespace Conversion

open Attachment

variable {options : ConversionOptions} {ingresses : List Ingress} {e : KeyedGroup} {l : Listener}

theorem standard_of_mem_attachments {a : Attachment} (ha : a ∈ attachments options ingresses)
    (hl : l ∈ a.listeners) : l.Standard := by
  rcases List.mem_append.mp ha with ha | ha <;> obtain ⟨x, -, rfl⟩ := List.mem_map.mp ha
  · exact RuleGroup.standard_of_mem_listeners hl
  · rw [List.mem_singleton.mp hl]
    exact .plain none

theorem standard_of_mem_gatewayAt {name : ObjectName}
    (hl : l ∈ (gatewayAt (attachments options ingresses) name).listeners) : l.Standard := by
  obtain ⟨a, ha, -, hl⟩ := mem_listenersAt.mp (Gateway.mem_of_mem_addListeners hl)
  exact standard_of_mem_attachments ha hl

/-- The Gateway of what is attached is there. -/
theorem find?_gateways_of_mem_attachments {a : Attachment}
    (h : a ∈ attachments options ingresses) :
    (convert options ingresses).1.gateways.find? a.gateway =
      some (gatewayAt (attachments options ingresses) a.gateway) := by
  rw [find?_gateways_convert, if_pos]
  rcases List.mem_append.mp h with h | h <;> obtain ⟨x, hx, rfl⟩ := List.mem_map.mp h
  · exact List.mem_append_left _ (List.mem_map.mpr ⟨x, mem_groups_of_mem_keptGroups hx, rfl⟩)
  · exact List.mem_append_right _ (List.mem_map.mpr ⟨x, hx, rfl⟩)

theorem find?_gateways_of_mem_keptGroups (he : e ∈ keptGroups options ingresses) :
    (convert options ingresses).1.gateways.find? e.gateway =
      some (gatewayAt (attachments options ingresses) e.gateway) :=
  find?_gateways_of_mem_attachments (a := e.attachment)
    (List.mem_append_left _ (List.mem_map.mpr ⟨e, he, rfl⟩))

/-- The listeners of a kept group stand behind those of the groups that were kept before it. -/
theorem exists_listenersAt_eq {pre post : List KeyedGroup}
    (h : keptGroups options ingresses = pre ++ e :: post) :
    ∃ rest, listenersAt (attachments options ingresses) e.gateway =
      listenersAt (pre.map KeyedGroup.attachment) e.gateway ++ (e.listeners ++ rest) := by
  -- what is attached: the groups kept before, the group, and the rest
  obtain ⟨after, hafter⟩ : ∃ after, attachments options ingresses =
      pre.map KeyedGroup.attachment ++ ([e.attachment] ++ after) :=
    ⟨_, by rw [attachments, h, List.map_append, List.map_cons, List.append_assoc]; rfl⟩
  have hown : listenersAt [e.attachment] e.gateway = e.listeners := by
    simp [listenersAt_singleton, KeyedGroup.attachment]
  exact ⟨_, by rw [hafter, listenersAt_append, listenersAt_append, hown]⟩

/-- **A kept group finds its listeners on its Gateway**, for its own host: each is the one of a
group that was kept before, or else its own. -/
theorem exists_listener_of_mem_keptGroups (he : e ∈ keptGroups options ingresses)
    (hl : l ∈ e.listeners) :
    ∃ l' ∈ (gatewayAt (attachments options ingresses) e.gateway).listeners,
      l'.name = l.name ∧ l'.hostname = l.hostname ∧
      (l' ∈ e.listeners ∨ ∃ e' ∈ keptGroups options ingresses, compare e'.1 e.1 = .lt ∧
        e'.gateway = e.gateway ∧ l' ∈ e'.listeners) := by
  obtain ⟨pre, post, hsplit, hc, hlt⟩ := exists_split_of_mem_keptGroups he
  obtain ⟨rest, hrest⟩ := exists_listenersAt_eq hsplit
  have hfind : (listenersAt (attachments options ingresses) e.gateway).find? (·.name == l.name) =
      ((gatewayAt (pre.map KeyedGroup.attachment) e.gateway).listener? l.name).or
        ((e.listeners.find? (·.name == l.name)).or
          (rest.find? (·.name == l.name))) := by
    rw [hrest, List.find?_append, List.find?_append, listener?_gatewayAt]
  cases hpre : (gatewayAt (pre.map KeyedGroup.attachment) e.gateway).listener? l.name with
  | some l' =>
    -- a group before has a listener of the name; without a clash it is for the same host
    rw [hpre, Option.some_or] at hfind
    obtain ⟨hmem, hn⟩ := mem_gatewayAt_of_find?_eq_some hfind
    refine ⟨l', hmem, hn, (KeyedGroup.clash?_eq_none_iff.mp hc).2 l hl l' hpre, .inr ?_⟩
    rw [listener?_gatewayAt] at hpre
    obtain ⟨e', he', hg, hl'⟩ := KeyedGroup.mem_listenersAt_map.mp (List.mem_of_find?_eq_some hpre)
    exact ⟨e', by simp [hsplit, he'], hlt e' he', hg, hl'⟩
  | none =>
    -- no group before has a listener of the name, so the group adds its own
    have hs : (e.listeners.find? (·.name == l.name)).isSome :=
      List.find?_isSome.mpr ⟨l, hl, by simp⟩
    obtain ⟨l', hl'⟩ := Option.isSome_iff_exists.mp hs
    rw [hpre, Option.none_or, hl', Option.some_or] at hfind
    obtain ⟨hmem, hn⟩ := mem_gatewayAt_of_find?_eq_some hfind
    have hl'e : l' ∈ e.listeners := List.mem_of_find?_eq_some hl'
    refine ⟨l', hmem, hn, ?_, .inl hl'e⟩
    rw [RuleGroup.hostname_of_mem_listeners hl, RuleGroup.hostname_of_mem_listeners hl'e]

end Conversion

end GatewayMigration
