import GatewayMigration.Gce.Enrichment
import GatewayMigration.Proofs.OrderedMap
import Mathlib.Data.List.Nodup

/-!
# Which configuration a Service gets

The settings of Services are made from an index of the references to configurations: for each
configuration of a version, the Services that refer to it. The index is only a way to visit each
configuration once. A Service gets what it would get if its own annotations were followed: no
Service is in two buckets, so nothing that was attached to it is replaced.

## Main definitions

* `PortConfigs.usable?`: the configuration that the text of an annotation names
* `target?`, `consulted`: the configuration that a Service refers to, and the versions whose
  annotations are looked at for it
* `Reference`, `references`: all references of Services to configurations
* `record?`: the settings that a reference leads to
* `refusal?`, `dangling`, `referred`: the annotations, the references and the configurations that
  notifications are about
* `FollowsReferences`: what the Services of an inventory get, and the notifications

## Main results

* `resolve_eq`: an annotation that is looked at in vain leaves one notification
* `mem_referrers_iff`: a Service is in the bucket of the configuration that it refers to
* `apply_configureServices`: what settings of Services leave alone
* `find?_services_configureServices`: the settings of a Service are those of its configuration
* `perm_notes_configureServices`: the notifications, one by one
* `followsReferences_configureServices`: both, for a topology without Services
-/

namespace GatewayMigration.Gce

/-! ### Annotations -/

namespace PortConfigs

/-- The configuration that the text of an annotation names, if the text can be used: it reads, it
has a configuration for all ports, and none for single ports. -/
def usable? (text : String) : Option String :=
  (ofText? text).bind fun c =>
    if !c.default.isEmpty && c.ports.isEmpty then some c.default else none

/-- Why the text of an annotation cannot be used. -/
def objection (text : String) : String :=
  match ofText? text with
  | none => "BackendConfig annotation is invalid json"
  | some c =>
    if c.ports.isEmpty then "No BackendConfig's found in annotation"
    else "Only config with default is supported since HealthCheckPolicy is attached on the "
      ++ "whole service"

/-- The text of an annotation names a configuration, or it meets an objection. -/
theorem single_eq (text : String) :
    single text = match usable? text with
      | some name => .ok name
      | none => .error (objection text) := by
  unfold single usable? objection
  cases ofText? text with
  | none => rfl
  | some c =>
    obtain ⟨default, ports⟩ := c
    cases hd : default.isEmpty <;> cases hp : ports.isEmpty <;>
      simp only [Option.bind_some, hd, hp] <;> rfl

end PortConfigs

/-- The configuration that a Service names for a version, if its annotation can be used. -/
def named? (v : ConfigVersion) (s : Service) : Option String :=
  (s.metadata.annotation? v.annotation).bind PortConfigs.usable?

/-- The configuration that a Service refers to: the one that it names for the stable version, or
else for the version before. -/
def target? (s : Service) : Option (ConfigVersion × String) :=
  match named? .v1 s with
  | some name => some (.v1, name)
  | none => (named? .v1beta1 s).map (.v1beta1, ·)

/-- The versions whose annotations are looked at. -/
def consulted (s : Service) : List ConfigVersion :=
  if (named? .v1 s).isSome then [.v1] else [.v1, .v1beta1]

/-- The notification for an annotation that is present and cannot be used. -/
def refusal? (s : Service) (v : ConfigVersion) : Option Notification :=
  (s.metadata.annotation? v.annotation).bind fun text =>
    match PortConfigs.usable? text with
    | some _ => none
    | none => some ⟨.error, PortConfigs.objection text, some s.ref⟩

theorem namedConfig_eq (v : ConfigVersion) (s : Service) :
    namedConfig v s = (named? v s, (refusal? s v).toList) := by
  unfold namedConfig named? refusal?
  cases s.metadata.annotation? v.annotation with
  | none => rfl
  | some text =>
    simp only [Option.bind_some, PortConfigs.single_eq]
    cases PortConfigs.usable? text <;> rfl

/-- **The annotations of a Service are followed**, and each one that is looked at in vain leaves
one notification. -/
theorem resolve_eq (s : Service) :
    resolve s = (target? s, (consulted s).filterMap (refusal? s)) := by
  unfold resolve target? consulted
  simp only [namedConfig_eq]
  -- the version before is looked at only where the stable one names nothing
  cases named? .v1 s with
  | some name => cases h : refusal? s .v1 <;> simp [h]
  | none =>
    cases h : refusal? s .v1 <;> cases h' : refusal? s .v1beta1 <;> simp [h, h']

/-! ### References -/

/-- A reference of a Service to a configuration. -/
structure Reference where
  version : ConfigVersion
  config : ObjectName
  service : ObjectName
  deriving DecidableEq

/-- The reference of a Service. A configuration is looked for in the namespace of the Service. -/
def reference? (key : ObjectName) (s : Service) : Option Reference :=
  (target? s).map fun t => ⟨t.1, ⟨key.ns, t.2⟩, key⟩

/-- The references of Services, in the order of the Services. -/
def references (services : OrderedMap ObjectName Service) : List Reference :=
  services.entries.filterMap fun e => reference? e.1 e.2

/-- The references to configurations of a version. -/
def referencesTo (v : ConfigVersion) (services : OrderedMap ObjectName Service) :
    List (ObjectName × ObjectName) :=
  ((references services).filter (·.version = v)).map fun r => (r.config, r.service)

variable {services : OrderedMap ObjectName Service} {v : ConfigVersion}

theorem mem_references_iff {r : Reference} :
    r ∈ references services ↔
      (services.find? r.service).bind (reference? r.service) = some r := by
  simp only [references, List.mem_filterMap, Option.bind_eq_some_iff, Prod.exists,
    OrderedMap.find?_eq_some_iff]
  constructor
  · rintro ⟨key, s, hs, hr⟩
    obtain ⟨t, ht, rfl⟩ := Option.map_eq_some_iff.mp hr
    exact ⟨s, hs, hr⟩
  · rintro ⟨s, hs, hr⟩
    exact ⟨r.service, s, hs, hr⟩

theorem mem_referencesTo_iff {config service : ObjectName} :
    (config, service) ∈ referencesTo v services ↔
      (⟨v, config, service⟩ : Reference) ∈ references services := by
  simp only [referencesTo, List.mem_map, List.mem_filter, decide_eq_true_eq, Prod.mk.injEq]
  constructor
  · rintro ⟨r, ⟨hr, rfl⟩, rfl, rfl⟩
    exact hr
  · exact fun hr => ⟨_, ⟨hr, rfl⟩, rfl, rfl⟩

/-- **The index of references** has a bucket for each configuration. -/
theorem referrers_eq (v : ConfigVersion) (services : OrderedMap ObjectName Service) :
    referrers v services = OrderedMap.buckets (referencesTo v services) := by
  unfold referrers OrderedMap.buckets referencesTo references
  -- both are folds over the Services, so it is enough to compare one step
  rw [List.foldl_map, List.foldl_filter, List.foldl_filterMap]
  congr 1
  funext m e
  rw [resolve_eq]
  unfold reference?
  cases target? e.2 with
  | none => rfl
  | some t => by_cases ht : t.1 = v <;> simp [ht]

/-- A Service is in the bucket of the configuration that it refers to. -/
theorem mem_referrers_iff {e : ObjectName × List ObjectName}
    (he : e ∈ (referrers v services).entries) {service : ObjectName} :
    service ∈ e.2 ↔
      (services.find? service).bind (reference? service) = some ⟨v, e.1, service⟩ := by
  rw [referrers_eq] at he
  rw [OrderedMap.mem_of_mem_buckets he, mem_referencesTo_iff, mem_references_iff]

/-- There is a bucket for each configuration of the version that a Service refers to. -/
theorem mem_keys_referrers {config : ObjectName} :
    config ∈ (referrers v services).entries.map (·.1) ↔
      ∃ r ∈ references services, r.version = v ∧ r.config = config := by
  rw [referrers_eq, OrderedMap.mem_keys_buckets]
  simp only [mem_referencesTo_iff]
  constructor
  · exact fun ⟨service, hr⟩ => ⟨_, hr, rfl, rfl⟩
  · rintro ⟨r, hr, rfl, rfl⟩
    exact ⟨r.service, hr⟩

/-! ### Configurations -/

/-- The settings that a reference leads to, unless the configuration is not there or makes none. -/
def record? (inventory : Inventory) (v : ConfigVersion) (config : ObjectName) :
    Option ServiceSettings :=
  ((v.configs inventory).find? config).bind fun c =>
    let s := (settings ⟨"BackendConfig", config⟩ c.spec).1
    if s.isEmpty then none else some s

/-- The warning for a type that is given and is not one of those that are known. -/
def unknownType (before after : String) (known : List String) (config : ObjectRef)
    (type : Option String) : List Notification :=
  (type.filter fun type => type ≠ "" ∧ type ∉ known).toList.map fun type =>
    ⟨.warning, before ++ type ++ after, some config⟩

/-- The warnings of a configuration: one for a type of session affinity and one for a type of
health check that is not known. -/
def BackendOptions.unsupported (o : BackendOptions) (config : ObjectRef) : List Notification :=
  unknownType "unsupported session affinity type " ", ignoring sessionAffinity"
      ["CLIENT_IP", "GENERATED_COOKIE", "NONE"] config (o.sessionAffinity.bind (·.affinityType)) ++
    unknownType "unsupported health check type " ", ignoring healthCheck"
      ["HTTP", "HTTPS", "HTTP2"] config (o.healthCheck.bind (·.protocol))

/-- The warning for a Service whose configuration is not there. -/
def missing (v : ConfigVersion) (config service : ObjectName) : Notification :=
  ⟨.warning, v.text ++ " BackendConfig " ++ config.text ++ " not found", some ⟨"Service", service⟩⟩

theorem affinityOfType?_eq_none_iff {type : String} (ttl : Option Int64) :
    SessionAffinity.ofType? type ttl = none ↔
      type ∉ ["CLIENT_IP", "GENERATED_COOKIE", "NONE"] := by
  unfold SessionAffinity.ofType?
  split <;> simp_all

theorem probeProtocolOfText?_eq_none_iff {type : String} :
    ProbeProtocol.ofText? type = none ↔ type ∉ ["HTTP", "HTTPS", "HTTP2"] := by
  unfold ProbeProtocol.ofText?
  split <;> simp_all

theorem affinity_snd (config : ObjectRef) (o : AffinityOptions) :
    (affinity config o).2 =
      unknownType "unsupported session affinity type " ", ignoring sessionAffinity"
        ["CLIENT_IP", "GENERATED_COOKIE", "NONE"] config o.affinityType := by
  unfold affinity Ingress.nonempty? unknownType
  cases o.affinityType with
  | none => rfl
  | some type =>
    simp only [Option.filter_some, ← affinityOfType?_eq_none_iff o.cookieTtl]
    by_cases ht : type = ""
    · simp [ht]
    · cases ha : SessionAffinity.ofType? type o.cookieTtl <;> simp [ht, ha]

theorem healthCheck_snd (config : ObjectRef) (o : HealthCheckOptions) :
    (healthCheck config o).2 =
      unknownType "unsupported health check type " ", ignoring healthCheck"
        ["HTTP", "HTTPS", "HTTP2"] config o.protocol := by
  unfold healthCheck Ingress.nonempty? unknownType
  cases o.protocol with
  | none => rfl
  | some type =>
    simp only [Option.filter_some, ← probeProtocolOfText?_eq_none_iff]
    by_cases ht : type = ""
    · simp [ht]
    · cases hp : ProbeProtocol.ofText? type <;> simp [ht, hp]

theorem settings_snd (config : ObjectRef) (o : BackendOptions) :
    (settings config o).2 = o.unsupported config := by
  obtain ⟨affinity, policy, health⟩ := o
  unfold settings BackendOptions.unsupported
  cases affinity <;> cases health <;> simp [affinity_snd, healthCheck_snd, unknownType]

/-! ### Buckets -/

variable {inventory : Inventory}

/-- The notifications of a bucket. -/
def bucketNotes (inventory : Inventory) (v : ConfigVersion) (e : ObjectName × List ObjectName) :
    List Notification :=
  match (v.configs inventory).find? e.1 with
  | none => e.2.map (missing v e.1)
  | some c => c.spec.unsupported ⟨"BackendConfig", e.1⟩

/-- What a bucket does. -/
theorem configure_eq (state : Noted) (e : ObjectName × List ObjectName) :
    configure v inventory state e =
      (match record? inventory v e.1 with
        | some s => e.2.foldl (fun t service => t.extendService service (some s)) state.1
        | none => state.1,
      state.2 ++ bucketNotes inventory v e) := by
  obtain ⟨t, notes⟩ := state
  obtain ⟨config, bucket⟩ := e
  unfold configure record? bucketNotes
  cases hc : (v.configs inventory).find? config with
  | none => simp only [hc]; rfl
  | some c =>
    simp only [hc, settings_snd, Option.bind_some]
    cases (settings ⟨"BackendConfig", config⟩ c.spec).1.isEmpty <;> rfl

/-- What the settings of one Service leave alone, those of all Services leave alone. -/
theorem apply_configureServices {β : Type} {f : Topology → β}
    (h : ∀ t service settings, f (t.extendService service settings) = f t) (inventory : Inventory)
    (t : Topology) : f (configureServices inventory t).1 = f t := by
  have hconfigure : ∀ v (state : Noted) (e : ObjectName × List ObjectName),
      f (configure v inventory state e).1 = f state.1 := by
    intro v state e
    rw [configure_eq]
    cases record? inventory v e.1 with
    | none => rfl
    | some s =>
      have hstep : ∀ (t : Topology) service, f (t.extendService service (some s)) = f t :=
        fun t service => h t service (some s)
      exact apply_foldl_eq hstep e.2 state.1
  have hrun : ∀ v (l : List (ObjectName × List ObjectName)) (state : Noted),
      f (l.foldl (configure v inventory) state).1 = f state.1 := by
    intro v l state
    exact apply_foldl_eq (f := fun state : Noted => f state.1) (hconfigure v) l state
  exact (hrun .v1 _ _).trans (hrun .v1beta1 _ _)

theorem foldl_configure_snd (l : List (ObjectName × List ObjectName)) (state : Noted) :
    (l.foldl (configure v inventory) state).2 = state.2 ++ l.flatMap (bucketNotes inventory v) := by
  induction l generalizing state with
  | nil => simp
  | cons e l ih => simp [ih, configure_eq]

theorem find?_extendServices (s : ServiceSettings) (keys : List ObjectName) (t : Topology)
    (key : ObjectName) :
    (keys.foldl (fun t service => t.extendService service (some s)) t).services.find? key =
      if key ∈ keys then some ⟨some s⟩ else t.services.find? key := by
  induction keys generalizing t with
  | nil => simp
  | cons k keys ih =>
    rw [List.foldl_cons, ih]
    simp only [Topology.extendService, OrderedMap.find?_upsert, List.mem_cons]
    by_cases hk : key = k <;> by_cases hkeys : key ∈ keys <;> simp [hk, hkeys]

/-- The configuration of a bucket sets what it makes on the Services of the bucket. -/
theorem find?_configure (state : Noted) (e : ObjectName × List ObjectName) (key : ObjectName) :
    (configure v inventory state e).1.services.find? key =
      if key ∈ e.2 then ((record? inventory v e.1).map (⟨some ·⟩)).or (state.1.services.find? key)
      else state.1.services.find? key := by
  rw [configure_eq]
  cases record? inventory v e.1 with
  | none => simp
  | some s => simp [find?_extendServices]

/-- A Service that is in buckets of one configuration only gets what that configuration makes. -/
theorem find?_foldl_configure (config : ObjectName) {key : ObjectName}
    (l : List (ObjectName × List ObjectName)) (hl : ∀ e ∈ l, key ∈ e.2 → e.1 = config)
    (state : Noted) :
    (l.foldl (configure v inventory) state).1.services.find? key =
      if l.any fun e => key ∈ e.2 then
        ((record? inventory v config).map (⟨some ·⟩)).or (state.1.services.find? key)
      else state.1.services.find? key := by
  induction l generalizing state with
  | nil => simp
  | cons e l ih =>
    rw [List.foldl_cons, ih (fun e' he' => hl e' (List.mem_cons_of_mem _ he')), find?_configure]
    by_cases he : key ∈ e.2
    · -- the configuration may count once more later, to the same effect
      rw [hl e (List.mem_cons_self ..) he]
      cases record? inventory v config <;> simp [he]
    · rw [if_neg he, List.any_cons, decide_eq_false he, Bool.false_or]

/-- A version sets what it makes on the Services that refer to its configurations. -/
theorem find?_foldl_referrers (state : Noted) (key : ObjectName) :
    ((referrers v inventory.services).entries.foldl (configure v inventory)
        state).1.services.find? key =
      ((((inventory.services.find? key).bind (reference? key)).filter (·.version = v)).bind fun r =>
        (record? inventory v r.config).map (⟨some ·⟩)).or (state.1.services.find? key) := by
  cases hr : ((inventory.services.find? key).bind (reference? key)).filter (·.version = v) with
  | none =>
    -- the Service is in no bucket of the version
    have hout : ∀ e ∈ (referrers v inventory.services).entries, key ∉ e.2 := by
      intro e he hkey
      rw [mem_referrers_iff he] at hkey
      simp [hkey] at hr
    rw [find?_foldl_configure key _ fun e he hkey => absurd hkey (hout e he)]
    rw [if_neg (by simpa using hout)]
    rfl
  | some r =>
    replace ⟨hr, hv⟩ := Option.filter_eq_some_iff.mp hr
    obtain ⟨s, hs, hrs⟩ := Option.bind_eq_some_iff.mp hr
    obtain ⟨t, ht, rfl⟩ := Option.map_eq_some_iff.mp hrs
    obtain rfl : t.1 = v := of_decide_eq_true hv
    -- it is in the bucket of its configuration, and in no other
    have hin : ∀ e ∈ (referrers t.1 inventory.services).entries,
        key ∈ e.2 ↔ e.1 = ⟨key.ns, t.2⟩ := by
      intro e he
      rw [mem_referrers_iff he, hr]
      simp [eq_comm]
    have href : (⟨t.1, ⟨key.ns, t.2⟩, key⟩ : Reference) ∈ references inventory.services :=
      mem_references_iff.mpr hr
    obtain ⟨e, he, hc⟩ := List.mem_map.mp (mem_keys_referrers.mpr ⟨_, href, rfl, rfl⟩)
    rw [find?_foldl_configure ⟨key.ns, t.2⟩ _ fun e he hkey => (hin e he).mp hkey]
    rw [if_pos (List.any_eq_true.mpr ⟨e, he, decide_eq_true ((hin e he).mpr hc)⟩)]
    rfl

/-- **A Service gets the settings of the configuration that it refers to**, and keeps what it had
if there are none. -/
theorem find?_services_configureServices (t : Topology) (key : ObjectName) :
    (configureServices inventory t).1.services.find? key =
      (((inventory.services.find? key).bind (reference? key)).bind fun r =>
        (record? inventory r.version r.config).map (⟨some ·⟩)).or (t.services.find? key) := by
  unfold configureServices
  simp only [find?_foldl_referrers]
  cases (inventory.services.find? key).bind (reference? key) with
  | none => rfl
  | some r =>
    obtain ⟨v, config, service⟩ := r
    cases v <;> simp [Option.filter_some]

/-! ### The notifications -/

/-- The configurations of a version that Services refer to. -/
def referred (inventory : Inventory) (v : ConfigVersion) : List (ObjectName × BackendConfig) :=
  (v.configs inventory).entries.filter fun e =>
    (references inventory.services).any fun r => r.version = v ∧ r.config = e.1

/-- The references to configurations that are not there. -/
def dangling (inventory : Inventory) : List Reference :=
  (references inventory.services).filter fun r =>
    ((r.version.configs inventory).find? r.config).isNone

/-- The configurations that have a bucket and are there, are those that are referred to. -/
theorem perm_referred (inventory : Inventory) (v : ConfigVersion) :
    (((referrers v inventory.services).entries.map (·.1)).filterMap fun config =>
        ((v.configs inventory).find? config).map (config, ·)).Perm (referred inventory v) := by
  have hnodup : (v.configs inventory).entries.Nodup := .of_map _ (OrderedMap.nodup_keys _)
  refine (List.perm_ext_iff_of_nodup ?_ (hnodup.filter _)).mpr fun e => ?_
  · refine List.Nodup.filterMap ?_ (OrderedMap.nodup_keys (referrers v inventory.services))
    intro config config' e he he'
    obtain ⟨c, -, rfl⟩ := Option.map_eq_some_iff.mp he
    obtain ⟨c', -, hc⟩ := Option.map_eq_some_iff.mp he'
    exact (congrArg Prod.fst hc).symm
  · obtain ⟨config, c⟩ := e
    simp only [List.mem_filterMap, mem_keys_referrers, Option.map_eq_some_iff,
      List.mem_filter, List.any_eq_true, decide_eq_true_eq, ← OrderedMap.find?_eq_some_iff]
    constructor
    · rintro ⟨_, hr, _, hc, he⟩
      cases he
      exact ⟨hc, hr⟩
    · exact fun ⟨hc, hr⟩ => ⟨config, hr, c, hc, rfl⟩

/-- The notifications of a version: the Services whose configuration is not there, and what the
configurations warn of. -/
theorem perm_bucketNotes (inventory : Inventory) (v : ConfigVersion) :
    ((referrers v inventory.services).entries.flatMap (bucketNotes inventory v)).Perm
      ((((dangling inventory).filter (·.version = v)).map fun r =>
          missing r.version r.config r.service) ++
        (referred inventory v).flatMap fun e => e.2.spec.unsupported ⟨"BackendConfig", e.1⟩) := by
  -- each bucket warns of one or the other
  have hsplit : bucketNotes inventory v = fun e =>
      ((e.2.map (e.1, ·)).filter fun p => ((v.configs inventory).find? p.1).isNone).map
          (fun p => missing v p.1 p.2) ++
        (((v.configs inventory).find? e.1).map (e.1, ·)).toList.flatMap fun e =>
          e.2.spec.unsupported ⟨"BackendConfig", e.1⟩ := by
    funext e
    unfold bucketNotes
    cases hc : (v.configs inventory).find? e.1 <;> simp [hc, List.filter_map, Function.comp_def]
  rw [hsplit]
  refine (List.flatMap_append_perm _ _ _).symm.trans (List.Perm.append ?_ ?_)
  · -- the buckets hold the references of the version
    have hbuckets := OrderedMap.perm_buckets (referencesTo v inventory.services)
    rw [← referrers_eq] at hbuckets
    rw [← List.map_flatMap, ← List.filter_flatMap]
    refine ((hbuckets.filter _).map _).trans (.of_eq ?_)
    simp only [referencesTo, dangling, List.filter_map, List.map_map, List.filter_filter]
    have hfilter : ∀ r : Reference, (((v.configs inventory).find? r.config).isNone &&
        decide (r.version = v)) = (decide (r.version = v) &&
          ((r.version.configs inventory).find? r.config).isNone) := by
      intro r
      by_cases hv : r.version = v
      · rw [hv, Bool.and_comm]
      · simp [hv]
    simp only [Function.comp_def, hfilter]
    refine List.map_congr_left fun r hr => ?_
    simp only [List.mem_filter, Bool.and_eq_true, decide_eq_true_eq] at hr
    rw [hr.2.1]
  · -- the configurations of the buckets are those that are referred to
    have hperm := (perm_referred inventory v).flatMap_right fun e =>
      e.2.spec.unsupported ⟨"BackendConfig", e.1⟩
    rw [List.filterMap_eq_flatMap_toList, List.flatMap_assoc, List.flatMap_map] at hperm
    exact hperm

/-- **The notifications, one by one**: the annotations that are looked at in vain, the Services
whose configuration is not there, and what the configurations warn of. -/
theorem perm_notes_configureServices (inventory : Inventory) (t : Topology) :
    (configureServices inventory t).2.Perm
      ((inventory.services.values.flatMap fun s => (consulted s).filterMap (refusal? s)) ++
        ((dangling inventory).map fun r => missing r.version r.config r.service) ++
        [ConfigVersion.v1beta1, .v1].flatMap fun v =>
          (referred inventory v).flatMap fun e =>
            e.2.spec.unsupported ⟨"BackendConfig", e.1⟩) := by
  have hversions : ((dangling inventory).filter (·.version = .v1beta1) ++
      (dangling inventory).filter (·.version = .v1)).Perm (dangling inventory) := by
    have hother : (dangling inventory).filter (·.version = .v1) =
        (dangling inventory).filter (fun r => !decide (r.version = .v1beta1)) := by
      congr 1
      funext r
      cases r.version <;> rfl
    rw [hother]
    exact List.filter_append_perm _ _
  have hswap : ∀ a b c d : List Notification,
      ((a ++ b) ++ (c ++ d)).Perm ((a ++ c) ++ (b ++ d)) := by
    intro a b c d
    rw [List.append_assoc, List.append_assoc, ← List.append_assoc b, ← List.append_assoc c]
    exact (List.perm_append_comm.append_right d).append_left a
  simp only [configureServices, foldl_configure_snd, resolve_eq, List.append_assoc,
    List.flatMap_cons, List.flatMap_nil, List.append_nil]
  refine List.Perm.append_left _ ?_
  refine ((perm_bucketNotes inventory .v1beta1).append (perm_bucketNotes inventory .v1)).trans ?_
  refine (hswap _ _ _ _).trans (List.Perm.append_right _ ?_)
  rw [← List.map_append]
  exact hversions.map _

/-! ### The result -/

/-- What the Services of an inventory get, and the notifications that this leaves. -/
structure FollowsReferences (inventory : Inventory) (t : Topology) (notes : List Notification) :
    Prop where
  /-- A Service has settings exactly when the configuration that it refers to is there and makes
  some, and these are its settings. -/
  services : ∀ key e, t.services.find? key = some e ↔ ∃ s v name record,
    inventory.services.find? key = some s ∧ target? s = some (v, name) ∧
      record? inventory v ⟨key.ns, name⟩ = some record ∧ e = ⟨some record⟩
  /-- One error for each annotation that is looked at in vain, one warning for each Service whose
  configuration is not there, and one for each type that a configuration that is referred to gives
  and that is not known. -/
  notes : notes.Perm
    ((inventory.services.values.flatMap fun s => (consulted s).filterMap (refusal? s)) ++
      ((dangling inventory).map fun r => missing r.version r.config r.service) ++
      [ConfigVersion.v1beta1, .v1].flatMap fun v =>
        (referred inventory v).flatMap fun e => e.2.spec.unsupported ⟨"BackendConfig", e.1⟩)

/-- **Services get what their own annotations lead to.** -/
theorem followsReferences_configureServices (inventory : Inventory) (t : Topology)
    (ht : t.services = ∅) :
    FollowsReferences inventory (configureServices inventory t).1
      (configureServices inventory t).2 where
  services key e := by
    rw [find?_services_configureServices, ht, show (∅ : OrderedMap ObjectName
      ServiceExtension).find? key = none from rfl, Option.or_none]
    simp only [reference?, Option.bind_eq_some_iff, Option.map_eq_some_iff, Prod.exists]
    constructor
    · rintro ⟨_, ⟨s, hs, v, name, ht, rfl⟩, record, hr, rfl⟩
      exact ⟨s, v, name, record, hs, ht, hr, rfl⟩
    · rintro ⟨s, v, name, record, hs, ht, hr, rfl⟩
      exact ⟨_, ⟨s, hs, v, name, ht, rfl⟩, record, hr, rfl⟩
  notes := perm_notes_configureServices inventory t

/-- A Service that names a configuration in both versions, the stable one in vain. -/
def pinnedService : Service :=
  ⟨⟨some "web", some "default", some (.ofList [
    ("cloud.google.com/backend-config", "[\"\"]"),
    ("beta.cloud.google.com/backend-config", "[\"pinned\"]")]), []⟩⟩

/-- The inventory of that Service, with the configuration. -/
def pinnedInventory : Inventory :=
  .ofLists [] [pinnedService] [] [⟨"cloud.google.com/v1beta1", "BackendConfig",
    .ofName ⟨"default", "pinned"⟩, ⟨some ⟨some "CLIENT_IP", none⟩, none, none⟩⟩] []

theorem followsReferences_pinned :
    (∅ : Topology).services = ∅ ∧
      FollowsReferences pinnedInventory (configureServices pinnedInventory ∅).1
        (configureServices pinnedInventory ∅).2 ∧
      target? pinnedService = some (.v1beta1, "pinned") ∧
      (configureServices pinnedInventory ∅).1.services.find? ⟨"default", "web"⟩ =
        some ⟨some ⟨some .clientIp, none, none⟩⟩ ∧
      (configureServices pinnedInventory ∅).2 =
        [⟨.error, "No BackendConfig's found in annotation", some pinnedService.ref⟩] :=
  ⟨rfl, followsReferences_configureServices _ _ rfl, by decide +kernel, by decide +kernel,
    by decide +kernel⟩

end GatewayMigration.Gce
