import GatewayMigration.Gce.ConfigReference

/-!
# Settings from configuration objects

The settings that BackendConfigs make for Services and FrontendConfigs for Gateways. What cannot be
converted leaves a notification and nothing else.

## Main definitions

* `Gce.settings`: the settings that a BackendConfig makes
* `Gce.configureServices`: attach settings to the Services that refer to a configuration
* `Gce.configureGateways`: attach the SSL policy of each Gateway's Ingresses
-/

namespace GatewayMigration.Gce

/-! ### Services -/

/-- The session affinity that a configuration asks for. -/
def affinity (config : ObjectRef) (o : AffinityOptions) :
    Option SessionAffinity × List Notification :=
  match Ingress.nonempty? o.affinityType with
  | none => (none, [])
  | some type =>
    match SessionAffinity.ofType? type o.cookieTtl with
    | some a => (some a, [])
    | none =>
      (none, [⟨.warning, "unsupported session affinity type " ++ type
        ++ ", ignoring sessionAffinity", some config⟩])

/-- The health check that a configuration asks for; without a protocol it is an HTTP check. -/
def healthCheck (config : ObjectRef) (o : HealthCheckOptions) :
    Option HealthCheck × List Notification :=
  let check (p : ProbeProtocol) : HealthCheck :=
    ⟨o.checkInterval, o.timeout, o.healthyThreshold, o.unhealthyThreshold, p, o.port,
      o.requestPath⟩
  match Ingress.nonempty? o.protocol with
  | none => (some (check .http), [])
  | some type =>
    match ProbeProtocol.ofText? type with
    | some p => (some (check p), [])
    | none =>
      (none, [⟨.warning, "unsupported health check type " ++ type ++ ", ignoring healthCheck",
        some config⟩])

/-- The settings that a BackendConfig makes. -/
def settings (config : ObjectRef) (o : BackendOptions) : ServiceSettings × List Notification :=
  let (sessionAffinity, ofAffinity) := (o.sessionAffinity.map (affinity config)).getD (none, [])
  let (healthCheck, ofHealth) := (o.healthCheck.map (healthCheck config)).getD (none, [])
  (⟨sessionAffinity, Ingress.nonempty? o.securityPolicy, healthCheck⟩, ofAffinity ++ ofHealth)

/-- A topology in the making, with the notifications so far. -/
abbrev Noted := Topology × List Notification

/-- Attach the settings of a configuration to the Services that refer to it. -/
def configure (v : ConfigVersion) (inventory : Inventory) (state : Noted)
    (entry : ObjectName × List ObjectName) : Noted :=
  let (topology, notes) := state
  let (key, services) := entry
  match (v.configs inventory).find? key with
  | none =>
    (topology, notes ++ services.map fun s =>
      ⟨.warning, v.text ++ " BackendConfig " ++ key.text ++ " not found", some ⟨"Service", s⟩⟩)
  | some config =>
    let (s, more) := settings ⟨"BackendConfig", key⟩ config.spec
    (if s.isEmpty then topology
      else services.foldl (fun t service => t.extendService service (some s)) topology,
      notes ++ more)

/-- Attach settings to the Services that refer to a configuration. The version before comes first,
so that of two configurations of one Service the stable one counts. -/
def configureServices (inventory : Inventory) (t : Topology) : Noted :=
  let unusable := inventory.services.values.flatMap fun s => (resolve s).2
  -- settings of the stable version replace those of the version before
  let before := (referrers .v1beta1 inventory.services).entries.foldl
    (configure .v1beta1 inventory) (t, unusable)
  (referrers .v1 inventory.services).entries.foldl (configure .v1 inventory) before

/-! ### Gateways -/

/-- The annotation of an Ingress that names its FrontendConfig. -/
def frontendAnnotation : String := "networking.gke.io/v1beta1.FrontendConfig"

/-- The Gateway that an Ingress is converted to. -/
def gatewayOf (i : Ingress) : ObjectName :=
  ⟨i.objectName.ns, i.className?.getD externalClass⟩

/-- Set the SSL policy of a Gateway that has none; one that has another keeps it. -/
def requireSslPolicy (state : Noted) (gateway : ObjectName) (config : ObjectRef)
    (policy : String) : Noted :=
  let (topology, notes) := state
  match topology.gateways.find? gateway with
  | none => (topology, notes)
  | some g =>
    match g.gce?.bind (·.sslPolicy) with
    | none =>
      ({ topology with
          gateways := topology.gateways.insert gateway (g.extend (some ⟨some policy⟩)) },
        notes)
    | some existing =>
      (topology,
        if existing = policy then notes
        else notes ++ [⟨.warning, "Gateway " ++ gateway.text ++ " already uses sslPolicy "
          ++ existing ++ ", ignoring sslPolicy " ++ policy, some config⟩])

/-- Follow the reference of an Ingress to a FrontendConfig. -/
def configureGateway (inventory : Inventory) (state : Noted) (entry : ObjectName × Ingress) :
    Noted :=
  let (topology, notes) := state
  let (key, ingress) := entry
  match ingress.metadata.annotation? frontendAnnotation with
  | none => (topology, notes)
  | some name =>
    let configKey : ObjectName := ⟨key.ns, name⟩
    let config : ObjectRef := ⟨"FrontendConfig", configKey⟩
    match inventory.frontendConfigs.find? configKey with
    | none =>
      (topology, notes ++ [⟨.warning, "FrontendConfig " ++ configKey.text ++ " not found",
        some ⟨"Ingress", key⟩⟩])
    | some frontend =>
      let redirects := frontend.spec.redirectToHttps.any (·.enabled)
      let notes := if redirects then
          notes ++ [⟨.warning, "redirectToHttps is not converted, add a RequestRedirect filter to "
            ++ "the HTTP routes instead", some config⟩]
        else notes
      match Ingress.nonempty? frontend.spec.sslPolicy with
      | none => (topology, notes)
      | some policy => requireSslPolicy (topology, notes) (gatewayOf ingress) config policy

/-- Attach the SSL policy that the Ingresses of each Gateway ask for. Of Ingresses that disagree,
the first one counts. -/
def configureGateways (inventory : Inventory) (state : Noted) : Noted :=
  inventory.ingresses.entries.foldl (configureGateway inventory) state

end GatewayMigration.Gce
