import GatewayMigration.Gce.Enrichment

/-!
# What an Ingress asks of its Gateway

An Ingress that names a FrontendConfig asks for the SSL policy of that configuration. Following the
reference is one of two things: notifications only, or notifications and then a policy that the
Gateway may take.

## Main definitions

* `frontendNotes`: the notifications of the reference of an Ingress
* `askedPolicy?`: the SSL policy that an Ingress asks for, and the configuration that it is from

## Main results

* `configureGateway_eq`: what the reference of an Ingress does
* `exists_gateways_configureGateway`: following a reference changes Gateways only
-/

namespace GatewayMigration.Gce

/-- The notifications of the reference of an Ingress: the configuration is not there, or it asks
for a redirect. -/
def frontendNotes (inventory : Inventory) (e : ObjectName × Ingress) : List Notification :=
  match e.2.metadata.annotation? frontendAnnotation with
  | none => []
  | some name =>
    match inventory.frontendConfigs.find? ⟨e.1.ns, name⟩ with
    | none =>
      [⟨.warning, "FrontendConfig " ++ (⟨e.1.ns, name⟩ : ObjectName).text ++ " not found",
        some ⟨"Ingress", e.1⟩⟩]
    | some frontend =>
      if frontend.spec.redirectToHttps.any (·.enabled) then
        [⟨.warning, "redirectToHttps is not converted, add a RequestRedirect filter to "
          ++ "the HTTP routes instead", some ⟨"FrontendConfig", ⟨e.1.ns, name⟩⟩⟩]
      else []

/-- The SSL policy that an Ingress asks for, after the configuration that it is from. -/
def askedPolicy? (inventory : Inventory) (e : ObjectName × Ingress) :
    Option (ObjectRef × String) :=
  (e.2.metadata.annotation? frontendAnnotation).bind fun name =>
    (inventory.frontendConfigs.find? ⟨e.1.ns, name⟩).bind fun frontend =>
      (Ingress.nonempty? frontend.spec.sslPolicy).map
        (⟨"FrontendConfig", ⟨e.1.ns, name⟩⟩, ·)

/-- **What the reference of an Ingress does.** -/
theorem configureGateway_eq (inventory : Inventory) (state : Noted) (e : ObjectName × Ingress) :
    configureGateway inventory state e =
      match askedPolicy? inventory e with
      | none => (state.1, state.2 ++ frontendNotes inventory e)
      | some (config, policy) =>
        requireSslPolicy (state.1, state.2 ++ frontendNotes inventory e) (gatewayOf e.2) config
          policy := by
  obtain ⟨t, notes⟩ := state
  obtain ⟨key, ingress⟩ := e
  unfold configureGateway askedPolicy? frontendNotes
  dsimp only
  cases ingress.metadata.annotation? frontendAnnotation with
  | none => simp
  | some name =>
    simp only [Option.bind_some]
    cases inventory.frontendConfigs.find? ⟨key.ns, name⟩ with
    | none => rfl
    | some frontend =>
      by_cases hr : frontend.spec.redirectToHttps.any (·.enabled) = true <;>
        cases hp : Ingress.nonempty? frontend.spec.sslPolicy <;> simp [hr, hp]

/-- Following a reference changes Gateways only. -/
theorem exists_gateways_configureGateway (inventory : Inventory) (state : Noted)
    (e : ObjectName × Ingress) :
    ∃ gateways, (configureGateway inventory state e).1 =
      { state.1 with gateways := gateways } := by
  rw [configureGateway_eq]
  cases askedPolicy? inventory e with
  | none => exact ⟨_, rfl⟩
  | some asked =>
    obtain ⟨config, policy⟩ := asked
    simp only [requireSslPolicy]
    cases state.1.gateways.find? (gatewayOf e.2) with
    | none => exact ⟨_, rfl⟩
    | some g =>
      dsimp only
      cases g.gce?.bind (·.sslPolicy) <;> exact ⟨_, rfl⟩

end GatewayMigration.Gce
