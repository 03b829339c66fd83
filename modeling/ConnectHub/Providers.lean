import ConnectHub.Controls

/-!
# Provider records

Registering a provider and editing it. An edit refuses to change the destination of a provider in use, keeps
endpoints apart, asks for a ready provider before it sets a limit, and counts itself.
-/

namespace ConnectHub

open Store

/-- The fields of a new provider; its key comes sealed. -/
structure CreateVpsProviderDto where
  providerUrl : String
  encryptedApiKey : String
  adapterType : Option String := none
deriving DecidableEq, Repr

/-- A new provider: it has no limit and accepts new instances. -/
def CreateVpsProviderDto.provider (env : Env) (dto : CreateVpsProviderDto) (vpsId id : Uuid) : VpsProvider where
  id := id
  vpsId := vpsId
  providerUrl := dto.providerUrl
  canonicalEndpoint := canonicalEvolutionEndpoint env dto.providerUrl
  providerApiKey := dto.encryptedApiKey
  adapterType := dto.adapterType.getD "evolution"

/-- Register a provider; a strict registration refuses an endpoint that is registered at all. -/
def createRecord (env : Env) (vpsId : Uuid) (dto : CreateVpsProviderDto) (strict : Bool) (id : Uuid) :
    Tx VpsProvider := do
  let db ← get
  throwWhen (db.vpsServers.find? vpsId = none) (.notFound "VPS não encontrada")
  let _ ← assertEndpointAvailable env dto.providerUrl none strict
  let providers ← orThrow .uniqueViolation (db.providers.insert? (dto.provider env vpsId id))
  set { db with providers := providers }
  pure (dto.provider env vpsId id)

/-- The fields of a provider edit; absent fields keep the stored value. The new key comes with its
ciphertext. -/
structure UpdateVpsProviderDto where
  providerUrl : Option String := none
  adapterType : Option String := none
  isActive : Option Bool := none
  providerApiKey : Option String := none
  encryptedApiKey : String := ""
deriving DecidableEq, Repr

/-- The policy fields of a provider edit, and the revision its author saw. -/
structure EvolutionProviderUpdate where
  expectedRevision : Nat
  vpsId : Option Uuid := none
  confirmIdentity : Bool := false
  maxInstances : Option (Option Nat) := none
  acceptingNewInstances : Option Bool := none
  writersCompatible : Bool := false
deriving DecidableEq, Repr

/-- Whether an edit sends a provider elsewhere. -/
def changesDestination (current : VpsProvider) (dto : UpdateVpsProviderDto)
    (policy : Option EvolutionProviderUpdate) : Bool :=
  dto.providerUrl.any (· ≠ current.providerUrl) || dto.adapterType.any (· ≠ current.adapterType) ||
    (policy.bind (·.vpsId)).any (· ≠ current.vpsId)

/-- The provider after an edit. -/
def VpsProvider.edited (env : Env) (dto : UpdateVpsProviderDto) (policy : Option EvolutionProviderUpdate)
    (moved : Bool) (provider : VpsProvider) : VpsProvider :=
  let confirmed := policy.any (·.confirmIdentity)
  let rekeyed := truthy dto.providerApiKey
  { provider with
    vpsId := (policy.bind (·.vpsId)).getD provider.vpsId
    providerUrl := dto.providerUrl.getD provider.providerUrl
    providerApiKey := if rekeyed then dto.encryptedApiKey else provider.providerApiKey
    adapterType := dto.adapterType.getD provider.adapterType
    isActive := dto.isActive.getD provider.isActive
    maxInstances := (policy.bind (·.maxInstances)).getD provider.maxInstances
    acceptingNewInstances := (policy.bind (·.acceptingNewInstances)).getD provider.acceptingNewInstances
    configurationRevision := provider.configurationRevision + 1
    canonicalEndpoint :=
      if confirmed then canonicalEvolutionEndpoint env (dto.providerUrl.getD provider.providerUrl)
      else match dto.providerUrl with
        | some url => canonicalEvolutionEndpoint env url
        | none => provider.canonicalEndpoint
    identityStatus := if confirmed then .verified else if moved then .pending else provider.identityStatus
    callbackReadiness := if moved then .pending else provider.callbackReadiness
    inventoryStatus := if moved || rekeyed then .unknown else provider.inventoryStatus
    inventoryObservedAt := if moved || rekeyed then none else provider.inventoryObservedAt }

/-- The checks of an edit on the provider's use and on its endpoint. -/
def assertDestination (env : Env) (current : VpsProvider) (dto : UpdateVpsProviderDto)
    (policy : Option EvolutionProviderUpdate) : Tx Unit := do
  let db ← get
  let moved := changesDestination current dto policy
  let strict := policy.isSome || db.isControlledEvolution current
  doWhen (moved = true ∧ strict = true) (assertEvolutionUnused current.id true)
  doWhen (dto.isActive = some false ∧ strict = true) (assertEvolutionUnused current.id false)
  throwWhen (moved = true ∧ db.reservationsOf current.id ≠ [])
    (.conflict "Provider possui provisionamentos pendentes; destino preservado")
  whenSome dto.providerUrl fun url => do
    let _ ← assertEndpointAvailable env url (some current.id) strict
    pure ()

/-- The checks of an edit on its policy fields. -/
def assertPolicy (env : Env) (now : Instant) (current : VpsProvider) (dto : UpdateVpsProviderDto)
    (policy : EvolutionProviderUpdate) : Tx Unit := do
  let db ← get
  let url := dto.providerUrl.getD current.providerUrl
  throwWhen (policy.vpsId.any (fun id => (db.vpsServers.find? id).isNone) = true)
    (.notFound "VPS não encontrada")
  doWhen (policy.confirmIdentity = true) (do
    throwWhen (canonicalEvolutionEndpoint env url = none) (.badRequest "URL de Evolution inválida")
    let _ ← assertEndpointAvailable env url (some current.id) true
    pure ())
  doWhen (policy.acceptingNewInstances = some false) (do
    let _ ← assertEndpointAvailable env url (some current.id) true
    pure ())
  doWhen (policy.maxInstances.any (·.isSome) = true) (do
    assertWritersCompatible policy.writersCompatible
    let prospective := { current with
      identityStatus := if policy.confirmIdentity then .verified else current.identityStatus
      canonicalEndpoint :=
        if policy.confirmIdentity then canonicalEvolutionEndpoint env url else current.canonicalEndpoint }
    let blockers := (db.evolutionReadiness env now prospective false).1 ++
      if changesDestination current dto (some policy) || truthy dto.providerApiKey then
        [.configurationChanged] else []
    throwWhen (blockers ≠ []) (.blocked "Evolution ainda não preparada para limite" blockers))

/-- Edit a provider. -/
def updateRecord (env : Env) (now : Instant) (vpsId id : Uuid) (dto : UpdateVpsProviderDto)
    (policy : Option EvolutionProviderUpdate) : Tx VpsProvider := do
  let current ← lockProvider id
  throwWhen (current.vpsId ≠ vpsId) (.notFound "Provider não encontrado na VPS")
  whenSome policy fun policy => assertRevision current.configurationRevision policy.expectedRevision
  assertDestination env current dto policy
  whenSome policy fun policy => assertPolicy env now current dto policy
  let moved := changesDestination current dto policy
  modify fun db => db.updateProvider id (·.edited env dto policy moved)
  pure (current.edited env dto policy moved)

/-- The checks of an edit on the endpoint only read. -/
theorem assertEndpointAvailable_readOnly {env : Env} {url : String} {exceptId : Option Uuid} {strict : Bool} :
    ReadOnly (assertEndpointAvailable env url exceptId strict) :=
  ReadOnly.get.bind fun _ => ReadOnly.throwWhen.bind fun _ => ReadOnly.pure _

/-- A provider was registered beside the others. -/
theorem createRecord_ok {env : Env} {vpsId id : Uuid} {dto : CreateVpsProviderDto} {strict : Bool}
    {provider : VpsProvider} {db db' : Database}
    (h : (createRecord env vpsId dto strict id).run db = .ok (provider, db')) :
    (∃ aliases, (assertEndpointAvailable env dto.providerUrl none strict).run db = .ok (aliases, db)) ∧
      ∃ providers, db.providers.insert? (dto.provider env vpsId id) = some providers ∧
        db' = { db with providers := providers } := by
  simp only [createRecord, get_bind_ok, throwWhen_bind_ok] at h
  obtain ⟨-, h⟩ := h
  obtain ⟨aliases, db₁, havailable, hrest⟩ := bind_ok.mp h
  obtain rfl : db₁ = db := assertEndpointAvailable_readOnly db (aliases, db₁) havailable
  simp only [orThrow_bind_ok, set_bind_ok, pure_ok] at hrest
  obtain ⟨providers, hinserted, hrest⟩ := hrest
  exact ⟨⟨aliases, havailable⟩, providers, hinserted, congrArg Prod.snd hrest⟩

/-- The checks of an edit on the use of a provider only read. -/
theorem assertEvolutionUnused_readOnly {providerId : Uuid} {identityChange : Bool} :
    ReadOnly (assertEvolutionUnused providerId identityChange) :=
  ReadOnly.get.bind fun _ => ReadOnly.throwWhen

/-- The checks of an edit on the destination only read. -/
theorem assertDestination_readOnly {env : Env} {current : VpsProvider} {dto : UpdateVpsProviderDto}
    {policy : Option EvolutionProviderUpdate} : ReadOnly (assertDestination env current dto policy) := by
  refine ReadOnly.get.bind fun db => ?_
  refine (ReadOnly.doWhen assertEvolutionUnused_readOnly).bind fun _ => ?_
  refine (ReadOnly.doWhen assertEvolutionUnused_readOnly).bind fun _ => ReadOnly.throwWhen.bind fun _ => ?_
  exact ReadOnly.whenSome fun _ => assertEndpointAvailable_readOnly.bind fun _ => ReadOnly.pure _

/-- The checks of an edit on its policy fields only read. -/
theorem assertPolicy_readOnly {env : Env} {now : Instant} {current : VpsProvider}
    {dto : UpdateVpsProviderDto} {policy : EvolutionProviderUpdate} :
    ReadOnly (assertPolicy env now current dto policy) := by
  refine ReadOnly.get.bind fun db => ReadOnly.throwWhen.bind fun _ => ?_
  refine (ReadOnly.doWhen ?_).bind fun _ => (ReadOnly.doWhen ?_).bind fun _ => ReadOnly.doWhen ?_
  · exact ReadOnly.throwWhen.bind fun _ => assertEndpointAvailable_readOnly.bind fun _ => ReadOnly.pure _
  · exact assertEndpointAvailable_readOnly.bind fun _ => ReadOnly.pure _
  · exact (ReadOnly.get.bind fun _ => ReadOnly.throwWhen).bind fun _ => ReadOnly.throwWhen

/-- An edit that succeeded changed its provider's configuration, and counted itself. -/
theorem updateRecord_ok {env : Env} {now : Instant} {vpsId id : Uuid} {dto : UpdateVpsProviderDto}
    {policy : Option EvolutionProviderUpdate} {db : Database} {r : VpsProvider × Database}
    (h : (updateRecord env now vpsId id dto policy).run db = .ok r) :
    ∃ current, db.providers.find? id = some current ∧
      r.2 = db.updateProvider id (·.edited env dto policy (changesDestination current dto policy)) := by
  rw [updateRecord, lockProvider_bind_ok] at h
  obtain ⟨current, hcurrent, h⟩ := h
  refine ⟨current, hcurrent, ?_⟩
  rw [throwWhen_bind_ok] at h
  obtain ⟨-, h⟩ := h
  obtain ⟨_, h⟩ := (ReadOnly.whenSome fun _ => ReadOnly.throwWhen).bind_ok h
  obtain ⟨_, h⟩ := assertDestination_readOnly.bind_ok h
  obtain ⟨_, h⟩ := (ReadOnly.whenSome fun _ => assertPolicy_readOnly).bind_ok h
  rw [modify_bind_ok, pure_ok] at h
  rw [h]

end ConnectHub
