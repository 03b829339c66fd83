import ConnectHub.Records

/-!
# Links and linked instances

The two writers that attach an existing session to a product: the manual link and the import of
a session observed remotely. Both lock the product and then the provider, and both refuse a name
that an open creation holds.
-/

namespace ConnectHub

open Store

/-- The database with a link, unless the product already has one to the provider. -/
def Database.ensureLink (db : Database) (link : ProductEvolution) : Database :=
  { db with links := (db.links.insert? link).getD db.links }

/-- Create the link of a product to a provider unless it exists. -/
def ensureEvolutionLink (productId vpsProviderId : Uuid) (acceptingNewInstances : Bool) : Tx Unit :=
  modify (·.ensureLink { productId, vpsProviderId, acceptingNewInstances })

/-- The open creation that holds a name, for the product or on the provider. -/
def Database.openNamed (db : Database) (productId vpsProviderId : Uuid) (instanceName : String) :
    Option InstanceProvisioning :=
  db.provisionings.rows.find? fun r => r.isOpen && r.instanceName = instanceName &&
    (r.productId = productId || r.vpsProviderId = vpsProviderId)

/-- Attach an instance to a product by hand. -/
def createLinkedInstance (data : Instance) : Tx Instance := do
  let product ← lockProduct data.productId
  let _ ← lockProvider data.vpsProviderId
  let db ← get
  throwWhen ((db.openNamed data.productId data.vpsProviderId data.instanceName).isSome = true)
    (.conflict "Instância ainda em provisionamento")
  ensureEvolutionLink data.productId data.vpsProviderId
    (product.allocationMode = .legacy && product.vpsProviderId = some data.vpsProviderId)
  let item ← createInstance data
  advanceOccupancy data.vpsProviderId
  pure item

/-- The provider columns an import was prepared against. -/
structure ImportSource where
  providerUrl : String
  providerApiKey : String
  configurationRevision : Nat
deriving DecidableEq, Repr

/-- The columns of a provider an import is prepared against. -/
def VpsProvider.importSource (provider : VpsProvider) : ImportSource :=
  ⟨provider.providerUrl, provider.providerApiKey, provider.configurationRevision⟩

/-- The provider an import is prepared against, which is read outside its transaction. -/
def importProvider (id : Uuid) : Tx VpsProvider := do
  let db ← get
  let provider ← orThrow (.notFound "VpsProvider nao encontrado ou inativo")
    ((db.providers.find? id).filter (·.isActive))
  throwWhen (provider.adapterType ≠ "evolution") (.badRequest "Origem não é Evolution")
  pure provider

/-- Whether an import created its instance or found it already assigned. -/
inductive ImportOutcome
  | created
  | skipped
deriving DecidableEq, Repr

/-- The open creation an imported session could belong to: by name for the product or on the
provider, or by remote id on the provider. -/
def Database.openForImport (db : Database) (data : Instance) : Option InstanceProvisioning :=
  db.provisionings.rows.find? fun r => r.isOpen &&
    ((r.productId = data.productId && r.instanceName = data.instanceName) ||
      (r.vpsProviderId = data.vpsProviderId && r.instanceName = data.instanceName) ||
      (truthy data.providerInstanceId && r.vpsProviderId = data.vpsProviderId &&
        r.providerInstanceId = data.providerInstanceId))

/-- The instances an imported session could already be. -/
def Database.instancesForImport (db : Database) (data : Instance) : List Instance :=
  db.instances.rows.filter fun i =>
    (i.productId = data.productId && i.instanceName = data.instanceName) ||
    (i.vpsProviderId = data.vpsProviderId && i.instanceName = data.instanceName) ||
    (i.vpsProviderId = data.vpsProviderId && i.providerInstanceId = data.providerInstanceId)

/-- Assign an observed session to a product; no remote session is created. -/
def importLinkedInstance (data : Instance) (source : ImportSource) : Tx (ImportOutcome × Instance) := do
  let product ← lockProduct data.productId
  let provider ← lockProvider data.vpsProviderId
  throwWhen (product.isActive = false) (.badRequest "Produto inativo")
  throwWhen (provider.providerUrl ≠ source.providerUrl ∨ provider.providerApiKey ≠ source.providerApiKey ∨
      provider.configurationRevision ≠ source.configurationRevision)
    (.conflict "Origem alterada durante a consulta; consulte novamente")
  let db ← get
  throwWhen (db.links.find? (data.productId, data.vpsProviderId) = none)
    (.badRequest "Provider não vinculado ao produto")
  throwWhen ((db.openForImport data).isSome = true) (.conflict "Instância ainda em provisionamento")
  match db.instancesForImport data with
  | [] =>
    let item ← createInstance data
    advanceOccupancy data.vpsProviderId
    pure (.created, item)
  | [item] =>
    throwWhen (item.productId ≠ data.productId ∨ item.vpsProviderId ≠ data.vpsProviderId ∨
        item.instanceName ≠ data.instanceName ∨ item.providerInstanceId ≠ data.providerInstanceId)
      (.conflict "Sessão já atribuída ou identidade em conflito")
    pure (.skipped, item)
  | _ :: _ :: _ => throw (.conflict "Sessão já atribuída ou identidade em conflito")

end ConnectHub
