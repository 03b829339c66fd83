import ConnectHub.Links

/-!
# Products

Creating and editing a product. Whenever a product names a default provider, the same transaction makes sure
that the link to it exists.
-/

namespace ConnectHub

open Store

/-- What a new product is made of. -/
structure CreateProductDto where
  name : String
  slug : String
  adapterType : Option String := none
  origins : Option (List String) := none
  hubRelay : Option Bool := none
  vpsProviderId : Option Uuid := none
  batchWebhookEnabled : Option Bool := none
  batchWebhookUrl : Option String := none
deriving DecidableEq, Repr

/-- What is to change of a product; a nullable column may be cleared. -/
structure UpdateProductDto where
  name : Option String := none
  slug : Option String := none
  adapterType : Option String := none
  origins : Option (List String) := none
  hubRelay : Option Bool := none
  vpsProviderId : Option (Option Uuid) := none
  isActive : Option Bool := none
  batchWebhookEnabled : Option Bool := none
  batchWebhookUrl : Option (Option String) := none
deriving DecidableEq, Repr

/-- Refuse to announce batches to nowhere. -/
def validateBatchWebhook (enabled : Option Bool) (url : Option String) : Tx Unit :=
  throwWhen (enabled = some true ∧ truthy url = false)
    (.badRequest "batchWebhookUrl é obrigatório quando batchWebhookEnabled é true")

/-- The refusal of a default provider that does not exist. -/
def providerInvalid : HubError :=
  .unprocessable "vpsProviderId inválido: VpsProvider não encontrado"

/-- A new product. -/
def CreateProductDto.product (dto : CreateProductDto) (id : Uuid) (apiKeyHash : String) : Product where
  id := id
  name := dto.name
  slug := dto.slug
  apiKeyHash := apiKeyHash
  adapterType := dto.adapterType.getD "evolution"
  origins := dto.origins.getD []
  hubRelay := dto.hubRelay.getD false
  vpsProviderId := dto.vpsProviderId
  batchWebhookEnabled := dto.batchWebhookEnabled.getD false
  batchWebhookUrl := dto.batchWebhookUrl

/-- Make sure that the link to the default provider of a product exists. -/
def ensureDefaultLink (product : Product) (acceptingNewInstances : Bool) : Tx Unit :=
  match product.vpsProviderId with
  | some vpsProviderId => ensureEvolutionLink product.id vpsProviderId acceptingNewInstances
  | none => pure ()

/-- Create a product under a key that was drawn for it. -/
def createProduct (dto : CreateProductDto) (id : Uuid) (apiKeyHash : String) : Tx Product := do
  validateBatchWebhook dto.batchWebhookEnabled dto.batchWebhookUrl
  let db ← get
  throwWhen (db.products.rows.any (fun p => p.slug = dto.slug || p.apiKeyHash = apiKeyHash) = true)
    (.conflict "A product with this slug already exists")
  throwWhen (dto.vpsProviderId.any (fun v => (db.providers.find? v).isNone) = true) providerInvalid
  let products ← orThrow .uniqueViolation (db.products.insert? (dto.product id apiKeyHash))
  set { db with products := products }
  ensureDefaultLink (dto.product id apiKeyHash) true
  pure (dto.product id apiKeyHash)

/-- The product once it was edited. -/
def Product.edited (dto : UpdateProductDto) (product : Product) : Product :=
  { product with
    name := dto.name.getD product.name
    slug := dto.slug.getD product.slug
    adapterType := dto.adapterType.getD product.adapterType
    origins := dto.origins.getD product.origins
    hubRelay := dto.hubRelay.getD product.hubRelay
    vpsProviderId := dto.vpsProviderId.getD product.vpsProviderId
    isActive := dto.isActive.getD product.isActive
    batchWebhookEnabled := dto.batchWebhookEnabled.getD product.batchWebhookEnabled
    batchWebhookUrl := dto.batchWebhookUrl.getD product.batchWebhookUrl
    allocationRevision := product.allocationRevision + 1 }

/-- Edit a product. -/
def updateProduct (id : Uuid) (dto : UpdateProductDto) : Tx Product := do
  validateBatchWebhook dto.batchWebhookEnabled dto.batchWebhookUrl.join
  let before ← get
  throwWhen (before.products.find? id = none) (.notFound ("Produto " ++ id.value ++ " não encontrado"))
  let current ← lockProduct id
  let db ← get
  throwWhen ([current.vpsProviderId, dto.vpsProviderId.join].any
    (·.any fun v => (db.providers.find? v).isNone) = true) providerInvalid
  throwWhen (db.products.rows.any (fun p => p.id ≠ id && some p.slug = dto.slug) = true) .uniqueViolation
  set (db.updateProduct id (·.edited dto))
  ensureDefaultLink (current.edited dto) (current.allocationMode = .legacy)
  pure (current.edited dto)

/-- Take a product out of use. -/
def deactivate (id : Uuid) : Tx Unit := do
  let db ← get
  throwWhen (db.products.find? id = none) (.notFound ("Produto " ++ id.value ++ " não encontrado"))
  set (db.updateProduct id ({ · with isActive := false }))

section Results

variable {db db' : Database} {product : Product} {id : Uuid}

/-- Making sure of the link to a default provider does so where there is one. -/
theorem ensureDefaultLink_ok {acceptingNewInstances : Bool} {r : Unit × Database}
    (h : (ensureDefaultLink product acceptingNewInstances).run db = .ok r) :
    (product.vpsProviderId = none ∧ r.2 = db) ∨ ∃ v, product.vpsProviderId = some v ∧
      r.2 = db.ensureLink { productId := product.id, vpsProviderId := v, acceptingNewInstances } := by
  unfold ensureDefaultLink at h
  cases hdefault : product.vpsProviderId with
  | none =>
    rw [hdefault] at h
    cases pure_ok.mp h
    exact Or.inl ⟨rfl, rfl⟩
  | some v =>
    rw [hdefault] at h
    cases modify_ok.mp h
    exact Or.inr ⟨v, rfl, rfl⟩

/-- A product was created with the link to its default. -/
theorem createProduct_ok {dto : CreateProductDto} {apiKeyHash : String}
    (h : (createProduct dto id apiKeyHash).run db = .ok (product, db')) :
    ∃ products, db.products.insert? (dto.product id apiKeyHash) = some products ∧
      (ensureDefaultLink (dto.product id apiKeyHash) true).run { db with products := products } =
        .ok ((), db') := by
  simp only [createProduct, validateBatchWebhook, throwWhen_bind_ok, get_bind_ok, orThrow_bind_ok,
    set_bind_ok] at h
  obtain ⟨-, -, -, products, hinserted, h⟩ := h
  obtain ⟨_, db₁, hensured, h⟩ := bind_ok.mp h
  cases pure_ok.mp h
  exact ⟨products, hinserted, hensured⟩

/-- A product was edited with the link to the default it is left with. -/
theorem updateProduct_ok {dto : UpdateProductDto}
    (h : (updateProduct id dto).run db = .ok (product, db')) :
    ∃ current, db.products.find? id = some current ∧
      (ensureDefaultLink (current.edited dto) (current.allocationMode = .legacy)).run
        (db.updateProduct id (·.edited dto)) = .ok ((), db') := by
  simp only [updateProduct, validateBatchWebhook, throwWhen_bind_ok, get_bind_ok, lockProduct_bind_ok,
    set_bind_ok] at h
  obtain ⟨-, -, current, hcurrent, -, -, h⟩ := h
  obtain ⟨_, db₁, hensured, h⟩ := bind_ok.mp h
  cases pure_ok.mp h
  exact ⟨current, hcurrent, hensured⟩

/-- A product was taken out of use. -/
theorem deactivate_ok (h : (deactivate id).run db = .ok ((), db')) :
    db' = db.updateProduct id ({ · with isActive := false }) := by
  simp only [deactivate, get_bind_ok, throwWhen_bind_ok, set_ok] at h
  exact congrArg Prod.snd h.2

end Results

end ConnectHub
