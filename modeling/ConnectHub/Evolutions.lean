import ConnectHub.Changes
import ConnectHub.Products

/-!
# The administration of links

Attaching a provider to a product, editing and detaching the link, and choosing the policy of the product.
Each transaction locks the product first and checks the revision its caller saw.
-/

namespace ConnectHub

open Store

/-- The product with one more revision of its allocation. -/
def Product.revised (product : Product) : Product :=
  { product with allocationRevision := product.allocationRevision + 1 }

/-- Attach a provider to a product by a link that is still closed. -/
def attach (productId vpsProviderId : Uuid) (expectedRevision : Nat) : Tx Unit := do
  let product ← lockProduct productId
  assertRevision product.allocationRevision expectedRevision
  let provider ← lockProvider vpsProviderId
  throwWhen (provider.isActive = false ∨ provider.adapterType ≠ product.adapterType)
    (.conflict "Provider inativo ou adapter incompatível")
  let db ← get
  match db.links.insert? { productId, vpsProviderId, acceptingNewInstances := false } with
  | some links => set ({ db with links := links }.updateProduct productId (·.revised))
  | none => pure ()

/-- The link of a product to a provider. -/
def findLink (productId vpsProviderId : Uuid) : Tx ProductEvolution := do
  let db ← get
  orThrow (.notFound "Evolution não vinculada ao produto") (db.links.find? (productId, vpsProviderId))

/-- What is to change of a link. -/
structure UpdateEvolutionLinkDto where
  expectedRevision : Nat
  allocationPriority : Option Nat := none
  acceptingNewInstances : Option Bool := none
deriving DecidableEq, Repr

/-- The link once it was updated. -/
def ProductEvolution.updated (dto : UpdateEvolutionLinkDto) (link : ProductEvolution) : ProductEvolution :=
  { link with
    allocationPriority := dto.allocationPriority.getD link.allocationPriority
    acceptingNewInstances := dto.acceptingNewInstances.getD link.acceptingNewInstances
    configurationRevision := link.configurationRevision + 1 }

/-- Edit a link. -/
def updateLink (productId vpsProviderId : Uuid) (dto : UpdateEvolutionLinkDto) : Tx Unit := do
  let _ ← lockProduct productId
  let _ ← lockProvider vpsProviderId
  let link ← findLink productId vpsProviderId
  assertRevision link.configurationRevision dto.expectedRevision
  modify fun db =>
    { db with
      links := db.links.modify (fun l => l.productId = productId && l.vpsProviderId = vpsProviderId)
        (·.updated dto) }
  modify (·.updateProduct productId (·.revised))

/-- Give up a link that nothing uses. -/
def detach (productId vpsProviderId : Uuid) (expectedRevision : Nat) : Tx Unit := do
  let product ← lockProduct productId
  let _ ← lockProvider vpsProviderId
  let link ← findLink productId vpsProviderId
  assertRevision link.configurationRevision expectedRevision
  detachEmptyLink product vpsProviderId
  modify (·.updateProduct productId (·.revised))

/-- The policy a product is to follow. -/
structure AllocationDto where
  expectedRevision : Nat
  mode : AllocationMode
  writersCompatible : Bool := false
deriving DecidableEq, Repr

/-- The product under another policy. -/
def Product.redirected (mode : AllocationMode) (product : Product) : Product :=
  { product.revised with allocationMode := mode }

/-- Refuse the capacity policy until the writers are confirmed and the product is ready for it. -/
def assertDistributable (env : Env) (now : Instant) (product : Product) (dto : AllocationDto) : Tx Unit := do
  assertWritersCompatible dto.writersCompatible
  let readiness ← allocationView env now product
  throwWhen (readiness.ready = false)
    (.blocked "Produto ainda não preparado para distribuição" readiness.blockers)

/-- Refuse the legacy policy until everything the product has is at its default provider. -/
def assertRestorable (product : Product) : Tx Unit := do
  let targetId ← orThrow (.conflict "Escolha um destino padrão") product.vpsProviderId
  let db ← get
  assertNoBlockers (db.legacyBlockers product targetId)

/-- Choose the policy of a product. -/
def setAllocation (env : Env) (now : Instant) (productId : Uuid) (dto : AllocationDto) : Tx Unit := do
  let product ← lockProduct productId
  assertRevision product.allocationRevision dto.expectedRevision
  if dto.mode = product.allocationMode then pure ()
  else do
    let db ← get
    throwWhen ((db.linksOf productId).any (fun link => (db.providers.find? link.vpsProviderId).isNone) = true)
      (.notFound "VpsProvider não encontrado")
    if dto.mode = .capacity then assertDistributable env now product dto
    else assertRestorable product
    modify (·.updateProduct productId (·.redirected dto.mode))

/-- The operations an administrator has on products and their links. -/
inductive AdminOperation
  | createProduct (dto : CreateProductDto) (id : Uuid) (apiKeyHash : String)
  | updateProduct (id : Uuid) (dto : UpdateProductDto)
  | deactivate (id : Uuid)
  | attach (productId vpsProviderId : Uuid) (expectedRevision : Nat)
  | updateLink (productId vpsProviderId : Uuid) (dto : UpdateEvolutionLinkDto)
  | detach (productId vpsProviderId : Uuid) (expectedRevision : Nat)
  | setAllocation (now : Instant) (productId : Uuid) (dto : AllocationDto)
  | apply (now : Instant) (productId id : Uuid) (revision : Nat) (actor : String)
deriving DecidableEq, Repr

/-- The transaction of such an operation. -/
def AdminOperation.perform (env : Env) : AdminOperation → Tx Unit
  | .createProduct dto id apiKeyHash => do
    let _ ← ConnectHub.createProduct dto id apiKeyHash
    pure ()
  | .updateProduct id dto => do
    let _ ← ConnectHub.updateProduct id dto
    pure ()
  | .deactivate id => ConnectHub.deactivate id
  | .attach productId vpsProviderId expectedRevision =>
    ConnectHub.attach productId vpsProviderId expectedRevision
  | .updateLink productId vpsProviderId dto => ConnectHub.updateLink productId vpsProviderId dto
  | .detach productId vpsProviderId expectedRevision =>
    ConnectHub.detach productId vpsProviderId expectedRevision
  | .setAllocation now productId dto => ConnectHub.setAllocation env now productId dto
  | .apply now productId id revision actor => do
    let _ ← ConnectHub.apply env now productId id revision actor
    pure ()

section Results

variable {env : Env} {now : Instant} {db db' : Database} {product : Product} {p v : Uuid}

/-- A provider was attached by one more link, or was attached already. -/
theorem attach_ok {expectedRevision : Nat} (h : (attach p v expectedRevision).run db = .ok ((), db')) :
    db' = db ∨ ∃ links,
      db.links.insert? { productId := p, vpsProviderId := v, acceptingNewInstances := false } = some links ∧
        db' = { db with links := links }.updateProduct p (·.revised) := by
  simp only [attach, lockProduct_bind_ok, lockProvider_bind_ok, assertRevision, throwWhen_bind_ok,
    get_bind_ok] at h
  obtain ⟨_, -, -, _, -, -, h⟩ := h
  split at h
  · next links hinserted =>
    cases set_ok.mp h
    exact Or.inr ⟨links, hinserted, rfl⟩
  · cases pure_ok.mp h
    exact Or.inl rfl

/-- A link was edited. -/
theorem updateLink_ok {dto : UpdateEvolutionLinkDto} (h : (updateLink p v dto).run db = .ok ((), db')) :
    db' = ({ db with
      links := db.links.modify (fun l => l.productId = p && l.vpsProviderId = v)
        (·.updated dto) } : Database).updateProduct p (·.revised) := by
  simp only [updateLink, lockProduct_bind_ok, lockProvider_bind_ok, findLink, bind_assoc, get_bind_ok,
    orThrow_bind_ok, assertRevision, throwWhen_bind_ok, modify_bind_ok, modify_ok] at h
  obtain ⟨_, -, _, -, _, -, -, h⟩ := h
  exact congrArg Prod.snd h

/-- A link was given up, and nothing spoke against it. -/
theorem detachEmptyLink_ok (h : (detachEmptyLink product v).run db = .ok ((), db')) :
    db.detachBlockers product v = [] ∧ db' = db.deleteLink product.id v := by
  simp only [detachEmptyLink, get_bind_ok, assertNoBlockers, throwWhen_bind_ok, set_ok, not_not] at h
  exact ⟨h.1, congrArg Prod.snd h.2.2⟩

/-- A link was detached. -/
theorem detach_ok {expectedRevision : Nat} (h : (detach p v expectedRevision).run db = .ok ((), db')) :
    ∃ product, db.products.find? p = some product ∧ db.detachBlockers product v = [] ∧
      db' = (db.deleteLink product.id v).updateProduct p (·.revised) := by
  simp only [detach, lockProduct_bind_ok, lockProvider_bind_ok, findLink, bind_assoc, get_bind_ok,
    orThrow_bind_ok, assertRevision, throwWhen_bind_ok] at h
  obtain ⟨product, hproduct, _, -, _, -, -, h⟩ := h
  obtain ⟨_, db₁, hdetached, h⟩ := bind_ok.mp h
  cases modify_ok.mp h
  obtain ⟨hnone, rfl⟩ := detachEmptyLink_ok hdetached
  exact ⟨product, hproduct, hnone, rfl⟩

/-- Refusing the capacity policy only reads. -/
theorem assertDistributable_readOnly {dto : AllocationDto} :
    ReadOnly (assertDistributable env now product dto) := by
  have hwriters : ReadOnly (assertWritersCompatible dto.writersCompatible) :=
    ReadOnly.get.bind fun _ => ReadOnly.throwWhen
  have hview : ReadOnly (allocationView env now product) :=
    ReadOnly.get.bind fun _ => ReadOnly.throwWhen.bind fun _ => ReadOnly.pure _
  exact hwriters.bind fun _ => hview.bind fun _ => ReadOnly.throwWhen

/-- Refusing the legacy policy only reads. -/
theorem assertRestorable_readOnly : ReadOnly (assertRestorable product) :=
  ReadOnly.orThrow.bind fun _ => ReadOnly.get.bind fun _ => ReadOnly.throwWhen

/-- A policy was chosen, or was followed already. -/
theorem setAllocation_ok {dto : AllocationDto} (h : (setAllocation env now p dto).run db = .ok ((), db')) :
    db' = db ∨ db' = db.updateProduct p (·.redirected dto.mode) := by
  simp only [setAllocation, lockProduct_bind_ok, assertRevision, throwWhen_bind_ok] at h
  obtain ⟨product, -, -, h⟩ := h
  split at h
  · cases pure_ok.mp h
    exact Or.inl rfl
  · simp only [get_bind_ok, throwWhen_bind_ok] at h
    obtain ⟨-, h⟩ := h
    right
    split at h
    · obtain ⟨_, h⟩ := assertDistributable_readOnly.bind_ok h
      exact congrArg Prod.snd (modify_ok.mp h)
    · obtain ⟨_, h⟩ := assertRestorable_readOnly.bind_ok h
      exact congrArg Prod.snd (modify_ok.mp h)

end Results

end ConnectHub
