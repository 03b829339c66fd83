import ConnectHub.Provisioning

/-!
# What the provisioning transactions do

The transactions that change a provider's occupancy are the operations of one state machine.
`Effect` says everything an operation that succeeded can have done: which rows it found, which
guards held, the database it left and what its caller learnt. The invariants are derived from
`Effect` and never unfold a transaction.
-/

namespace ConnectHub

open Store

/-- What a provider has to satisfy when it has a limit or is used under the capacity policy. -/
structure AdmitsControlled (env : Env) (now : Instant) (db : Database) (product : Product)
    (provider : VpsProvider) (ownReservation : Bool) : Prop where
  identity : identityUnverified env provider = false
  alone : db.endpointAliases env provider.providerUrl (some provider.id) = []
  vps : db.vpsActive provider = true
  fresh : isFresh env now provider = true
  callback : product.allocationMode = .capacity → product.hubRelay = true →
    provider.callbackReadiness = .ready
  unambiguous : (db.readOccupancy provider.id).ambiguous = false
  room : ∀ maxInstances, provider.maxInstances = some maxInstances →
    (db.readOccupancy provider.id).effective + (if ownReservation then 0 else 1) ≤ maxInstances

/-- What a product and a provider have to satisfy for the provider to admit a creation. -/
structure Admits (env : Env) (now : Instant) (db : Database) (product : Product)
    (provider : VpsProvider) (ownReservation : Bool) : Prop where
  productActive : product.isActive = true
  destination : product.allocationMode ≠ .capacity → product.vpsProviderId = some provider.id
  enabled : product.allocationMode = .capacity → env.config.evolutionAllocationEnabled = true
  providerActive : provider.isActive = true
  adapter : provider.adapterType = product.adapterType
  providerAccepts : provider.acceptingNewInstances = true
  linkAccepts : (db.links.find? (product.id, provider.id)).any (·.acceptingNewInstances) = true
  controlled : product.allocationMode = .capacity ∨ provider.maxInstances ≠ none →
    AdmitsControlled env now db product provider ownReservation

/-- The database admission judges: the legacy policy creates its link first. -/
def Database.admissionBase (db : Database) (product : Product) (providerId : Uuid) : Database :=
  if product.allocationMode ≠ .capacity then
    db.ensureLink { productId := product.id, vpsProviderId := providerId, acceptingNewInstances := true }
  else db

/-- Admission prepares nothing but links. -/
theorem admissionBase_eq (db : Database) (product : Product) (providerId : Uuid) :
    ∃ links, db.admissionBase product providerId = { db with links := links } := by
  unfold Database.admissionBase
  split
  · exact ⟨_, rfl⟩
  · exact ⟨db.links, rfl⟩

section AdmissionBase

variable (db : Database) (product : Product) (providerId : Uuid)

@[simp] theorem admissionBase_products :
    (db.admissionBase product providerId).products = db.products := by
  unfold Database.admissionBase
  split <;> rfl

@[simp] theorem admissionBase_providers :
    (db.admissionBase product providerId).providers = db.providers := by
  unfold Database.admissionBase
  split <;> rfl

@[simp] theorem admissionBase_instances :
    (db.admissionBase product providerId).instances = db.instances := by
  unfold Database.admissionBase
  split <;> rfl

@[simp] theorem admissionBase_provisionings :
    (db.admissionBase product providerId).provisionings = db.provisionings := by
  unfold Database.admissionBase
  split <;> rfl

@[simp] theorem admissionBase_inventory :
    (db.admissionBase product providerId).inventory = db.inventory := by
  unfold Database.admissionBase
  split <;> rfl

@[simp] theorem admissionBase_reconciliations :
    (db.admissionBase product providerId).reconciliations = db.reconciliations := by
  unfold Database.admissionBase
  split <;> rfl

end AdmissionBase

section Guards

variable {env : Env} {now : Instant} {db : Database} {ticket : ProvisioningTicket}

/-- A body that needs a verified identity first went on for one that is verified and unique. -/
theorem assertControlledIdentity_bind_ok {β : Type} {provider : VpsProvider} {f : Unit → Tx β}
    {r : β × Database} : (assertControlledIdentity env provider >>= f).run db = .ok r ↔
      (identityUnverified env provider = false ∧
        db.endpointAliases env provider.providerUrl (some provider.id) = []) ∧
        (f ()).run db = .ok r := by
  simp only [assertControlledIdentity, bind_assoc, get_bind_ok, orThrow_bind_ok, throwWhen_bind_ok,
    identityUnverified, Database.endpointAliases]
  cases canonicalEvolutionEndpoint env provider.providerUrl with
  | none => simp
  | some canonical =>
    simp [List.filter_eq_nil_iff, and_assoc, not_or, eq_comm (a := provider.id)]

/-- Admission of a controlled provider succeeded exactly under its conditions. -/
theorem admitControlled_ok {product : Product} {provider : VpsProvider} {own : Bool}
    {r : Unit × Database} (hp : db.providers.find? provider.id = some provider) :
    (admitControlled env now product provider own).run db = .ok r ↔
      AdmitsControlled env now db product provider own ∧ r = ((), db) := by
  simp only [admitControlled, assertControlledIdentity_bind_ok, get_bind_ok, throwWhen_bind_ok,
    readEvolutionOccupancy_bind_ok, throwWhen_ok, hp]
  constructor
  · rintro ⟨⟨hid, halone⟩, hfresh, hcall, -, hroom, rfl⟩
    simp only [not_or, Bool.not_eq_true, Bool.not_eq_false] at hfresh hroom
    refine ⟨⟨hid, halone, hfresh.1, hfresh.2, fun hc hr => ?_, hroom.1, fun m hm => ?_⟩, rfl⟩
    · by_contra hne
      exact hcall ⟨hc, hr, hne⟩
    · simpa [hm] using hroom.2
  · rintro ⟨h, rfl⟩
    refine ⟨⟨h.identity, h.alone⟩, ?_, fun hc => hc.2.2 (h.callback hc.1 hc.2.1), by simp, ?_, rfl⟩
    · simp [h.vps, h.fresh]
    · cases hm : provider.maxInstances with
      | none => simp [h.unambiguous]
      | some m => simpa [h.unambiguous] using h.room m hm

/-- The link of the legacy policy is created before the rest of admission runs. -/
theorem ensureLegacyLink_bind_ok {β : Type} {product : Product} {providerId : Uuid} {f : Unit → Tx β}
    {r : β × Database} :
    (doWhen (product.allocationMode ≠ .capacity) (ensureEvolutionLink product.id providerId true) >>=
      f).run db = .ok r ↔ (f ()).run (db.admissionBase product providerId) = .ok r := by
  unfold doWhen Database.admissionBase ensureEvolutionLink
  split
  · rw [modify_bind_ok]
  · rw [pure_bind]

/-- The conditions of a controlled provider are asked for exactly where they apply. -/
theorem admitWhenControlled_bind_ok {β : Type} {product : Product} {provider : VpsProvider} {own : Bool}
    {f : Unit → Tx β} {r : β × Database} (hp : db.providers.find? provider.id = some provider) :
    (doWhen (product.allocationMode = .capacity ∨ provider.maxInstances ≠ none)
      (admitControlled env now product provider own) >>= f).run db = .ok r ↔
      (product.allocationMode = .capacity ∨ provider.maxInstances ≠ none →
        AdmitsControlled env now db product provider own) ∧ (f ()).run db = .ok r := by
  simp only [bind_ok, doWhen_ok, admitControlled_ok hp]
  constructor
  · rintro ⟨_, _, ⟨_, hadm, heq⟩ | ⟨hnot, heq⟩, hf⟩
    · cases heq
      exact ⟨fun _ => hadm, hf⟩
    · cases heq
      exact ⟨fun hc => absurd hc hnot, hf⟩
  · rintro ⟨hadm, hf⟩
    by_cases hc : product.allocationMode = .capacity ∨ provider.maxInstances ≠ none
    · exact ⟨(), db, Or.inl ⟨hc, hadm hc, rfl⟩, hf⟩
    · exact ⟨(), db, Or.inr ⟨hc, rfl⟩, hf⟩

/-- Admission succeeded exactly for an existing pair that satisfies its conditions. -/
theorem admission_ok {productId providerId : Uuid} {own : Bool} {r : (Product × VpsProvider) × Database} :
    (admission env now productId providerId own).run db = .ok r ↔
      ∃ product provider, db.products.find? productId = some product ∧
        db.providers.find? providerId = some provider ∧
        Admits env now (db.admissionBase product providerId) product provider own ∧
        r = ((product, provider), db.admissionBase product providerId) := by
  simp only [admission, lockProduct_bind_ok, lockProvider_bind_ok, throwWhen_bind_ok]
  refine exists_congr fun product => ?_
  rw [← exists_and_left]
  refine exists_congr fun provider => ?_
  refine and_congr_right fun hproduct => and_congr_right fun hprovider => ?_
  have hproductId : product.id = productId := (Table.find?_eq_some.mp hproduct).2
  have hproviderId : provider.id = providerId := (Table.find?_eq_some.mp hprovider).2
  subst hproductId hproviderId
  have hbase : (db.admissionBase product provider.id).providers.find? provider.id = some provider := by
    obtain ⟨links, hlinks⟩ := admissionBase_eq db product provider.id
    rw [hlinks]
    exact hprovider
  change _ ∧ _ ∧ _ ∧ _ ∧ _ ∧ _ ∧ _ ∧
    StateT.run (doWhen _ (ensureEvolutionLink product.id _ _) >>= _) db = _ ↔ _
  rw [ensureLegacyLink_bind_ok, get_bind_ok, throwWhen_bind_ok, admitWhenControlled_bind_ok hbase, pure_ok]
  constructor
  · rintro ⟨hactive, -, hdest, henabled, -, hprov, hadapter, haccept, hctl, rfl⟩
    simp only [not_or, Bool.not_eq_false] at haccept
    exact ⟨⟨by simpa using hactive, fun hc => by simpa [hc] using hdest,
      fun hc => by simpa [hc] using henabled, by simpa using hprov, by simpa using hadapter, haccept.1,
        haccept.2, hctl⟩, rfl⟩
  · rintro ⟨h, rfl⟩
    refine ⟨by simp [h.productActive], fun hc => ?_, fun hc => hc.2 (h.destination hc.1), ?_,
      by simp [h.providerActive], by simp [h.providerActive], by simp [h.adapter], ?_, h.controlled, rfl⟩
    · rw [h.destination hc.1] at hc
      exact absurd hc.2 (by simp)
    · rintro ⟨hc, hoff⟩
      simp [h.enabled hc] at hoff
    · have hlink := h.linkAccepts
      simp only [h.providerAccepts, Bool.true_eq_false, false_or, Bool.not_eq_false]
      exact hlink

/-- The row of a ticket that still owns it. -/
structure Database.Owns (db : Database) (ticket : ProvisioningTicket)
    (row : InstanceProvisioning) : Prop where
  found : db.provisionings.find? ticket.id = some row
  owner : row.leaseOwner = ticket.leaseOwner
  isOpen : row.isOpen = true

/-- The row a ticket owns carries the ticket's id. -/
theorem Database.Owns.id_eq {row : InstanceProvisioning} (h : db.Owns ticket row) : row.id = ticket.id :=
  (Table.find?_eq_some.mp h.found).2

/-- A body that needs its row first went on with a row it owns. -/
theorem owned_bind_ok {β : Type} {f : InstanceProvisioning → Tx β} {r : β × Database} :
    (owned ticket >>= f).run db = .ok r ↔ ∃ row, db.Owns ticket row ∧ (f row).run db = .ok r := by
  simp only [owned, bind_assoc, get_bind_ok, orThrow_bind_ok, throwWhen_bind_ok, pure_bind, not_or,
    ne_eq, not_not, Bool.not_eq_false]
  refine exists_congr fun row => ?_
  constructor
  · rintro ⟨hfound, ⟨howner, hopen⟩, hf⟩
    exact ⟨⟨hfound, howner, hopen⟩, hf⟩
  · rintro ⟨h, hf⟩
    exact ⟨h.found, ⟨h.owner, h.isOpen⟩, hf⟩

/-- A body that opens a sealed request first went on with a request that names its instance. -/
theorem decodePayload_bind_ok {β : Type} {value : Option (Sealed ProvisioningPayload)}
    {f : ProvisioningPayload → Tx β} {r : β × Database} :
    (decodePayload value >>= f).run db = .ok r ↔ ∃ payload, value = some ⟨some payload⟩ ∧
      (payload.token ≠ "" ∧ payload.request.instanceName ≠ "") ∧ (f payload).run db = .ok r := by
  match value with
  | none => simp only [decodePayload, throw_bind_ok, reduceCtorEq, false_and, exists_false]
  | some ⟨none⟩ =>
    simp only [decodePayload, throw_bind_ok, Option.some.injEq, Sealed.mk.injEq, reduceCtorEq, false_and,
      exists_false]
  | some ⟨some payload⟩ =>
    simp only [decodePayload, bind_assoc, throwWhen_bind_ok, pure_bind, not_or, Option.some.injEq,
      Sealed.mk.injEq, exists_eq_left', ne_eq]

end Guards

/-- The operations that create, follow and remove sessions. -/
inductive Operation
  | prepare (now : Instant) (execution : QrRequestContext) (productId providerId : Uuid)
      (seen : Preflight) (payload : ProvisioningPayload) (instanceName : String) (ticketId leaseOwner : Uuid)
  | markCreating (now : Instant) (execution : QrRequestContext) (ticket : ProvisioningTicket)
  | recordCreated (now : Instant) (ticket : ProvisioningTicket) (result : InstanceCreatedDto)
      (instanceId : Uuid)
  | markWebhookApplied (ticket : ProvisioningTicket)
  | finish (now : Instant) (ticket : ProvisioningTicket)
  | markCleanup (ticket : ProvisioningTicket)
  | abandon (now : Instant) (ticket : ProvisioningTicket)
  | claim (now : Instant) (execution : QrRequestContext) (id leaseOwner : Uuid)
  | removeConfirmed (instanceId productId providerId : Uuid) (ticket : Option ProvisioningTicket)
  | createLinked (data : Instance)
  | importLinked (data : Instance) (source : ImportSource)
deriving DecidableEq, Repr

/-- What the caller of an operation learnt from it. -/
structure Outcome where
  ticket : Option ProvisioningTicket := none
  instanceId : Option Uuid := none
deriving DecidableEq, Repr

/-- The transaction of an operation. -/
def perform (env : Env) : Operation → Tx Outcome
  | .prepare now execution productId providerId seen payload instanceName ticketId leaseOwner => do
    let result ← prepareReservation env now execution productId providerId seen payload instanceName
      ticketId leaseOwner
    pure { ticket := some result.1 }
  | .markCreating now execution ticket => do
    let _ ← markCreating env now execution ticket
    pure {}
  | .recordCreated now ticket result instanceId => do
    let item ← recordCreated now ticket result instanceId
    pure { instanceId := some item.id }
  | .markWebhookApplied ticket => do
    markWebhookApplied ticket
    pure {}
  | .finish now ticket => do
    finish now ticket
    pure {}
  | .markCleanup ticket => do
    markCleanup ticket
    pure {}
  | .abandon now ticket => do
    abandon env now ticket
    pure {}
  | .claim now execution id leaseOwner => do
    let row ← claim now execution id leaseOwner
    pure { ticket := row.map (·.ticket), instanceId := row.bind (·.instanceId) }
  | .removeConfirmed instanceId productId providerId ticket => do
    let _ ← removeConfirmed instanceId productId providerId ticket
    pure {}
  | .createLinked data => do
    let _ ← createLinkedInstance data
    pure {}
  | .importLinked data source => do
    let _ ← importLinkedInstance data source
    pure {}

/-- No instance of the product or on the provider has the name. -/
def Database.InstanceNameFree (db : Database) (productId providerId : Uuid) (name : String) : Prop :=
  ∀ i ∈ db.instances, i.instanceName = name → i.productId ≠ productId ∧ i.vpsProviderId ≠ providerId

/-- No open creation of the product or on the provider has the name. -/
def Database.OpenNameFree (db : Database) (productId providerId : Uuid) (name : String) : Prop :=
  ∀ r ∈ db.provisionings, r.isOpen = true → r.instanceName = name →
    r.productId ≠ productId ∧ r.vpsProviderId ≠ providerId

/-- The last inventory of the provider lists no session under the name. -/
def Database.InventoryNameFree (db : Database) (providerId : Uuid) (name : String) : Prop :=
  ∀ e ∈ db.inventory, e.vpsProviderId = providerId → e.instanceName ≠ name

/-- Whether an operation succeeds without doing anything when nothing is there to do. -/
def Operation.idles : Operation → Bool
  | .abandon .. | .claim .. | .removeConfirmed .. | .importLinked .. => true
  | _ => false

/-- Everything an operation that succeeded can have done. -/
inductive Effect (env : Env) (db : Database) : Operation → Outcome → Database → Prop
  | idle {op : Operation} (idles : op.idles = true) : Effect env db op {} db
  | prepared {now execution productId providerId seen payload instanceName ticketId leaseOwner product
        provider provisionings}
      (product_found : db.products.find? productId = some product)
      (provider_found : db.providers.find? providerId = some provider)
      (admits : Admits env now (db.admissionBase product providerId) product provider false)
      (instances_free : db.InstanceNameFree productId providerId instanceName)
      (open_free : db.OpenNameFree productId providerId instanceName)
      (inventory_free : db.InventoryNameFree providerId instanceName)
      (inserted : db.provisionings.insert? (reservation now execution productId providerId payload
        instanceName ticketId leaseOwner) = some provisionings) :
      Effect env db
        (.prepare now execution productId providerId seen payload instanceName ticketId leaseOwner)
        { ticket := some ⟨ticketId, productId, providerId, some leaseOwner⟩ }
        ({ db.admissionBase product providerId with
            provisionings := provisionings }.advanceOccupancy providerId)
  | sent {now execution ticket product provider row}
      (product_found : db.products.find? ticket.productId = some product)
      (provider_found : db.providers.find? ticket.vpsProviderId = some provider)
      (admits : Admits env now (db.admissionBase product ticket.vpsProviderId) product provider true)
      (owns : db.Owns ticket row) (reserved : row.state = .reserved)
      (running : leaseRunning now row.leaseExpiresAt = true) :
      Effect env db (.markCreating now execution ticket) {}
        ((db.admissionBase product ticket.vpsProviderId).updateProvisioning ticket.id (·.sent))
  | recordedAgain {now ticket result instanceId row item} (owns : db.Owns ticket row)
      (recorded : row.instanceId = some item.id) (present : item ∈ db.instances) :
      Effect env db (.recordCreated now ticket result instanceId) { instanceId := some item.id } db
  | recorded {now ticket result instanceId row payload instances} (owns : db.Owns ticket row)
      (payload_opened : row.encryptedRequest = some ⟨some payload⟩)
      (awaiting : row.state = .creating ∨ row.state = .uncertain) (unrecorded : row.instanceId = none)
      (distinct : db.instances.rows.any ((row.created now payload result instanceId).collides
        db.baseConsolidated) = false)
      (inserted : db.instances.insert? (row.created now payload result instanceId) = some instances)
      (provider_found : db.providers.find? row.vpsProviderId ≠ none) :
      Effect env db (.recordCreated now ticket result instanceId) { instanceId := some instanceId }
        (({ db with instances := instances }.updateProvisioning ticket.id
          (·.recorded instanceId result.instanceId)).advanceOccupancy row.vpsProviderId)
  | webhookMarked {ticket row payload} (owns : db.Owns ticket row)
      (payload_opened : row.encryptedRequest = some ⟨some payload⟩) :
      Effect env db (.markWebhookApplied ticket) {}
        (db.updateProvisioning ticket.id (·.webhookMarked payload))
  | finished {now ticket row payload} (owns : db.Owns ticket row)
      (payload_opened : row.encryptedRequest = some ⟨some payload⟩)
      (awaiting : row.state = .creating ∨ row.state = .uncertain)
      (recorded : row.instanceId ≠ none) (webhook : payload.webhookApplied = true)
      (provider_found : db.providers.find? row.vpsProviderId ≠ none) :
      Effect env db (.finish now ticket) {}
        (((db.updateProvisioning ticket.id (·.finished)).updateProduct row.productId
          (·.firstAllocated now) (Product.firstAllocated_id now)).advanceOccupancy row.vpsProviderId)
  | cleaning {ticket row} (owns : db.Owns ticket row) (unreserved : row.state ≠ .reserved) :
      Effect env db (.markCleanup ticket) {} (db.updateProvisioning ticket.id (·.cleaning))
  | abandoned {now ticket row} (owns : db.Owns ticket row)
      (provider_found : db.providers.find? row.vpsProviderId ≠ none) :
      Effect env db (.abandon now ticket) {}
        ((db.updateProvisioning ticket.id (·.abandoned env now)
          (InstanceProvisioning.abandoned_id env now)).advanceOccupancy row.vpsProviderId)
  | expired {now execution id leaseOwner row} (found : db.provisionings.find? id = some row)
      (ran_out : leaseRunning now row.leaseExpiresAt = false) (reserved : row.state = .reserved)
      (provider_found : db.providers.find? row.vpsProviderId ≠ none) :
      Effect env db (.claim now execution id leaseOwner) {}
        ((db.updateProvisioning id (·.expired)).advanceOccupancy row.vpsProviderId)
  | taken {now execution id leaseOwner row} (found : db.provisionings.find? id = some row)
      (ran_out : leaseRunning now row.leaseExpiresAt = false) (isOpen : row.isOpen = true)
      (unreserved : row.state ≠ .reserved) :
      Effect env db (.claim now execution id leaseOwner)
        { ticket := some ⟨row.id, row.productId, row.vpsProviderId, some leaseOwner⟩,
          instanceId := row.instanceId }
        (db.updateProvisioning id (·.taken now execution leaseOwner))
  | removedOwned {instanceId productId providerId ticket row item} (owns : db.Owns ticket row)
      (found : db.instances.find? instanceId = some item)
      (own : item.productId = productId ∧ item.vpsProviderId = providerId)
      (provider_found : db.providers.find? providerId ≠ none) :
      Effect env db (.removeConfirmed instanceId productId providerId (some ticket)) {}
        (((db.dropInstance item).updateProvisioning ticket.id (·.cleaned)).advanceOccupancy providerId)
  | removed {instanceId productId providerId item}
      (settled : ∀ r ∈ db.provisionings, r.instanceId = some instanceId → r.isOpen = false)
      (found : db.instances.find? instanceId = some item)
      (own : item.productId = productId ∧ item.vpsProviderId = providerId)
      (provider_found : db.providers.find? providerId ≠ none) :
      Effect env db (.removeConfirmed instanceId productId providerId none) {}
        ((db.dropInstance item).advanceOccupancy providerId)
  | linked {data : Instance} {links instances}
      (open_free : db.OpenNameFree data.productId data.vpsProviderId data.instanceName)
      (distinct : db.instances.rows.any (data.collides db.baseConsolidated) = false)
      (inserted : db.instances.insert? data = some instances)
      (provider_found : db.providers.find? data.vpsProviderId ≠ none) :
      Effect env db (.createLinked data) {}
        ({ db with links := links, instances := instances }.advanceOccupancy data.vpsProviderId)
  | imported {data : Instance} {source instances}
      (open_free : db.OpenNameFree data.productId data.vpsProviderId data.instanceName)
      (distinct : db.instances.rows.any (data.collides db.baseConsolidated) = false)
      (inserted : db.instances.insert? data = some instances)
      (provider_found : db.providers.find? data.vpsProviderId ≠ none) :
      Effect env db (.importLinked data source) {}
        ({ db with instances := instances }.advanceOccupancy data.vpsProviderId)

/-- No instance matched the name. -/
theorem instanceNameFree_of_any {db : Database} {productId providerId : Uuid} {name : String}
    (h : ¬(db.instances.rows.any fun i => i.instanceName = name &&
      (i.productId = productId || i.vpsProviderId = providerId)) = true) :
    db.InstanceNameFree productId providerId name := by
  intro i hi hname
  simp only [List.any_eq_true, not_exists, not_and, Bool.and_eq_true, Bool.or_eq_true,
    decide_eq_true_eq] at h
  exact ⟨fun hp => h i hi hname (Or.inl hp), fun hv => h i hi hname (Or.inr hv)⟩

/-- No open creation matched the name. -/
theorem openNameFree_of_openNamed {db : Database} {productId providerId : Uuid} {name : String}
    (h : ¬(db.openNamed productId providerId name).isSome = true) :
    db.OpenNameFree productId providerId name := by
  intro r hr hopen hname
  simp only [Database.openNamed, Bool.not_eq_true, Option.isSome_eq_false_iff, Option.isNone_iff_eq_none,
    List.find?_eq_none, Bool.and_eq_true, Bool.or_eq_true, decide_eq_true_eq] at h
  exact ⟨fun hp => h r hr ⟨⟨hopen, hname⟩, Or.inl hp⟩, fun hv => h r hr ⟨⟨hopen, hname⟩, Or.inr hv⟩⟩

/-- No inventory entry matched the name. -/
theorem inventoryNameFree_of_any {db : Database} {providerId : Uuid} {name : String}
    (h : ¬(db.inventory.rows.any fun e => e.vpsProviderId = providerId && e.instanceName = name) = true) :
    db.InventoryNameFree providerId name := by
  intro e he hv hname
  simp only [List.any_eq_true, not_exists, not_and, Bool.and_eq_true, decide_eq_true_eq] at h
  exact h e he hv hname

/-- A row awaiting confirmation is in one of the two states that say so. -/
theorem awaiting_of_not {row : InstanceProvisioning} (h : ¬(row.state ≠ .creating ∧ row.state ≠ .uncertain)) :
    row.state = .creating ∨ row.state = .uncertain := by
  by_contra hne
  exact h (not_or.mp hne)

section Effects

variable {env : Env} {db db' : Database} {outcome : Outcome} {now : Instant} {execution : QrRequestContext}
  {ticket : ProvisioningTicket}

/-- What reserving a creation did. -/
theorem prepare_effect {productId providerId : Uuid} {seen : Preflight} {payload : ProvisioningPayload}
    {instanceName : String} {ticketId leaseOwner : Uuid}
    (h : (perform env (.prepare now execution productId providerId seen payload instanceName ticketId
      leaseOwner)).run db = .ok (outcome, db')) :
    Effect env db (.prepare now execution productId providerId seen payload instanceName ticketId
      leaseOwner) outcome db' := by
  change (do
    let result ← prepareReservation env now execution productId providerId seen payload instanceName ticketId
      leaseOwner
    pure { ticket := some result.1 } : Tx Outcome).run db = _ at h
  simp only [prepareReservation, bind_assoc] at h
  obtain ⟨current, db₁, hadm, h⟩ := bind_ok.mp h
  obtain ⟨product, provider, hproduct, hprovider, hadmits, heq⟩ := admission_ok.mp hadm
  cases heq
  simp only [throwWhen_bind_ok, get_bind_ok, assertActive_bind_ok, createProvisioning_bind_ok,
    advanceOccupancy_bind_ok, pure_bind, pure_ok] at h
  obtain ⟨-, -, -, hfree, -, provisionings, hinsert, -, heq⟩ := h
  simp only [not_or] at hfree
  cases heq
  refine Effect.prepared hproduct hprovider hadmits ?_ ?_ ?_ ?_
  · simpa only [Database.InstanceNameFree, admissionBase_instances] using
      instanceNameFree_of_any hfree.1
  · simpa only [Database.OpenNameFree, admissionBase_provisionings] using
      openNameFree_of_openNamed hfree.2.1
  · simpa only [Database.InventoryNameFree, admissionBase_inventory] using
      inventoryNameFree_of_any hfree.2.2
  · simpa only [admissionBase_provisionings] using hinsert

/-- What authorising a remote create did. -/
theorem markCreating_effect
    (h : (perform env (.markCreating now execution ticket)).run db = .ok (outcome, db')) :
    Effect env db (.markCreating now execution ticket) outcome db' := by
  change (do let _ ← markCreating env now execution ticket; pure {} : Tx Outcome).run db = _ at h
  simp only [markCreating, bind_assoc] at h
  obtain ⟨current, db₁, hadm, h⟩ := bind_ok.mp h
  obtain ⟨product, provider, hproduct, hprovider, hadmits, heq⟩ := admission_ok.mp hadm
  cases heq
  simp only [owned_bind_ok, throwWhen_bind_ok, assertActive_bind_ok, get_bind_ok, set_bind_ok, pure_bind,
    pure_ok, not_or, ne_eq, not_not, Bool.not_eq_false] at h
  obtain ⟨row, howns, -, ⟨hreserved, hrunning⟩, heq⟩ := h
  rw [howns.id_eq] at heq
  cases heq
  refine Effect.sent hproduct hprovider hadmits ⟨?_, howns.owner, howns.isOpen⟩ hreserved hrunning
  simpa only [admissionBase_provisionings] using howns.found

/-- What recording a confirmed create did. -/
theorem recordCreated_effect {result : InstanceCreatedDto} {instanceId : Uuid}
    (h : (perform env (.recordCreated now ticket result instanceId)).run db = .ok (outcome, db')) :
    Effect env db (.recordCreated now ticket result instanceId) outcome db' := by
  change (do
    let item ← recordCreated now ticket result instanceId
    pure { instanceId := some item.id } : Tx Outcome).run db = _ at h
  simp only [recordCreated, bind_assoc, lockProduct_bind_ok, lockProvider_bind_ok, owned_bind_ok,
    decodePayload_bind_ok, throwWhen_bind_ok] at h
  obtain ⟨_, _, _, _, row, howns, payload, hpayload, -, hawaiting, h⟩ := h
  cases hrecorded : row.instanceId with
  | some recorded =>
    simp only [hrecorded, bind_assoc, get_bind_ok, orThrow_bind_ok, pure_ok] at h
    obtain ⟨item, hitem, heq⟩ := h
    obtain ⟨hpresent, hid : item.id = recorded⟩ := Table.find?_eq_some.mp hitem
    cases heq
    exact Effect.recordedAgain howns (hid ▸ hrecorded) hpresent
  | none =>
    simp only [hrecorded, bind_assoc, get_bind_ok, set_bind_ok, createInstance_bind_ok,
      advanceOccupancy_bind_ok, pure_bind, pure_ok] at h
    obtain ⟨hdistinct, instances, hinserted, hfound, heq⟩ := h
    rw [howns.id_eq] at heq
    cases heq
    exact Effect.recorded howns hpayload (awaiting_of_not hawaiting) hrecorded hdistinct hinserted hfound

/-- What remembering the webhook did. -/
theorem markWebhookApplied_effect
    (h : (perform env (.markWebhookApplied ticket)).run db = .ok (outcome, db')) :
    Effect env db (.markWebhookApplied ticket) outcome db' := by
  change (do markWebhookApplied ticket; pure {} : Tx Outcome).run db = _ at h
  simp only [markWebhookApplied, bind_assoc, lockProvider_bind_ok, owned_bind_ok,
    decodePayload_bind_ok, get_bind_ok, set_bind_ok, pure_ok] at h
  obtain ⟨_, _, row, howns, payload, hpayload, -, heq⟩ := h
  rw [howns.id_eq] at heq
  cases heq
  exact Effect.webhookMarked howns hpayload

/-- What closing a confirmed creation did. -/
theorem finish_effect (h : (perform env (.finish now ticket)).run db = .ok (outcome, db')) :
    Effect env db (.finish now ticket) outcome db' := by
  change (do finish now ticket; pure {} : Tx Outcome).run db = _ at h
  simp only [finish, bind_assoc, lockProduct_bind_ok, lockProvider_bind_ok, owned_bind_ok,
    decodePayload_bind_ok, throwWhen_bind_ok, get_bind_ok, set_bind_ok, advanceOccupancy_bind_ok,
    pure_ok, Bool.not_eq_false] at h
  obtain ⟨_, _, _, _, row, howns, hconfirmed, payload, hpayload, -, hwebhook, hfound, heq⟩ := h
  simp only [not_or] at hconfirmed
  rw [howns.id_eq] at heq
  cases heq
  exact Effect.finished howns hpayload (awaiting_of_not hconfirmed.1) hconfirmed.2 hwebhook hfound

/-- What starting a compensation did. -/
theorem markCleanup_effect (h : (perform env (.markCleanup ticket)).run db = .ok (outcome, db')) :
    Effect env db (.markCleanup ticket) outcome db' := by
  change (do markCleanup ticket; pure {} : Tx Outcome).run db = _ at h
  simp only [markCleanup, bind_assoc, lockProvider_bind_ok, owned_bind_ok, throwWhen_bind_ok,
    get_bind_ok, set_bind_ok, pure_ok] at h
  obtain ⟨_, _, row, howns, hstate, heq⟩ := h
  rw [howns.id_eq] at heq
  cases heq
  refine Effect.cleaning howns fun hreserved => hstate ?_
  simp [hreserved]

/-- What giving a row up did. -/
theorem abandon_effect (h : (perform env (.abandon now ticket)).run db = .ok (outcome, db')) :
    Effect env db (.abandon now ticket) outcome db' := by
  change (do abandon env now ticket; pure {} : Tx Outcome).run db = _ at h
  simp only [abandon, bind_assoc, lockProvider_bind_ok, get_bind_ok] at h
  obtain ⟨_, _, h⟩ := h
  cases hfound : db.provisionings.find? ticket.id with
  | none =>
    simp only [hfound, pure_bind, pure_ok] at h
    cases h
    exact Effect.idle rfl
  | some row =>
    simp only [hfound] at h
    split at h
    · simp only [pure_bind, pure_ok] at h
      cases h
      exact Effect.idle rfl
    · next howns =>
      simp only [not_or, ne_eq, not_not, Bool.not_eq_false] at howns
      simp only [bind_assoc, set_bind_ok, advanceOccupancy_bind_ok, pure_ok] at h
      have hrow : db.Owns ticket row := ⟨hfound, howns.1, howns.2⟩
      rw [hrow.id_eq] at h
      obtain ⟨hprovider, heq⟩ := h
      cases heq
      exact Effect.abandoned hrow hprovider

/-- What a recovery claim did. -/
theorem claim_effect {id leaseOwner : Uuid}
    (h : (perform env (.claim now execution id leaseOwner)).run db = .ok (outcome, db')) :
    Effect env db (.claim now execution id leaseOwner) outcome db' := by
  change (do
    let row ← claim now execution id leaseOwner
    pure { ticket := row.map (·.ticket), instanceId := row.bind (·.instanceId) } : Tx Outcome).run db = _ at h
  simp only [claim, bind_assoc, get_bind_ok] at h
  cases hfound : db.provisionings.find? id with
  | none =>
    simp only [hfound, pure_bind, pure_ok] at h
    cases h
    exact Effect.idle rfl
  | some row =>
    simp only [hfound, bind_assoc, lockProvider_bind_ok] at h
    obtain ⟨_, _, h⟩ := h
    split at h
    · simp only [pure_bind, pure_ok] at h
      cases h
      exact Effect.idle rfl
    · next hdue =>
      simp only [not_or, Bool.not_eq_false, Bool.not_eq_true] at hdue
      simp only [bind_assoc, assertActive_bind_ok, get_bind_ok] at h
      obtain ⟨-, h⟩ := h
      split at h
      · next hreserved =>
        simp only [bind_assoc, set_bind_ok, advanceOccupancy_bind_ok, pure_bind, pure_ok] at h
        obtain ⟨hprovider, heq⟩ := h
        cases heq
        exact Effect.expired hfound hdue.2 hreserved hprovider
      · next hunreserved =>
        simp only [bind_assoc, set_bind_ok, pure_bind, pure_ok] at h
        cases h
        have htaken := @Effect.taken env db now execution id leaseOwner row hfound hdue.2 hdue.1 hunreserved
        exact htaken

/-- What removing a confirmed instance did. -/
theorem removeConfirmed_effect {instanceId productId providerId : Uuid} {ticket : Option ProvisioningTicket}
    (h : (perform env (.removeConfirmed instanceId productId providerId ticket)).run db =
      .ok (outcome, db')) :
    Effect env db (.removeConfirmed instanceId productId providerId ticket) outcome db' := by
  change (do let _ ← removeConfirmed instanceId productId providerId ticket; pure {} : Tx Outcome).run db = _ at h
  simp only [removeConfirmed, bind_assoc, lockProduct_bind_ok, lockProvider_bind_ok] at h
  obtain ⟨_, _, _, _, h⟩ := h
  cases ticket with
  | some ticket =>
    simp only [bind_assoc, owned_bind_ok, get_bind_ok] at h
    obtain ⟨row, howns, h⟩ := h
    split at h
    · simp only [pure_bind, pure_ok] at h
      cases h
      exact Effect.idle rfl
    · next item hitem =>
      simp only [bind_assoc, set_bind_ok, advanceOccupancy_bind_ok, pure_bind, pure_ok] at h
      simp only [Option.filter_eq_some_iff, Bool.and_eq_true, decide_eq_true_eq] at hitem
      obtain ⟨hprovider, heq⟩ := h
      cases heq
      exact Effect.removedOwned howns hitem.1 hitem.2 hprovider
  | none =>
    simp only [bind_assoc, throwWhen_bind_ok, get_bind_ok] at h
    obtain ⟨hsettled, h⟩ := h
    split at h
    · simp only [pure_bind, pure_ok] at h
      cases h
      exact Effect.idle rfl
    · next item hitem =>
      simp only [bind_assoc, set_bind_ok, advanceOccupancy_bind_ok, pure_bind, pure_ok] at h
      simp only [Option.filter_eq_some_iff, Bool.and_eq_true, decide_eq_true_eq] at hitem
      simp only [List.any_eq_true, Bool.and_eq_true, decide_eq_true_eq, not_exists, not_and,
        Bool.not_eq_true] at hsettled
      obtain ⟨hprovider, heq⟩ := h
      cases heq
      exact Effect.removed (fun r hr => hsettled r hr) hitem.1 hitem.2 hprovider

/-- What linking an instance by hand did. -/
theorem createLinked_effect {data : Instance}
    (h : (perform env (.createLinked data)).run db = .ok (outcome, db')) :
    Effect env db (.createLinked data) outcome db' := by
  change (do let _ ← createLinkedInstance data; pure {} : Tx Outcome).run db = _ at h
  simp only [createLinkedInstance, bind_assoc, lockProduct_bind_ok, lockProvider_bind_ok,
    get_bind_ok, throwWhen_bind_ok, ensureEvolutionLink, modify_bind_ok, createInstance_bind_ok,
    advanceOccupancy_bind_ok, pure_bind, pure_ok] at h
  obtain ⟨_, _, _, _, hopen, hdistinct, instances, hinserted, hprovider, heq⟩ := h
  cases heq
  exact Effect.linked (openNameFree_of_openNamed hopen) hdistinct hinserted hprovider

/-- What importing an observed session did. -/
theorem importLinked_effect {data : Instance} {source : ImportSource}
    (h : (perform env (.importLinked data source)).run db = .ok (outcome, db')) :
    Effect env db (.importLinked data source) outcome db' := by
  change (do let _ ← importLinkedInstance data source; pure {} : Tx Outcome).run db = _ at h
  simp only [importLinkedInstance, bind_assoc, lockProduct_bind_ok, lockProvider_bind_ok,
    get_bind_ok, throwWhen_bind_ok] at h
  obtain ⟨_, _, _, _, -, -, -, hopen, h⟩ := h
  have hfree : db.OpenNameFree data.productId data.vpsProviderId data.instanceName := by
    intro r hr hro hname
    simp only [Database.openForImport, Bool.not_eq_true, Option.isSome_eq_false_iff,
      Option.isNone_iff_eq_none, List.find?_eq_none, Bool.and_eq_true, Bool.or_eq_true,
      decide_eq_true_eq, not_and, not_or] at hopen
    obtain ⟨⟨hproduct, hprovider⟩, -⟩ := hopen r hr hro
    exact ⟨fun hp => hproduct hp hname, fun hv => hprovider hv hname⟩
  split at h
  · simp only [bind_assoc, createInstance_bind_ok, advanceOccupancy_bind_ok, pure_bind, pure_ok] at h
    obtain ⟨hdistinct, instances, hinserted, hprovider, heq⟩ := h
    cases heq
    exact Effect.imported hfree hdistinct hinserted hprovider
  · simp only [bind_assoc, throwWhen_bind_ok, pure_bind, pure_ok] at h
    obtain ⟨-, heq⟩ := h
    cases heq
    exact Effect.idle rfl
  · simp only [throw_bind_ok] at h

/-- Whatever an operation that succeeded did is one of its effects. -/
theorem perform_effect {op : Operation} (h : (perform env op).run db = .ok (outcome, db')) :
    Effect env db op outcome db' := by
  cases op with
  | prepare => exact prepare_effect h
  | markCreating => exact markCreating_effect h
  | recordCreated => exact recordCreated_effect h
  | markWebhookApplied => exact markWebhookApplied_effect h
  | finish => exact finish_effect h
  | markCleanup => exact markCleanup_effect h
  | abandon => exact abandon_effect h
  | claim => exact claim_effect h
  | removeConfirmed => exact removeConfirmed_effect h
  | createLinked => exact createLinked_effect h
  | importLinked => exact importLinked_effect h

/-- Committing an operation leaves the database as it was or has one of its effects. -/
theorem commit_effect (env : Env) (db : Database) (op : Operation) :
    commit (perform env op) db = db ∨ ∃ outcome, Effect env db op outcome (commit (perform env op) db) := by
  cases h : (perform env op).run db with
  | error e => exact Or.inl (commit_of_error h)
  | ok r =>
    rw [commit_of_ok h]
    exact Or.inr ⟨r.1, perform_effect h⟩

end Effects

end ConnectHub
