import ConnectHub.ProvisioningSteps
import ConnectHub.Store.Run

/-!
# Runs of the provisioning transactions

A run commits operations one after the other, in any order and with any tickets; between two of
them the database may scan its rows in another order. The lemmas here say what one step keeps:
the providers but for their occupancy revisions, the refreshes, and the open rows, each of which
was open before or was reserved by the step.
-/

namespace ConnectHub

open Store

/-- The steps of the database: a committed operation, or another scan order. -/
inductive Transition
  | committed (op : Operation)
  | reordered
deriving DecidableEq, Repr

/-- One step of the database. A transaction that fails commits nothing. -/
inductive DatabaseStep (env : Env) (db : Database) : Transition → Database → Prop
  | committed (op : Operation) : DatabaseStep env db (.committed op) (commit (perform env op) db)
  | reordered {db' : Database} (h : db.SameRows db') : DatabaseStep env db .reordered db'

/-- The database after operations are committed one after the other. -/
def commits (env : Env) : List Operation → Database → Database
  | [], db => db
  | op :: ops, db => commits env ops (commit (perform env op) db)

/-- Committing operations one after the other is a run. -/
theorem commits_run (env : Env) (ops : List Operation) (db : Database) :
    Run (DatabaseStep env) db (ops.map .committed) (commits env ops db) := by
  induction ops generalizing db with
  | nil => exact Run.nil db
  | cons op ops ih => exact Run.cons (.committed op) (ih _)

section Providers

variable {env : Env} {db db' : Database} {op : Operation} {outcome : Outcome}

/-- Counting a change of occupancy finds the same providers, one with a higher revision. -/
theorem find?_advanceOccupancy (db : Database) (providerId id : Uuid) :
    (db.advanceOccupancy providerId).providers.find? id = (db.providers.find? id).map fun p =>
      if p.id = providerId then { p with occupancyRevision := p.occupancyRevision + 1 } else p := by
  simp only [Database.advanceOccupancy, Database.updateProvider_providers, Table.find?_modify,
    decide_eq_true_eq]

/-- An operation touches no provider, or counts one change of occupancy. -/
theorem Effect.providers (h : Effect env db op outcome db') :
    db'.providers = db.providers ∨ ∃ providerId,
      db'.providers = (db.advanceOccupancy providerId).providers := by
  cases h with
  | idle | recordedAgain | webhookMarked | cleaning | taken => exact Or.inl rfl
  | sent => exact Or.inl (admissionBase_providers _ _ _)
  | @prepared _ _ _ providerId _ _ _ _ _ product =>
    refine Or.inr ⟨providerId, ?_⟩
    obtain ⟨links, hlinks⟩ := admissionBase_eq db product providerId
    rw [hlinks]
    rfl
  | recorded | finished | abandoned | expired | removedOwned | removed | linked | imported =>
    exact Or.inr ⟨_, rfl⟩

/-- A column of a provider other than its occupancy revision survives every operation. -/
theorem Effect.provider_column {α : Type} (column : VpsProvider → α)
    (hcolumn : ∀ p n, column { p with occupancyRevision := n } = column p)
    (h : Effect env db op outcome db') (id : Uuid) :
    (db'.providers.find? id).map column = (db.providers.find? id).map column := by
  rcases h.providers with hsame | ⟨providerId, hsame⟩
  · rw [hsame]
  · rw [hsame, find?_advanceOccupancy, Option.map_map]
    congr 1
    funext p
    by_cases hp : p.id = providerId
    · rw [Function.comp_apply, if_pos hp, hcolumn]
    · rw [Function.comp_apply, if_neg hp]

/-- No operation touches a refresh. -/
theorem Effect.reconciliations (h : Effect env db op outcome db') :
    db'.reconciliations = db.reconciliations := by
  cases h with
  | prepared => exact admissionBase_reconciliations _ _ _
  | sent => exact admissionBase_reconciliations _ _ _
  | idle | recordedAgain | recorded | webhookMarked | finished | cleaning | abandoned | expired | taken
  | removedOwned | removed | linked | imported => rfl

end Providers

/-- What a creation claims for as long as it is open: its names never change. -/
def InstanceProvisioning.slot (row : InstanceProvisioning) : Uuid × Uuid × Uuid × String :=
  (row.id, row.productId, row.vpsProviderId, row.instanceName)

/-- The open rows of a database claim what open rows of another one claimed, and still name the
instances they named. -/
def OpenWithin (db' db : Database) : Prop :=
  ∀ r' ∈ db'.provisionings, r'.isOpen = true → ∃ r ∈ db.provisionings, r.isOpen = true ∧ r.slot = r'.slot ∧
    ∀ i ∈ db'.instances, r.instanceId = some i.id → r'.instanceId = some i.id

/-- Keeping every creation claims nothing new. -/
theorem openWithin_of_eq {db db' : Database} (h : db'.provisionings = db.provisionings) :
    OpenWithin db' db := by
  intro r hr hopen
  rw [h] at hr
  exact ⟨r, hr, hopen, rfl, fun _ _ hi => hi⟩

/-- Changing one row that is open claims nothing new. -/
theorem openWithin_update {db db' : Database} {id : Uuid} {row : InstanceProvisioning}
    (f : InstanceProvisioning → InstanceProvisioning) (hfound : db.provisionings.find? id = some row)
    (hopen : row.isOpen = true) (hslot : ∀ r, (f r).slot = r.slot)
    (hrecord : ∀ x, row.instanceId = some x → (f row).instanceId = some x)
    (h : db'.provisionings =
      db.provisionings.modify (fun r => r.id = id) f fun r => congrArg Prod.fst (hslot r)) :
    OpenWithin db' db := by
  intro r' hr' hopen'
  rw [h] at hr'
  obtain ⟨r, hr, rfl⟩ := Table.mem_modify.mp hr'
  by_cases hid : r.id = id
  · obtain ⟨hrow, hrowId⟩ := Table.find?_eq_some.mp hfound
    obtain rfl : r = row := Table.eq_of_key_eq hr hrow (hid.trans hrowId.symm)
    simp only [hid, decide_true, if_true]
    exact ⟨r, hr, hopen, (hslot r).symm, fun i _ hi => hrecord i.id hi⟩
  · simp only [hid, decide_false, Bool.false_eq_true, if_false] at hopen' ⊢
    exact ⟨r, hr, hopen', rfl, fun _ _ hi => hi⟩

/-- Deleting an instance claims nothing new, whatever else is closed with it. -/
theorem openWithin_dropInstance {db db' : Database} (item : Instance)
    (hinstances : db'.instances = (db.dropInstance item).instances)
    (hrows : ∀ r ∈ db'.provisionings, r.isOpen = true → r ∈ (db.dropInstance item).provisionings) :
    OpenWithin db' db := by
  intro r' hr' hopen'
  obtain ⟨r, hr, rfl⟩ := mem_dropInstance_provisionings.mp (hrows r' hr' hopen')
  refine ⟨r, hr, ?_, ?_, fun i hi hrecord => ?_⟩
  · split at hopen' <;> exact hopen'
  · split <;> rfl
  · rw [hinstances] at hi
    have hne : i.id ≠ item.id := (mem_dropInstance_instances.mp hi).2
    rw [if_neg fun h => hne (Option.some.inj (hrecord.symm.trans h))]
    exact hrecord

/-- A database in which one more creation was reserved: its provider admitted it, and nothing
else held its name. -/
structure Reserved (env : Env) (db : Database) (row : InstanceProvisioning) (db' : Database) : Prop where
  rows : ∀ r, r ∈ db'.provisionings ↔ r ∈ db.provisionings ∨ r = row
  admitted : ∃ now product provider, db.providers.find? row.vpsProviderId = some provider ∧
    Admits env now (db.admissionBase product row.vpsProviderId) product provider false
  instances_free : db.InstanceNameFree row.productId row.vpsProviderId row.instanceName
  open_free : db.OpenNameFree row.productId row.vpsProviderId row.instanceName
  instances : db'.instances = db.instances

/-- A database with one more instance, which collides with none of the others. -/
structure Added (db : Database) (item : Instance) (db' : Database) : Prop where
  instances : ∀ i, i ∈ db'.instances ↔ i ∈ db.instances ∨ i = item
  distinct : ∀ i ∈ db.instances, ¬item.collides db.baseConsolidated i = true

/-- A database in which the instance an open row awaited was recorded. -/
structure Recorded (db : Database) (row : InstanceProvisioning) (item : Instance) (db' : Database) : Prop
    extends Added db item db' where
  row_mem : row ∈ db.provisionings
  isOpen : row.isOpen = true
  unrecorded : row.instanceId = none
  productId_eq : item.productId = row.productId
  vpsProviderId_eq : item.vpsProviderId = row.vpsProviderId
  instanceName_eq : item.instanceName = row.instanceName
  record : ∀ r ∈ db'.provisionings, r.id = row.id → r.instanceId = some item.id

/-- A database into which a session from outside was brought, under a name no open row held. -/
structure BroughtIn (db : Database) (item : Instance) (db' : Database) : Prop extends Added db item db' where
  open_free : db.OpenNameFree item.productId item.vpsProviderId item.instanceName
  provisionings : db'.provisionings = db.provisionings

section Rows

variable {env : Env} {db db' : Database} {op : Operation} {outcome : Outcome}

/-- After an operation the open rows are those open before, and the row it reserved. -/
theorem Effect.open_rows (h : Effect env db op outcome db') :
    OpenWithin db' db ∨ ∃ row, Reserved env db row db' := by
  cases h with
  | idle | recordedAgain | linked | imported => exact Or.inl (openWithin_of_eq rfl)
  | @prepared _ _ _ providerId _ _ _ _ _ product _ _ _ hprovider hadmits hinstances hopen _ hinsert =>
    refine Or.inr ⟨_, fun r => Table.mem_insert? hinsert, ⟨_, _, _, hprovider, hadmits⟩, hinstances,
      hopen, ?_⟩
    exact admissionBase_instances db product providerId
  | @sent _ _ ticket product _ row _ _ _ howns =>
    obtain ⟨links, hlinks⟩ := admissionBase_eq db product ticket.vpsProviderId
    rw [hlinks]
    exact Or.inl (openWithin_update (·.sent) howns.found howns.isOpen (fun _ => rfl) (fun _ h => h) rfl)
  | @recorded _ _ result instanceId row _ _ howns _ _ hunrecorded =>
    refine Or.inl (openWithin_update (·.recorded instanceId result.instanceId) howns.found howns.isOpen
      (fun _ => rfl) (fun x hx => ?_) rfl)
    rw [hunrecorded] at hx
    cases hx
  | @webhookMarked _ _ payload howns =>
    exact Or.inl (openWithin_update (·.webhookMarked payload) howns.found howns.isOpen (fun _ => rfl)
      (fun _ h => h) rfl)
  | finished howns =>
    exact Or.inl (openWithin_update (·.finished) howns.found howns.isOpen (fun _ => rfl) (fun _ h => h) rfl)
  | cleaning howns =>
    exact Or.inl (openWithin_update (·.cleaning) howns.found howns.isOpen (fun _ => rfl) (fun _ h => h) rfl)
  | @abandoned now _ _ howns =>
    have hkept : ∀ r : InstanceProvisioning, (r.abandoned env now).slot = r.slot ∧
        (r.abandoned env now).instanceId = r.instanceId := by
      intro r
      unfold InstanceProvisioning.abandoned
      split <;> exact ⟨rfl, rfl⟩
    exact Or.inl (openWithin_update (·.abandoned env now) howns.found howns.isOpen (fun r => (hkept r).1)
      (fun _ h => (hkept _).2.trans h) rfl)
  | expired hfound _ hreserved =>
    refine Or.inl (openWithin_update (·.expired) hfound ?_ (fun _ => rfl) (fun _ h => h) rfl)
    simp [InstanceProvisioning.isOpen, openProvisioningStates, hreserved]
  | @taken now execution _ leaseOwner _ hfound _ hopen =>
    exact Or.inl (openWithin_update (·.taken now execution leaseOwner) hfound hopen (fun _ => rfl)
      (fun _ h => h) rfl)
  | @removedOwned _ _ _ ticket row item howns =>
    refine Or.inl (openWithin_dropInstance item rfl fun r' hr' hopen' => ?_)
    rw [advanceOccupancy_provisionings] at hr'
    obtain ⟨r, hr, rfl⟩ := mem_updateProvisioning.mp hr'
    split at hopen'
    · simp [InstanceProvisioning.cleaned, InstanceProvisioning.isOpen, openProvisioningStates] at hopen'
    · next hid => rwa [if_neg hid]
  | removed => exact Or.inl (openWithin_dropInstance _ rfl fun _ hr _ => hr)

/-- After an operation the instances are those that were there, and the one it recorded or brought
in. -/
theorem Effect.instances (h : Effect env db op outcome db') :
    (∀ i ∈ db'.instances, i ∈ db.instances) ∨ (∃ row item, Recorded db row item db') ∨
      ∃ item, BroughtIn db item db' ∧
        (op = .createLinked item ∨ ∃ source, op = .importLinked item source) := by
  cases h with
  | idle | recordedAgain | webhookMarked | finished | cleaning | abandoned | expired | taken =>
    exact Or.inl fun _ hi => hi
  | prepared | sent =>
    refine Or.inl fun i hi => ?_
    rw [← admissionBase_instances db]
    exact hi
  | recorded howns _ _ hunrecorded hdistinct hinserted =>
    refine Or.inr (Or.inl ⟨_, _, ⟨fun i => Table.mem_insert? hinserted, List.any_eq_false.mp hdistinct⟩,
      (Table.find?_eq_some.mp howns.found).1, howns.isOpen, hunrecorded, rfl, rfl, rfl, fun r hr hid => ?_⟩)
    rw [advanceOccupancy_provisionings] at hr
    obtain ⟨r₀, -, rfl⟩ := mem_updateProvisioning.mp hr
    rw [howns.id_eq] at hid
    split at hid
    · next h =>
      rw [if_pos h]
      rfl
    · next h => exact absurd hid h
  | removedOwned | removed => exact Or.inl fun _ hi => (Table.mem_remove.mp hi).1
  | linked hopen hdistinct hinserted =>
    exact Or.inr (Or.inr ⟨_, ⟨⟨fun i => Table.mem_insert? hinserted, List.any_eq_false.mp hdistinct⟩,
      hopen, rfl⟩, Or.inl rfl⟩)
  | imported hopen hdistinct hinserted =>
    exact Or.inr (Or.inr ⟨_, ⟨⟨fun i => Table.mem_insert? hinserted, List.any_eq_false.mp hdistinct⟩,
      hopen, rfl⟩, Or.inr ⟨_, rfl⟩⟩)

/-- No operation lists a session in the inventory. -/
theorem Effect.inventory (h : Effect env db op outcome db') : ∀ e ∈ db'.inventory, e ∈ db.inventory := by
  cases h with
  | idle | recordedAgain | recorded | webhookMarked | finished | cleaning | abandoned | expired | taken
  | linked | imported => exact fun _ he => he
  | prepared | sent =>
    intro e he
    rw [← admissionBase_inventory db]
    exact he
  | removedOwned | removed => exact fun _ he => (Table.mem_remove.mp he).1

end Rows

/-- A small installation: one product under the capacity policy, linked to one provider that takes a
single session. -/
def smallProduct : Product where
  id := ⟨"product", by decide⟩
  name := "Product"
  slug := "product"
  apiKeyHash := "hash"
  allocationMode := .capacity

/-- The server of the small installation. -/
def smallServer : VpsServer where
  id := ⟨"server", by decide⟩

/-- The provider of the small installation, verified and freshly observed. -/
def smallProvider : VpsProvider where
  id := ⟨"provider", by decide⟩
  vpsId := smallServer.id
  providerUrl := "https://evolution.test"
  providerApiKey := "sealed"
  lastHealthAt := some 0
  maxInstances := some 1
  canonicalEndpoint := some "https://evolution.test"
  identityStatus := .verified
  inventoryStatus := .ready
  inventoryObservedAt := some 0

/-- The environment of the small installation: allocation is on, and one URL parses. -/
def smallEnv : Env where
  config := { evolutionAllocationEnabled := true }
  parseUrl value :=
    if value = "https://evolution.test" then
      some { protocol := "https:", username := "", password := "", search := "", hash := "",
             origin := "https://evolution.test", pathname := "/", origin_nonempty := by decide }
    else none

/-- The database of the small installation, before any creation. -/
def smallDatabase : Database where
  products := ⟨[smallProduct], by decide⟩
  vpsServers := ⟨[smallServer], by decide⟩
  providers := ⟨[smallProvider], by decide⟩
  links := ⟨[{ productId := smallProduct.id, vpsProviderId := smallProvider.id,
               acceptingNewInstances := true }], by decide⟩

/-- The request of a creation in the small installation. -/
def smallPayload : ProvisioningPayload where
  token := "token"
  request := { instanceName := "alice" }
  webhookApplied := true

/-- The reservation of that creation. -/
def smallPrepare : Operation :=
  .prepare 0 { remainingMs := 1000 } smallProduct.id smallProvider.id
    ⟨smallProduct, smallProvider, [smallProvider.id]⟩ smallPayload "alice" ⟨"row", by decide⟩
    ⟨"owner", by decide⟩

/-- The ticket of that creation. -/
def smallTicket : ProvisioningTicket :=
  ⟨⟨"row", by decide⟩, smallProduct.id, smallProvider.id, some ⟨"owner", by decide⟩⟩

/-- Its remote create is authorised. -/
def smallMarkCreating : Operation := .markCreating 0 { remainingMs := 1000 } smallTicket

/-- Its remote create is confirmed. -/
def smallRecordCreated : Operation :=
  .recordCreated 10 smallTicket { instanceName := "alice", instanceId := some "remote" }
    ⟨"instance", by decide⟩

end ConnectHub
