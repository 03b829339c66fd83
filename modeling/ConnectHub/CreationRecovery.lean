import ConnectHub.Compensation

/-!
# Recovery completes a creation

A creation whose executor stopped after the create was sent is left open. Once its lease has run out, a recovery
that finds the session of the creation records it, applies what the request requires, and commits the creation; one
that was never sent is released instead.
-/

namespace ConnectHub

open Store

section Finding

/-- Whether the create of a creation was sent, and not taken back. -/
def InstanceProvisioning.IsSent (row : InstanceProvisioning) : Prop := row.state = .creating ∨ row.state = .uncertain

/-- A recovery of a creation that reads the sessions of its provider, and finds its own. -/
structure FindsOwn (row : InstanceProvisioning) (payload : ProvisioningPayload) (found : InstanceDto × RemoteSession)
    (input : CreationInput) : Prop where
  isActive : input.execution.isActive = true
  request : row.encryptedRequest = some ⟨some payload⟩
  named : payload.token ≠ "" ∧ payload.request.instanceName ≠ ""
  required : payload.webhook = none → payload.webhookApplied = true
  sessions : ∃ rows sessions, input.listed = .ok rows ∧ normalizeRows [] [] rows = some sessions ∧
    (rows.zip sessions).find? (fun listed => listed.2.instanceName = row.instanceName) = some found
  identified : row.identifies payload found = true
  applied : payload.webhookApplied = false → input.supportsDefaults = true ∧ input.answered = .ok ()

/-- What a creation that was not recorded needs of the instances to be recorded under an id. -/
structure Database.Recordable (db : Database) (row : InstanceProvisioning) (providerInstanceId : Option String)
    (instanceId : Uuid) : Prop where
  fresh : ∀ item ∈ db.instances, item.id ≠ instanceId
  token : ∀ item ∈ db.instances, item.hubToken ≠ "hub_" ++ row.productId.value ++ "_" ++ row.instanceName
  session : db.baseConsolidated = true → ∀ item ∈ db.instances, item.vpsProviderId = row.vpsProviderId →
    item.providerInstanceId ≠ providerInstanceId

/-- A creation that was confirmed: its executor owns it, it was sent, and it names an instance of its own. -/
structure Confirmed (db : Database) (row : InstanceProvisioning) (payload : ProvisioningPayload) (item : Instance) :
    Prop where
  owned : db.Owns row.ticket row
  sent : row.IsSent
  request : row.encryptedRequest = some ⟨some payload⟩
  named : payload.token ≠ "" ∧ payload.request.instanceName ≠ ""
  instance_mem : item ∈ db.instances
  names : row.NamesOwn item
  product : db.products.find? row.productId ≠ none
  provider : db.providers.find? row.vpsProviderId ≠ none

/-- A creation that ended well: it is committed, holds no name and no slot any more, and names its instance. -/
structure Committed (row : InstanceProvisioning) (item : Instance) (db : Database) : Prop where
  ended : ∃ ended ∈ db.provisionings, ended.id = row.id ∧ ended.state = .committed ∧ ended.isOpen = false ∧
    ended.NamesOwn item
  instance_mem : item ∈ db.instances
  product : item.productId = row.productId
  provider : item.vpsProviderId = row.vpsProviderId
  name : item.instanceName = row.instanceName

end Finding

section Transactions

variable {env : Env} {db : Database} {row : InstanceProvisioning} {payload : ProvisioningPayload} {item : Instance}
  {input claiming : CreationInput} {found : InstanceDto × RemoteSession}

/-- A creation that was sent is open. -/
theorem InstanceProvisioning.IsSent.isOpen (h : row.IsSent) : row.isOpen = true := by
  unfold InstanceProvisioning.isOpen
  rcases h with hstate | hstate <;>
  · rw [hstate]
    rfl

/-- A creation that was sent is not being compensated. -/
theorem InstanceProvisioning.IsSent.not_cleanup (h : row.IsSent) : row.state ≠ .cleanupPending := by
  rcases h with hstate | hstate <;>
  · rw [hstate]
    exact nofun

/-- A creation that was sent is not one that was only reserved. -/
theorem InstanceProvisioning.IsSent.not_reserved (h : row.IsSent) : row.state ≠ .reserved := by
  rcases h with hstate | hstate <;>
  · rw [hstate]
    exact nofun

/-- An active request may go on. -/
theorem QrRequestContext.of_isActive {execution : QrRequestContext} (h : execution.isActive = true) :
    execution.reason = none ∧ execution.remainingMs ≠ 0 := by
  simpa only [QrRequestContext.isActive, Bool.and_eq_true, Option.isNone_iff_eq_none, decide_eq_true_eq] using h

/-- A lapsed creation that was sent can be claimed. -/
theorem claim_sent (h : CleanupInvariant db) (hrow : row ∈ db.provisionings) (hsent : row.IsSent)
    (hlapsed : leaseRunning claiming.now row.leaseExpiresAt = false) (hactive : claiming.execution.isActive = true) :
    (claim claiming.now claiming.execution row.id claiming.leaseOwner).run db =
      .ok (some (row.taken claiming.now claiming.execution claiming.leaseOwner),
        db.updateProvisioning row.id (·.taken claiming.now claiming.execution claiming.leaseOwner)) := by
  obtain ⟨provider, hprovider⟩ := Option.ne_none_iff_exists'.mp (h.placed row hrow hsent.isOpen).2
  simp only [claim, get_bind_ok, show db.provisionings.find? row.id = some row from Table.find?_key hrow,
    lockProvider_bind_ok]
  refine ⟨provider, hprovider, ?_⟩
  rw [if_neg (by simp [hsent.isOpen, hlapsed]), assertActive_bind_ok, get_bind_ok, if_neg hsent.not_reserved,
    set_bind_ok, pure_ok]
  exact ⟨QrRequestContext.of_isActive hactive, rfl⟩

/-- A lapsed creation that was never sent is released by a claim. -/
theorem claim_reserved (h : CleanupInvariant db) (hrow : row ∈ db.provisionings) (hstate : row.state = .reserved)
    (hlapsed : leaseRunning claiming.now row.leaseExpiresAt = false) (hactive : claiming.execution.isActive = true) :
    (claim claiming.now claiming.execution row.id claiming.leaseOwner).run db =
      .ok (none, (db.updateProvisioning row.id (·.expired)).advanceOccupancy row.vpsProviderId) := by
  have hopen : row.isOpen = true := by
    unfold InstanceProvisioning.isOpen
    rw [hstate]
    rfl
  obtain ⟨provider, hprovider⟩ := Option.ne_none_iff_exists'.mp (h.placed row hrow hopen).2
  simp only [claim, get_bind_ok, show db.provisionings.find? row.id = some row from Table.find?_key hrow,
    lockProvider_bind_ok]
  refine ⟨provider, hprovider, ?_⟩
  rw [if_neg (by simp [hopen, hlapsed]), assertActive_bind_ok, get_bind_ok, if_pos hstate, set_bind_ok,
    advanceOccupancy_bind_ok, pure_ok]
  exact ⟨QrRequestContext.of_isActive hactive, fun hnone => Option.some_ne_none _ (hprovider.symm.trans hnone), rfl⟩

/-- A recovery that claimed its creation reads the sessions, and goes on to record its own. -/
theorem fetch_records (env : Env) (h : CleanupInvariant db) (hrow : row ∈ db.provisionings) (hsent : row.IsSent)
    (hfinds : FindsOwn row payload found input) :
    (CreationTask.fetch row).run env input db = (db, some (.recordRecovered row payload
      { instanceName := row.instanceName, instanceId := found.2.providerInstanceId,
        status := found.2.status.getD "disconnected" })) := by
  obtain ⟨rows, sessions, hlisted, hnormal, hfound⟩ := hfinds.sessions
  obtain ⟨provider, hprovider⟩ := Option.ne_none_iff_exists'.mp (h.placed row hrow hsent.isOpen).2
  have hfetched : (fetchSessions input row).run db = .ok ((payload, rows.zip sessions), db) := by
    simp only [fetchSessions, get_bind_ok, orThrow_bind_ok, decodePayload_bind_ok, assertActive_bind_ok, hlisted,
      normalizeInventory_bind_ok, pure_ok]
    exact ⟨provider, hprovider, payload, hfinds.request, hfinds.named, QrRequestContext.of_isActive hfinds.isActive,
      sessions, hnormal, rfl⟩
  simp only [CreationTask.run, hfetched, afterFetch, hfound, hfinds.identified, hfinds.isActive, hsent.not_cleanup,
    Bool.true_eq_false, or_self, if_false]

/-- A provider is still there after a change of its occupancy was counted. -/
theorem provider_advanced {k providerId : Uuid} (h : db.providers.find? k ≠ none) :
    (db.advanceOccupancy providerId).providers.find? k ≠ none := by
  rw [find?_advanceOccupancy, ne_eq, Option.map_eq_none_iff]
  exact h

/-- An instance about to be recorded collides with no other one. -/
theorem CleanupInvariant.not_collides (h : CleanupInvariant db) (payload : ProvisioningPayload)
    (input : CreationInput) (result : InstanceCreatedDto) (hrow : row ∈ db.provisionings)
    (hopen : row.isOpen = true) (hunrecorded : row.instanceId = none)
    (hrecordable : db.Recordable row result.instanceId input.id) :
    db.instances.rows.any ((row.created input.now payload result input.id).collides db.baseConsolidated) = false := by
  refine List.any_eq_false.mpr fun other hother => ?_
  have hbuilt : (row.created input.now payload result input.id).productId = row.productId ∧
      (row.created input.now payload result input.id).vpsProviderId = row.vpsProviderId ∧
      (row.created input.now payload result input.id).instanceName = row.instanceName := ⟨rfl, rfl, rfl⟩
  have hfree := h.names.created_not_shares hrow hopen hunrecorded hbuilt other hother
  intro hcollides
  simp only [Instance.collides, InstanceProvisioning.created, Bool.or_eq_true, Bool.and_eq_true] at hcollides
  rcases hcollides with ((⟨hprovider, hname⟩ | ⟨hproduct, hname⟩) | htoken) |
    ⟨⟨⟨hconsolidated, -⟩, hprovider⟩, hsession⟩
  · exact hfree ⟨of_decide_eq_true hname, .inl (of_decide_eq_true hprovider)⟩
  · exact hfree ⟨of_decide_eq_true hname, .inr (of_decide_eq_true hproduct)⟩
  · exact hrecordable.token other hother (of_decide_eq_true htoken).symm
  · exact hrecordable.session hconsolidated other hother (of_decide_eq_true hprovider).symm
      (of_decide_eq_true hsession).symm

/-- A creation that its executor owns is recorded, once. -/
theorem recordCreated_confirms (h : CleanupInvariant db) (input : CreationInput) (result : InstanceCreatedDto)
    (howns : db.Owns row.ticket row) (hsent : row.IsSent)
    (hrequest : row.encryptedRequest = some ⟨some payload⟩)
    (hnamed : payload.token ≠ "" ∧ payload.request.instanceName ≠ "")
    (hrecordable : row.instanceId = none → db.Recordable row result.instanceId input.id) :
    ∃ item db' row', (recordCreated input.now row.ticket result input.id).run db = .ok (item, db') ∧
      Confirmed db' row' payload item ∧ row'.ticket = row.ticket ∧ row'.leaseExpiresAt = row.leaseExpiresAt ∧
      row'.slot = row.slot := by
  have hrow : row ∈ db.provisionings := (Table.find?_eq_some.mp howns.found).1
  obtain ⟨hproduct, hprovider⟩ := h.placed row hrow hsent.isOpen
  obtain ⟨product, hproductRow⟩ := Option.ne_none_iff_exists'.mp hproduct
  obtain ⟨provider, hproviderRow⟩ := Option.ne_none_iff_exists'.mp hprovider
  have hstate : ¬(row.state ≠ .creating ∧ row.state ≠ .uncertain) := by
    rintro ⟨hcreating, huncertain⟩
    rcases hsent with hstate | hstate
    · exact hcreating hstate
    · exact huncertain hstate
  simp only [recordCreated, lockProduct_bind_ok, lockProvider_bind_ok, owned_bind_ok, decodePayload_bind_ok,
    throwWhen_bind_ok]
  cases hrecorded : row.instanceId with
  | some x =>
    obtain ⟨item, hitem, hnames⟩ := h.named row hrow hsent.isOpen (by rw [hrecorded]; exact Option.some_ne_none x)
    have hfound : db.instances.find? x = some item := by
      rw [Option.some.inj (hrecorded.symm.trans hnames.instanceId)]
      exact Table.find?_key hitem
    refine ⟨item, db, row, ?_, ⟨howns, hsent, hrequest, hnamed, hitem, hnames, hproduct, hprovider⟩, rfl, rfl, rfl⟩
    refine ⟨product, hproductRow, provider, hproviderRow, row, howns, payload, hrequest, hnamed, hstate, ?_⟩
    simp only [hrecorded, get_bind_ok, orThrow_ok]
    exact ⟨item, hfound, rfl⟩
  | none =>
    have hcreatable := h.not_collides payload input result hrow hsent.isOpen hrecorded (hrecordable hrecorded)
    obtain ⟨instances, hinsert⟩ : ∃ instances,
        db.instances.insert? (row.created input.now payload result input.id) = some instances := by
      rw [← Option.ne_none_iff_exists']
      intro hnone
      obtain ⟨other, hother, hkey⟩ := Table.insert?_eq_none hnone
      exact (hrecordable hrecorded).fresh other hother hkey
    let item := row.created input.now payload result input.id
    let row' := row.recorded input.id result.instanceId
    let db' := ((({ db with instances } : Database).updateProvisioning row.id
      (·.recorded input.id result.instanceId)).advanceOccupancy row.vpsProviderId)
    have hfound : db'.provisionings.find? row.id = some row' := by
      rw [advanceOccupancy_provisionings, find?_updateProvisioning,
        show db.provisionings.find? row.id = some row from howns.found, Option.map_some, if_pos rfl]
    refine ⟨item, db', row', ?_, ⟨⟨hfound, rfl, hsent.isOpen⟩, hsent, hrequest, hnamed,
      (Table.mem_insert? hinsert).mpr (.inr rfl), ⟨rfl, rfl, rfl, rfl⟩, hproduct, ?_⟩, rfl, rfl, rfl⟩
    · refine ⟨product, hproductRow, provider, hproviderRow, row, howns, payload, hrequest, hnamed, hstate, ?_⟩
      simp only [hrecorded, createInstance_bind_ok, get_bind_ok, set_bind_ok, advanceOccupancy_bind_ok, pure_ok]
      exact ⟨hcreatable, instances, hinsert, hprovider, rfl⟩
    · exact provider_advanced hprovider

/-- A confirmed creation remembers that its required webhook was applied. -/
theorem Confirmed.webhookApplied (h : Confirmed db row payload item) :
    ∃ db', (markWebhookApplied row.ticket).run db = .ok ((), db') ∧
      Confirmed db' (row.webhookMarked payload) { payload with webhookApplied := true } item := by
  obtain ⟨provider, hprovider⟩ := Option.ne_none_iff_exists'.mp h.provider
  refine ⟨db.updateProvisioning row.id (·.webhookMarked payload), ?_, ?_⟩
  · simp only [markWebhookApplied, lockProvider_bind_ok, owned_bind_ok, decodePayload_bind_ok, get_bind_ok, set_ok]
    exact ⟨provider, hprovider, row, h.owned, payload, h.request, h.named, rfl⟩
  · have hfound : (db.updateProvisioning row.id (·.webhookMarked payload)).provisionings.find? row.id =
        some (row.webhookMarked payload) := by
      rw [find?_updateProvisioning, show db.provisionings.find? row.id = some row from h.owned.found, Option.map_some,
        if_pos rfl]
    exact ⟨⟨hfound, rfl, h.sent.isOpen⟩, h.sent, rfl, h.named, h.instance_mem,
      ⟨h.names.instanceId, h.names.productId, h.names.vpsProviderId, h.names.instanceName⟩, h.product, h.provider⟩

/-- A confirmed creation whose webhook is applied is committed. -/
theorem Confirmed.finishes (h : Confirmed db row payload item) (happlied : payload.webhookApplied = true)
    (now : Instant) : ∃ db', (finish now row.ticket).run db = .ok ((), db') ∧ Committed row item db' ∧
      db'.provisionings.find? row.id = some row.finished ∧ db'.providers.find? row.vpsProviderId ≠ none := by
  obtain ⟨product, hproduct⟩ := Option.ne_none_iff_exists'.mp h.product
  obtain ⟨provider, hprovider⟩ := Option.ne_none_iff_exists'.mp h.provider
  have hstate : ¬((row.state ≠ .creating ∧ row.state ≠ .uncertain) ∨ row.instanceId = none) := by
    rintro (⟨hcreating, huncertain⟩ | hnone)
    · rcases h.sent with hstate | hstate
      · exact hcreating hstate
      · exact huncertain hstate
    · exact Option.some_ne_none _ (h.names.instanceId.symm.trans hnone)
  let db' := ((db.updateProvisioning row.id (·.finished)).updateProduct row.productId (·.firstAllocated now)
    (Product.firstAllocated_id now)).advanceOccupancy row.vpsProviderId
  have hfound : db'.provisionings.find? row.id = some row.finished := by
    change (db.updateProvisioning row.id (·.finished)).provisionings.find? row.id = some row.finished
    rw [find?_updateProvisioning, show db.provisionings.find? row.id = some row from h.owned.found, Option.map_some,
      if_pos rfl]
  refine ⟨db', ?_, ⟨⟨row.finished, (Table.find?_eq_some.mp hfound).1, rfl, rfl, rfl,
    ⟨h.names.instanceId, h.names.productId, h.names.vpsProviderId, h.names.instanceName⟩⟩, h.instance_mem,
    h.names.productId, h.names.vpsProviderId, h.names.instanceName⟩, hfound, provider_advanced h.provider⟩
  simp only [finish, lockProduct_bind_ok, lockProvider_bind_ok, owned_bind_ok, decodePayload_bind_ok,
    throwWhen_bind_ok, get_bind_ok, set_bind_ok]
  refine ⟨product, hproduct, provider, hprovider, row, h.owned, hstate, payload, h.request, h.named, ?_, ?_⟩
  · rw [happlied]
    exact Bool.true_eq_false.mp
  · rw [advanceOccupancy]
    simp only [get_bind_ok, throwWhen_bind_ok, set_ok]
    exact ⟨fun hnone => Option.some_ne_none _ (hprovider.symm.trans hnone), rfl⟩

/-- Giving up a creation that has ended changes nothing. -/
theorem abandon_ended (env : Env) {ended : InstanceProvisioning} (hfound : db.provisionings.find? row.id = some ended)
    (hended : ended.isOpen = false) (hprovider : db.providers.find? row.vpsProviderId ≠ none) (now : Instant) :
    (abandon env now row.ticket).run db = .ok ((), db) := by
  obtain ⟨provider, hprovider⟩ := Option.ne_none_iff_exists'.mp hprovider
  simp only [abandon, lockProvider_bind_ok, get_bind_ok]
  refine ⟨provider, hprovider, ?_⟩
  rw [show db.provisionings.find? row.ticket.id = some ended from hfound]
  simp only
  rw [if_pos (.inr hended), pure_ok]

end Transactions

section Runs

variable {env : Env} {db : Database} {row : InstanceProvisioning} {payload : ProvisioningPayload} {item : Instance}
  {input claiming : CreationInput} {found : InstanceDto × RemoteSession}

/-- What is said of a creation that ended well depends on what it reserved only. -/
theorem Committed.of_slot {other : InstanceProvisioning} (h : Committed row item db) (hslot : row.slot = other.slot) :
    Committed other item db := by
  simp only [InstanceProvisioning.slot, Prod.mk.injEq] at hslot
  obtain ⟨hid, hproduct, hprovider, hname⟩ := hslot
  obtain ⟨⟨ended, hended, hsame, hstate⟩, hitem, hitemProduct, hitemProvider, hitemName⟩ := h
  exact ⟨⟨ended, hended, hsame.trans hid, hstate⟩, hitem, hitemProduct.trans hproduct, hitemProvider.trans hprovider,
    hitemName.trans hname⟩

/-- What ends well stays so while its executor gives it up. -/
theorem Committed.abandons (h : Committed row item db) (hfound : db.provisionings.find? row.id = some row.finished)
    (hprovider : db.providers.find? row.vpsProviderId ≠ none) (n : ℕ) :
    Committed row item (CreationTask.follow env (List.replicate (n + 1) input) (db, some (.abandon row.ticket))).1 := by
  have habandon := abandon_ended env hfound rfl hprovider input.now
  have hrun : (CreationTask.abandon row.ticket).run env input db = (db, none) := by
    simp only [CreationTask.run, transact, habandon]
  rw [List.replicate_succ, CreationTask.follow, hrun]
  cases n <;> exact h

/-- A confirmed creation whose webhook is applied ends well. -/
theorem Confirmed.ends (h : Confirmed db row payload item) (happlied : payload.webhookApplied = true) (n : ℕ) :
    Committed row item
      (CreationTask.follow env (List.replicate (n + 2) input) (db, some (.finish row.ticket))).1 := by
  obtain ⟨db', hfinish, hcommitted, hfound, hprovider⟩ := h.finishes happlied input.now
  have hrun : (CreationTask.finish row.ticket).run env input db = (db', some (.abandon row.ticket)) := by
    simp only [CreationTask.run, transact, hfinish]
  rw [List.replicate_succ, CreationTask.follow, hrun]
  exact hcommitted.abandons hfound hprovider n

/-- A confirmed creation goes on to its end, with what its request still requires. -/
theorem Confirmed.goesOn {claimed : InstanceProvisioning} (h : Confirmed db row payload item)
    (hfinds : FindsOwn claimed payload found input) (hticket : row.ticket = claimed.ticket)
    (hlease : leaseRunning input.now row.leaseExpiresAt = true) (n : ℕ) :
    Committed row item (CreationTask.follow env (List.replicate (n + 5) input)
      (db, some (afterRecovered input claimed payload))).1 := by
  cases happlied : payload.webhookApplied with
  | true =>
    rw [afterRecovered, if_pos (.inl happlied), ← hticket]
    exact h.ends happlied (n + 3)
  | false =>
    obtain ⟨hsupports, hanswered⟩ := hfinds.applied happlied
    have hwebhook : payload.webhook ≠ none := fun hnone => by
      rw [hfinds.required hnone] at happlied
      cases happlied
    have hnot : ¬(payload.webhookApplied = true ∨ payload.webhook = none) := by
      rintro (htrue | hnone)
      · rw [happlied] at htrue
        cases htrue
      · exact hwebhook hnone
    rw [afterRecovered, if_neg hnot, if_pos ⟨hsupports, hfinds.isActive⟩]
    obtain ⟨provider, hprovider⟩ := Option.ne_none_iff_exists'.mp h.provider
    have howned : (assertOwned input.now row.ticket).run db = .ok (row, db) := by
      simp only [assertOwned, lockProvider_bind_ok, owned_bind_ok, throwWhen_bind_ok, pure_ok]
      exact ⟨provider, hprovider, row, h.owned, by rw [hlease]; exact Bool.true_eq_false.mp, rfl⟩
    obtain ⟨db', hmarked, hconfirmed⟩ := h.webhookApplied
    have hrunOwned : (CreationTask.ownBeforeDefaults claimed).run env input db =
        (db, some (.applyRecovered claimed)) := by
      simp only [CreationTask.run, transact, ← hticket, howned]
    have hrunApplied : (CreationTask.applyRecovered claimed).run env input db =
        (db, some (.markRecovered claimed)) := by
      simp only [CreationTask.run, hanswered, afterApplied]
    have hrunMarked : (CreationTask.markRecovered claimed).run env input db = (db', some (.finish row.ticket)) := by
      simp only [CreationTask.run, transact, ← hticket, hmarked]
    rw [List.replicate_succ, CreationTask.follow, hrunOwned, List.replicate_succ, CreationTask.follow, hrunApplied,
      List.replicate_succ, CreationTask.follow, hrunMarked]
    exact (hconfirmed.ends rfl n).of_slot rfl

/-- A recovery that nothing interrupts commits a creation that was sent and whose lease lapsed, if it finds the
session. -/
theorem CleanupInvariant.completes (env : Env) (h : CleanupInvariant db) (hrow : row ∈ db.provisionings)
    (hsent : row.IsSent) (hlapsed : leaseRunning claiming.now row.leaseExpiresAt = false)
    (hactive : claiming.execution.isActive = true) (hfinds : FindsOwn row payload found input)
    (hintime : input.now < claiming.now + claiming.execution.remainingMs + 5000)
    (hrecordable : row.instanceId = none → db.Recordable row found.2.providerInstanceId input.id) :
    ∃ item, Committed row item
      (CreationTask.follow env (claiming :: List.replicate 7 input) (db, some (.claim row.id))).1 := by
  let taken := row.taken claiming.now claiming.execution claiming.leaseOwner
  let db₁ := db.updateProvisioning row.id (·.taken claiming.now claiming.execution claiming.leaseOwner)
  have hclaim : (CreationTask.claim row.id).run env claiming db = (db₁, some (.fetch taken)) := by
    simp only [CreationTask.run, transact, claim_sent h hrow hsent hlapsed hactive, Option.map_some]
    rfl
  have hkeeps : CreationKeeps db ((CreationTask.claim row.id).run env claiming db) :=
    CreationTask.run_keeps claiming h trivial
  rw [hclaim] at hkeeps
  have hholds : CleanupInvariant db₁ := hkeeps.holds
  have hfound : db₁.provisionings.find? taken.id = some taken := by
    change (db.updateProvisioning row.id (·.taken claiming.now claiming.execution
      claiming.leaseOwner)).provisionings.find? row.id = some taken
    rw [find?_updateProvisioning, show db.provisionings.find? row.id = some row from Table.find?_key hrow,
      Option.map_some, if_pos rfl]
  have hsentTaken : taken.IsSent := hsent
  have hfindsTaken : FindsOwn taken payload found input :=
    ⟨hfinds.isActive, hfinds.request, hfinds.named, hfinds.required, hfinds.sessions, hfinds.identified, hfinds.applied⟩
  have howns : db₁.Owns taken.ticket taken := ⟨hfound, rfl, hsentTaken.isOpen⟩
  have hfetch := fetch_records env hholds (Table.find?_eq_some.mp hfound).1 hsentTaken hfindsTaken
  obtain ⟨item, db₂, row', hrecord, hconfirmed, hticket, hlease, hslot⟩ :=
    recordCreated_confirms hholds input
      { instanceName := taken.instanceName, instanceId := found.2.providerInstanceId,
        status := found.2.status.getD "disconnected" } howns hsentTaken hfinds.request hfinds.named
      fun hnone => ⟨(hrecordable hnone).fresh, (hrecordable hnone).token, (hrecordable hnone).session⟩
  have hrunRecord : (CreationTask.recordRecovered taken payload
      { instanceName := taken.instanceName, instanceId := found.2.providerInstanceId,
        status := found.2.status.getD "disconnected" }).run env input db₁ =
      (db₂, some (afterRecovered input taken payload)) := by
    simp only [CreationTask.run, transact, hrecord]
  have hrunning : leaseRunning input.now row'.leaseExpiresAt = true := by
    rw [hlease]
    exact decide_eq_true hintime
  refine ⟨item, ?_⟩
  rw [CreationTask.follow, hclaim, List.replicate_succ, CreationTask.follow, hfetch, List.replicate_succ,
    CreationTask.follow, hrunRecord]
  exact (hconfirmed.goesOn hfindsTaken hticket hrunning 0).of_slot hslot

/-- A recovery that nothing interrupts releases a creation that was never sent and whose lease lapsed. -/
theorem CleanupInvariant.expires (env : Env) (h : CleanupInvariant db) (hrow : row ∈ db.provisionings)
    (hstate : row.state = .reserved) (hlapsed : leaseRunning claiming.now row.leaseExpiresAt = false)
    (hactive : claiming.execution.isActive = true) :
    (CreationTask.follow env [claiming] (db, some (.claim row.id))).1.provisionings.find? row.id =
      some row.expired := by
  have hclaim : (CreationTask.claim row.id).run env claiming db =
      ((db.updateProvisioning row.id (·.expired)).advanceOccupancy row.vpsProviderId, none) := by
    simp only [CreationTask.run, transact, claim_reserved h hrow hstate hlapsed hactive, Option.map_none]
  rw [CreationTask.follow, hclaim]
  change (db.updateProvisioning row.id (·.expired)).provisionings.find? row.id = some row.expired
  rw [find?_updateProvisioning, show db.provisionings.find? row.id = some row from Table.find?_key hrow,
    Option.map_some, if_pos rfl]

end Runs

/-- In every state that creations, recoveries and removals reach together, next to imports and whatever else keeps
creations and instances, an open creation whose lease lapsed can be taken to its end, whatever stopped its executor and
whatever the other executors are about to do. One that was never sent is released. One that was sent is committed, with
an instance of its own, by a recovery that finds the session of the creation, as long as the session can be recorded and
what the request requires can be applied. -/
theorem creation_recovered {env : Env} {p q : Pool Database CreationTask} {es : List Unit}
    (hidle : CreationsIdle p) (hrun : Run (CreationStep env) p es q) :
    ∀ row ∈ q.shared.provisionings, ∀ claiming : CreationInput,
      leaseRunning claiming.now row.leaseExpiresAt = false → claiming.execution.isActive = true →
      (row.state = .reserved → ∃ es' q', Run (CreationStep env) q es' q' ∧
        q'.shared.provisionings.find? row.id = some row.expired) ∧
      (row.IsSent → ∀ (input : CreationInput) payload found, FindsOwn row payload found input →
        input.now < claiming.now + claiming.execution.remainingMs + 5000 →
        (row.instanceId = none → q.shared.Recordable row found.2.providerInstanceId input.id) →
        ∃ es' q' item, Run (CreationStep env) q es' q' ∧ Committed row item q'.shared) := by
  intro row hrow claiming hlapsed hactive
  obtain ⟨hholds, -⟩ := creationsRight hidle hrun
  have hstarted : CreationStep env q () ⟨q.shared, .claim row.id :: q.tasks⟩ := .came (CreationMove.recover row.id)
  refine ⟨fun hstate => ?_, fun hsent input payload found hfinds hintime hrecordable => ?_⟩
  · obtain ⟨es', hfollow⟩ := CreationTask.follow_run env [claiming] (q.shared, some (.claim row.id)) q.tasks
    exact ⟨_, _, .cons hstarted hfollow, hholds.expires env hrow hstate hlapsed hactive⟩
  · obtain ⟨item, hcommitted⟩ := hholds.completes env hrow hsent hlapsed hactive hfinds hintime hrecordable
    obtain ⟨es', hfollow⟩ := CreationTask.follow_run env (claiming :: List.replicate 7 input)
      (q.shared, some (.claim row.id)) q.tasks
    exact ⟨_, _, item, .cons hstarted hfollow, hcommitted⟩

/-- A create that is sent and not answered. -/
def smallUnanswered : List CreationInput :=
  let input : CreationInput :=
    { now := 0, execution := { remainingMs := 1000 }, id := smallTicket.id, leaseOwner := smallServer.id }
  [{ input with preparation := .chosen smallProvider.id ⟨smallProduct, smallProvider, [smallProvider.id]⟩
                  smallPayload },
   input, input, input]

/-- The answer of the provider that lists its session. -/
def smallFound : InstanceDto :=
  [("instanceName", .str "alice"), ("instanceId", .str "remote"), ("token", .str "token")]

/-- In the small installation such a create is completed by a recovery that finds its session. -/
theorem creation_recovered_small :
    let s := CreationTask.follow smallEnv smallUnanswered (smallDatabase, some (.prepare smallProduct.id "alice"))
    s.1.provisionings.rows.map (·.state) = [.uncertain] ∧
      ∀ row ∈ s.1.provisionings, ∃ es q item,
        Run (CreationStep smallEnv) ⟨s.1, s.2.toList ++ []⟩ es q ∧ Committed row item q.shared := by
  intro s
  have hidle : CreationsIdle ⟨smallDatabase, []⟩ :=
    ⟨rfl, fun r hr => absurd hr List.not_mem_nil, fun i hi => absurd hi List.not_mem_nil⟩
  obtain ⟨es, hfollow⟩ := CreationTask.follow_run smallEnv smallUnanswered
    (smallDatabase, some (.prepare smallProduct.id "alice")) []
  have hstarted : CreationStep smallEnv ⟨smallDatabase, []⟩ () ⟨smallDatabase, [.prepare smallProduct.id "alice"]⟩ :=
    .came (CreationMove.createInstance smallProduct.id "alice")
  refine ⟨by decide, fun row hrow => ?_⟩
  have hleft : ∀ row ∈ s.1.provisionings.rows, row.state = .uncertain ∧
      leaseRunning 100000000 row.leaseExpiresAt = false ∧ row.encryptedRequest = some ⟨some smallPayload⟩ ∧
      row.instanceName = "alice" ∧ row.providerInstanceId = none := by decide
  obtain ⟨hstate, hlapsed, hrequest, hname, hsession⟩ := hleft row hrow
  have hempty : s.1.instances.rows = [] := by decide
  let claiming : CreationInput :=
    { now := 100000000, execution := { remainingMs := 1000 }, id := smallProvider.id, leaseOwner := smallServer.id,
      listed := .ok [smallFound] }
  have hfinds : FindsOwn row smallPayload (smallFound, ⟨"alice", some "remote", none⟩) claiming :=
    ⟨rfl, hrequest, by decide, fun _ => rfl, ⟨[smallFound], [⟨"alice", some "remote", none⟩], rfl, by decide, by
      rw [hname]
      rfl⟩, by
      rw [InstanceProvisioning.identifies, hsession]
      decide, nofun⟩
  obtain ⟨-, hsent⟩ := creation_recovered hidle (.cons hstarted hfollow) row hrow claiming hlapsed rfl
  exact hsent (.inr hstate) claiming smallPayload _ hfinds (by decide) fun _ =>
    ⟨fun i hi => absurd (hempty ▸ hi : i ∈ ([] : List Instance)) List.not_mem_nil, fun i hi =>
      absurd (hempty ▸ hi : i ∈ ([] : List Instance)) List.not_mem_nil, fun _ i hi =>
      absurd (hempty ▸ hi : i ∈ ([] : List Instance)) List.not_mem_nil⟩

end ConnectHub
