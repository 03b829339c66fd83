import ConnectHub.ProvisioningRuns

/-!
# What one step does to one creation

A creation is never deleted, so every step turns its row into a row with the same id. `RowChange`
lists the ways, with the guards under which the code takes them; the facts about states, leases and
payloads are read off it.
-/

namespace ConnectHub

open Store

/-- A creation whose instance is recorded and whose required webhook is applied. -/
def InstanceProvisioning.Confirmed (row : InstanceProvisioning) : Prop :=
  row.instanceId ≠ none ∧ ∃ payload, row.encryptedRequest = some ⟨some payload⟩ ∧
    payload.webhookApplied = true

/-- No instance that is left is the one a row named. -/
def InstanceProvisioning.Bereft (row : InstanceProvisioning) (db' : Database) : Prop :=
  ∀ i ∈ db'.instances, row.instanceId ≠ some i.id

/-- The ways in which an operation changes the row of a creation, on its way to the database `db'`. -/
inductive RowChange (env : Env) (op : Operation) (db' : Database) (row : InstanceProvisioning) :
    InstanceProvisioning → Prop
  | kept : RowChange env op db' row row
  | detached (bereft : row.Bereft db') : RowChange env op db' row row.detached
  | sent {now execution ticket} (operation : op = .markCreating now execution ticket)
      (ticket_id : ticket.id = row.id) (reserved : row.state = .reserved) : RowChange env op db' row row.sent
  | recorded {now ticket result instanceId} (operation : op = .recordCreated now ticket result instanceId)
      (awaiting : row.state = .creating ∨ row.state = .uncertain) (unrecorded : row.instanceId = none) :
      RowChange env op db' row (row.recorded instanceId result.instanceId)
  | webhookMarked {payload} (isOpen : row.isOpen = true) :
      RowChange env op db' row (row.webhookMarked payload)
  | finished (awaiting : row.state = .creating ∨ row.state = .uncertain) (confirmed : row.Confirmed) :
      RowChange env op db' row row.finished
  | cleaning (isOpen : row.isOpen = true) (unreserved : row.state ≠ .reserved) :
      RowChange env op db' row row.cleaning
  | abandoned {now ticket} (operation : op = .abandon now ticket) (ticket_id : ticket.id = row.id)
      (owner : row.leaseOwner = ticket.leaseOwner) (isOpen : row.isOpen = true) :
      RowChange env op db' row (row.abandoned env now)
  | expired (reserved : row.state = .reserved) : RowChange env op db' row row.expired
  | taken {now execution leaseOwner} (operation : op = .claim now execution row.id leaseOwner)
      (isOpen : row.isOpen = true) (unreserved : row.state ≠ .reserved) :
      RowChange env op db' row (row.taken now execution leaseOwner)
  | cleaned {instanceId productId providerId ticket}
      (operation : op = .removeConfirmed instanceId productId providerId (some ticket))
      (ticket_id : ticket.id = row.id) (isOpen : row.isOpen = true) : RowChange env op db' row row.cleaned
  | cleanedDetached {instanceId productId providerId ticket}
      (operation : op = .removeConfirmed instanceId productId providerId (some ticket))
      (ticket_id : ticket.id = row.id) (isOpen : row.isOpen = true) (bereft : row.Bereft db') :
      RowChange env op db' row row.detached.cleaned

section Identity

variable {env : Env} {op : Operation} {db' : Database} {row row' : InstanceProvisioning}

/-- A change keeps the row's identity. -/
theorem RowChange.id_eq (h : RowChange env op db' row row') : row'.id = row.id := by
  cases h with
  | abandoned => exact InstanceProvisioning.abandoned_id env _ row
  | kept | detached | sent | recorded | webhookMarked | finished | cleaning | expired | taken | cleaned
  | cleanedDetached => rfl

/-- It keeps the provider and the name the row claims. -/
theorem RowChange.claim_eq (h : RowChange env op db' row row') :
    row'.vpsProviderId = row.vpsProviderId ∧ row'.instanceName = row.instanceName := by
  cases h with
  | abandoned =>
    unfold InstanceProvisioning.abandoned
    split <;> exact ⟨rfl, rfl⟩
  | kept | detached | sent | recorded | webhookMarked | finished | cleaning | expired | taken | cleaned
  | cleanedDetached => exact ⟨rfl, rfl⟩

/-- It keeps the product the row is for. -/
theorem RowChange.productId_eq (h : RowChange env op db' row row') : row'.productId = row.productId := by
  cases h with
  | abandoned =>
    unfold InstanceProvisioning.abandoned
    split <;> rfl
  | kept | detached | sent | recorded | webhookMarked | finished | cleaning | expired | taken | cleaned
  | cleanedDetached => rfl

end Identity

section Changes

variable {env : Env} {db db' : Database} {op : Operation} {outcome : Outcome} {k id : Uuid}
  {row row₀ : InstanceProvisioning}

/-- After one row is changed, a row is that one in its new form, or as it was. -/
theorem find?_update {f : InstanceProvisioning → InstanceProvisioning} (hf : ∀ r, (f r).id = r.id)
    (hfound : db.provisionings.find? id = some row₀) (hrow : db.provisionings.find? k = some row) :
    (db.updateProvisioning id f hf).provisionings.find? k = some row ∨
      row = row₀ ∧ (db.updateProvisioning id f hf).provisionings.find? k = some (f row) := by
  rw [find?_updateProvisioning, hrow, Option.map_some]
  by_cases hid : row.id = id
  · right
    obtain ⟨hmem, -⟩ := Table.find?_eq_some.mp hrow
    obtain ⟨hmem₀, hid₀⟩ := Table.find?_eq_some.mp hfound
    exact ⟨Table.eq_of_key_eq hmem hmem₀ (hid.trans hid₀.symm), by rw [if_pos hid]⟩
  · left
    rw [if_neg hid]

/-- An update of one row that is one of the ways to change it. -/
theorem rowChange_update {f : InstanceProvisioning → InstanceProvisioning}
    (hfound : db.provisionings.find? id = some row₀) (hrow : db.provisionings.find? k = some row)
    (hchange : RowChange env op db' row₀ (f row₀)) (hf : ∀ r, (f r).id = r.id)
    (h : db'.provisionings = db.provisionings.modify (fun r => r.id = id) f hf) :
    ∃ row', db'.provisionings.find? k = some row' ∧ RowChange env op db' row row' := by
  have hupdated : db'.provisionings = (db.updateProvisioning id f hf).provisionings := h
  rw [hupdated]
  rcases find?_update hf hfound hrow with hsame | ⟨rfl, hnew⟩
  · exact ⟨row, hsame, RowChange.kept⟩
  · exact ⟨f row, hnew, hchange⟩

/-- After an instance is dropped, a row names it no more. -/
theorem find?_dropInstance (item : Instance) (hrow : db.provisionings.find? k = some row) :
    (db.dropInstance item).provisionings.find? k =
      some (if row.instanceId = some item.id then row.detached else row) := by
  simp only [Database.dropInstance, Database.deleteInstance_provisionings,
    Database.deleteInventoryNamed_provisionings, Table.find?_modify, hrow, Option.map_some,
    decide_eq_true_eq]

/-- A row that named a dropped instance names none that is left. -/
theorem bereft_dropInstance {item : Instance} (hinstances : db'.instances = (db.dropInstance item).instances)
    (hrow : row.instanceId = some item.id) : row.Bereft db' := by
  intro i hi hnamed
  rw [hinstances] at hi
  exact (mem_dropInstance_instances.mp hi).2 (Option.some.inj (hnamed.symm.trans hrow))

/-- An operation changes every row in one of the ways. -/
theorem Effect.row_change (h : Effect env db op outcome db') (hrow : db.provisionings.find? k = some row) :
    ∃ row', db'.provisionings.find? k = some row' ∧ RowChange env op db' row row' := by
  cases h with
  | idle | recordedAgain | linked | imported => exact ⟨row, hrow, RowChange.kept⟩
  | prepared _ _ _ _ _ _ hinserted =>
    refine ⟨row, ?_, RowChange.kept⟩
    obtain ⟨hmem, hk⟩ := Table.find?_eq_some.mp hrow
    exact Table.find?_eq_some.mpr ⟨(Table.mem_insert? hinserted).mpr (Or.inl hmem), hk⟩
  | @sent _ _ ticket product _ _ _ _ _ howns hreserved =>
    obtain ⟨links, hlinks⟩ := admissionBase_eq db product ticket.vpsProviderId
    rw [hlinks]
    exact rowChange_update howns.found hrow (RowChange.sent rfl howns.id_eq.symm hreserved)
      (fun _ => rfl) rfl
  | recorded howns _ hawaiting hunrecorded =>
    exact rowChange_update howns.found hrow (RowChange.recorded rfl hawaiting hunrecorded)
      (fun _ => rfl) rfl
  | webhookMarked howns =>
    exact rowChange_update howns.found hrow (RowChange.webhookMarked howns.isOpen) (fun _ => rfl) rfl
  | finished howns hpayload hawaiting hrecorded hwebhook =>
    exact rowChange_update howns.found hrow (RowChange.finished hawaiting ⟨hrecorded, _, hpayload, hwebhook⟩)
      (fun _ => rfl) rfl
  | cleaning howns hunreserved =>
    exact rowChange_update howns.found hrow (RowChange.cleaning howns.isOpen hunreserved)
      (fun _ => rfl) rfl
  | abandoned howns =>
    exact rowChange_update howns.found hrow
      (RowChange.abandoned rfl howns.id_eq.symm howns.owner howns.isOpen)
      (InstanceProvisioning.abandoned_id env _) rfl
  | expired hfound _ hreserved =>
    exact rowChange_update hfound hrow (RowChange.expired hreserved) (fun _ => rfl) rfl
  | taken hfound _ hopen hunreserved =>
    obtain ⟨-, hid : _ = _⟩ := Table.find?_eq_some.mp hfound
    subst hid
    exact rowChange_update hfound hrow (RowChange.taken rfl hopen hunreserved) (fun _ => rfl) rfl
  | @removedOwned _ _ _ ticket row₀ item howns =>
    have hdropped := find?_dropInstance item hrow
    have hdropped₀ := find?_dropInstance item howns.found
    rcases find?_update (f := (·.cleaned)) (fun _ => rfl) hdropped₀ hdropped with hsame | ⟨heq, hnew⟩
    · refine ⟨_, hsame, ?_⟩
      split
      · next hnamed => exact RowChange.detached (bereft_dropInstance rfl hnamed)
      · exact RowChange.kept
    · refine ⟨_, hnew, ?_⟩
      have hid : row.id = row₀.id := by
        have := congrArg InstanceProvisioning.id heq
        split at this <;> split at this <;> exact this
      obtain rfl : row = row₀ := Table.eq_of_key_eq (Table.find?_eq_some.mp hrow).1
        (Table.find?_eq_some.mp howns.found).1 hid
      split
      · next hnamed =>
        exact RowChange.cleanedDetached rfl howns.id_eq.symm howns.isOpen (bereft_dropInstance rfl hnamed)
      · exact RowChange.cleaned rfl howns.id_eq.symm howns.isOpen
  | removed =>
    refine ⟨_, find?_dropInstance _ hrow, ?_⟩
    split
    · next hnamed => exact RowChange.detached (bereft_dropInstance rfl hnamed)
    · exact RowChange.kept

/-- A row that was not there before an operation is the one it reserved. -/
theorem Effect.row_created {row' : InstanceProvisioning} (h : Effect env db op outcome db')
    (hnone : db.provisionings.find? k = none) (hrow : db'.provisionings.find? k = some row') :
    ∃ now execution productId providerId seen payload instanceName leaseOwner,
      op = .prepare now execution productId providerId seen payload instanceName k leaseOwner ∧
      row' = reservation now execution productId providerId payload instanceName k leaseOwner := by
  cases h with
  | idle | recordedAgain | linked | imported =>
    simp only [advanceOccupancy_provisionings, hnone, reduceCtorEq] at hrow
  | prepared _ _ _ _ _ _ hinserted =>
    have hmem := Table.find?_eq_some.mp hrow
    rcases (Table.mem_insert? hinserted).mp hmem.1 with hold | rfl
    · exact absurd hmem.2 (Table.find?_eq_none.mp hnone row' hold)
    · obtain rfl : _ = k := hmem.2
      exact ⟨_, _, _, _, _, _, _, _, rfl, rfl⟩
  | sent | recorded | webhookMarked | finished | cleaning | abandoned | expired | taken =>
    simp only [advanceOccupancy_provisionings, Database.updateProduct_provisionings,
      find?_updateProvisioning, admissionBase_provisionings, hnone, Option.map_none, reduceCtorEq] at hrow
  | removedOwned | removed =>
    simp only [advanceOccupancy_provisionings, find?_updateProvisioning, Database.dropInstance,
      Database.deleteInstance_provisionings, Database.deleteInventoryNamed_provisionings,
      Table.find?_modify, hnone, Option.map_none, reduceCtorEq] at hrow

/-- A row after an operation was just reserved, or is what a row that was there became. -/
theorem Effect.row_before {row' : InstanceProvisioning} (h : Effect env db op outcome db')
    (hrow : db'.provisionings.find? k = some row') :
    (row'.state = .reserved ∧ row'.instanceId = none) ∨
      ∃ row, db.provisionings.find? k = some row ∧ RowChange env op db' row row' := by
  cases hfound : db.provisionings.find? k with
  | none =>
    obtain ⟨_, _, _, _, _, _, _, _, -, hreserved⟩ := h.row_created hfound hrow
    rw [hreserved]
    exact Or.inl ⟨rfl, rfl⟩
  | some row =>
    obtain ⟨changed, hchanged, hchange⟩ := h.row_change hfound
    have hsame : changed = row' := Option.some.inj (hchanged.symm.trans hrow)
    exact Or.inr ⟨row, rfl, hsame ▸ hchange⟩

end Changes

end ConnectHub
