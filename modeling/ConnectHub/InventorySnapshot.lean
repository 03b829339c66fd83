import ConnectHub.Inventory
import ConnectHub.ProvisioningLifecycle
import ConnectHub.Providers

/-!
# A published inventory is a snapshot

While a refresh collects, creations, removals, links, provider edits and other refreshes go on. Each
operation that changes which instances or open creations a provider has counts a change of
occupancy, so a publication that finds the count it was leased under finds the same instances and
the same open creations. What it calls absent therefore existed before the collection began.
-/

namespace ConnectHub

open Store

/-- The instances and the open creations of a provider, by id. -/
def Database.holders (db : Database) (v : Uuid) : Finset Uuid × Finset Uuid :=
  (((db.instancesOf v).map (·.id)).toFinset, ((db.reservationsOf v).map (·.id)).toFinset)

/-- How many changes of occupancy a provider counted. -/
def Database.occupancyRevisionOf (db : Database) (v : Uuid) : Nat :=
  ((db.providers.find? v).map (·.occupancyRevision)).getD 0

/-- How many inventories of a provider were published. -/
def Database.inventoryRevisionOf (db : Database) (v : Uuid) : Nat :=
  ((db.providers.find? v).map (·.inventoryRevision)).getD 0

section Holders

variable {db db' : Database} {v id : Uuid}

/-- An instance of a provider is one of the instances on it. -/
theorem mem_holders_instances :
    id ∈ (db.holders v).1 ↔ ∃ i ∈ db.instances, i.vpsProviderId = v ∧ i.id = id := by
  simp only [Database.holders, Database.instancesOf, List.mem_toFinset, List.mem_map, List.mem_filter,
    decide_eq_true_eq, and_assoc]
  rfl

/-- An open creation of a provider is one of the open creations on it. -/
theorem mem_holders_rows : id ∈ (db.holders v).2 ↔
    ∃ r ∈ db.provisionings, r.vpsProviderId = v ∧ r.isOpen = true ∧ r.id = id := by
  simp only [Database.holders, Database.reservationsOf, List.mem_toFinset, List.mem_map, List.mem_filter,
    Bool.and_eq_true, decide_eq_true_eq, and_assoc]
  rfl

/-- The holders of a provider depend on its instances and its open creations alone. -/
theorem holders_eq (hinstances : ∀ i : Instance, i.vpsProviderId = v → (i ∈ db'.instances ↔ i ∈ db.instances))
    (hrows : (db'.holders v).2 = (db.holders v).2) : db'.holders v = db.holders v := by
  refine Prod.ext (Finset.ext fun id => ?_) hrows
  rw [mem_holders_instances, mem_holders_instances]
  constructor
  · rintro ⟨i, hi, hv, hid⟩
    exact ⟨i, (hinstances i hv).mp hi, hv, hid⟩
  · rintro ⟨i, hi, hv, hid⟩
    exact ⟨i, (hinstances i hv).mpr hi, hv, hid⟩

/-- Changing a row keeps the open creations of a provider, if the row is on another provider, or was
open and stays open. -/
theorem holders_rows_update {row : InstanceProvisioning} (f : InstanceProvisioning → InstanceProvisioning)
    (hf : ∀ r, (f r).id = r.id) (hfound : db.provisionings.find? id = some row)
    (hprovider : (f row).vpsProviderId = row.vpsProviderId)
    (hopen : row.vpsProviderId ≠ v ∨ (row.isOpen = true ∧ (f row).isOpen = true))
    (h : db'.provisionings = (db.updateProvisioning id f hf).provisionings) :
    (db'.holders v).2 = (db.holders v).2 := by
  obtain ⟨hmem, hid⟩ := Table.find?_eq_some.mp hfound
  have hunique : ∀ r ∈ db.provisionings, r.id = id → r = row := fun r hr hrid =>
    Table.eq_of_key_eq hr hmem (hrid.trans hid.symm)
  refine Finset.ext fun k => ?_
  rw [mem_holders_rows, mem_holders_rows, h]
  constructor
  · rintro ⟨r', hr', hv, ho, hk⟩
    obtain ⟨r, hr, rfl⟩ := mem_updateProvisioning.mp hr'
    by_cases hrid : r.id = id
    · obtain rfl := hunique r hr hrid
      rw [if_pos hrid] at hv hk
      rw [hprovider] at hv
      rcases hopen with hne | ⟨hwas, -⟩
      · exact absurd hv hne
      · exact ⟨r, hr, hv, hwas, (hf r).symm.trans hk⟩
    · rw [if_neg hrid] at hv ho hk
      exact ⟨r, hr, hv, ho, hk⟩
  · rintro ⟨r, hr, hv, ho, hk⟩
    refine ⟨if r.id = id then f r else r, mem_updateProvisioning.mpr ⟨r, hr, rfl⟩, ?_⟩
    by_cases hrid : r.id = id
    · obtain rfl := hunique r hr hrid
      rw [if_pos hrid]
      rcases hopen with hne | ⟨-, hstays⟩
      · exact absurd hv hne
      · exact ⟨hprovider.trans hv, hstays, (hf r).trans hk⟩
    · rw [if_neg hrid]
      exact ⟨hv, ho, hk⟩

/-- Deleting an instance keeps the open creations of every provider. -/
theorem holders_rows_dropInstance (item : Instance) :
    ((db.dropInstance item).holders v).2 = (db.holders v).2 := by
  refine Finset.ext fun k => ?_
  rw [mem_holders_rows, mem_holders_rows]
  constructor
  · rintro ⟨r', hr', hv, ho, hk⟩
    obtain ⟨r, hr, rfl⟩ := mem_dropInstance_provisionings.mp hr'
    refine ⟨r, hr, ?_⟩
    split at hv <;> split at ho <;> split at hk <;> exact ⟨hv, ho, hk⟩
  · rintro ⟨r, hr, hv, ho, hk⟩
    refine ⟨_, mem_dropInstance_provisionings.mpr ⟨r, hr, rfl⟩, ?_⟩
    split <;> exact ⟨hv, ho, hk⟩

/-- Adding a row keeps the open creations of every other provider. -/
theorem holders_rows_insert {row : InstanceProvisioning} {provisionings : Table InstanceProvisioning}
    (hinserted : db.provisionings.insert? row = some provisionings) (hne : row.vpsProviderId ≠ v)
    (h : db'.provisionings = provisionings) : (db'.holders v).2 = (db.holders v).2 := by
  refine Finset.ext fun k => ?_
  rw [mem_holders_rows, mem_holders_rows, h]
  constructor
  · rintro ⟨r, hr, hv, ho, hk⟩
    rcases (Table.mem_insert? hinserted).mp hr with hr | rfl
    · exact ⟨r, hr, hv, ho, hk⟩
    · exact absurd hv hne
  · rintro ⟨r, hr, hv, ho, hk⟩
    exact ⟨r, (Table.mem_insert? hinserted).mpr (Or.inl hr), hv, ho, hk⟩

/-- Adding an instance keeps the instances of every other provider. -/
theorem mem_instances_insert {item : Instance} {instances : Table Instance}
    (hinserted : db.instances.insert? item = some instances) (hne : item.vpsProviderId ≠ v) (i : Instance)
    (hi : i.vpsProviderId = v) : i ∈ instances ↔ i ∈ db.instances := by
  rw [Table.mem_insert? hinserted, or_iff_left]
  rintro rfl
  exact hne hi

/-- Deleting an instance keeps the instances of every other provider. -/
theorem mem_instances_dropInstance {item : Instance} (hitem : item ∈ db.instances)
    (hne : item.vpsProviderId ≠ v)
    (i : Instance) (hi : i.vpsProviderId = v) : i ∈ (db.dropInstance item).instances ↔ i ∈ db.instances := by
  rw [mem_dropInstance_instances, and_iff_left_of_imp]
  intro hmem hid
  exact hne (Table.eq_of_key_eq hmem hitem hid ▸ hi)

end Holders

section Counting

variable {env : Env} {db db' : Database} {op : Operation} {outcome : Outcome}

/-- A removal under a ticket is of an instance on the provider of the ticket's row. -/
def Operation.RemovesOwn (db : Database) (op : Operation) : Prop :=
  ∀ instanceId productId providerId ticket row item,
    op = .removeConfirmed instanceId productId providerId (some ticket) → db.Owns ticket row →
      db.instances.find? instanceId = some item → item.vpsProviderId = row.vpsProviderId

/-- An operation either keeps every provider's holders and counts nothing, or counts one change of
occupancy and keeps the holders of every other provider. -/
theorem Effect.holders (h : Effect env db op outcome db') (hown : op.RemovesOwn db) :
    (db'.providers = db.providers ∧ ∀ v, db'.holders v = db.holders v) ∨
      ∃ p, db.providers.find? p ≠ none ∧ db'.providers = (db.advanceOccupancy p).providers ∧
        ∀ v, p ≠ v → db'.holders v = db.holders v := by
  cases h with
  | idle | recordedAgain => exact Or.inl ⟨rfl, fun _ => rfl⟩
  | @prepared _ _ _ providerId _ _ _ _ _ product _ _ _ hprovider _ _ _ _ hinserted =>
    refine Or.inr ⟨providerId, by simp [hprovider], ?_, fun v hne => ?_⟩
    · obtain ⟨links, hlinks⟩ := admissionBase_eq db product providerId
      rw [hlinks]
      rfl
    · refine holders_eq (fun i _ => ?_) (holders_rows_insert hinserted hne rfl)
      rw [advanceOccupancy_instances]
      exact iff_of_eq (congrArg (i ∈ ·) (admissionBase_instances db product providerId))
  | @sent _ _ ticket product _ row _ _ _ howns =>
    obtain ⟨links, hlinks⟩ := admissionBase_eq db product ticket.vpsProviderId
    rw [hlinks]
    refine Or.inl ⟨rfl, fun v => holders_eq (fun _ _ => Iff.rfl) ?_⟩
    exact holders_rows_update (·.sent) (fun _ => rfl) howns.found rfl (Or.inr ⟨howns.isOpen, rfl⟩) rfl
  | @recorded _ _ result instanceId row _ _ howns _ hawaiting _ _ hinserted hprovider =>
    refine Or.inr ⟨row.vpsProviderId, hprovider, rfl, fun v hne => holders_eq ?_ ?_⟩
    · exact mem_instances_insert hinserted hne
    · exact holders_rows_update (·.recorded instanceId result.instanceId) (fun _ => rfl) howns.found rfl
        (Or.inl hne) rfl
  | @webhookMarked _ row payload howns =>
    refine Or.inl ⟨rfl, fun v => holders_eq (fun _ _ => Iff.rfl) ?_⟩
    exact holders_rows_update (·.webhookMarked payload) (fun _ => rfl) howns.found rfl
      (Or.inr ⟨howns.isOpen, howns.isOpen⟩) rfl
  | @finished _ _ row _ howns _ _ _ _ hprovider =>
    refine Or.inr ⟨row.vpsProviderId, hprovider, rfl, fun v hne => holders_eq (fun _ _ => Iff.rfl) ?_⟩
    exact holders_rows_update (·.finished) (fun _ => rfl) howns.found rfl (Or.inl hne) rfl
  | @cleaning _ row howns =>
    refine Or.inl ⟨rfl, fun v => holders_eq (fun _ _ => Iff.rfl) ?_⟩
    exact holders_rows_update (·.cleaning) (fun _ => rfl) howns.found rfl (Or.inr ⟨howns.isOpen, rfl⟩) rfl
  | @abandoned now _ row howns hprovider =>
    refine Or.inr ⟨row.vpsProviderId, hprovider, rfl, fun v hne => holders_eq (fun _ _ => Iff.rfl) ?_⟩
    refine holders_rows_update (·.abandoned env now)
      (InstanceProvisioning.abandoned_id env now) howns.found ?_
      (Or.inl hne) rfl
    unfold InstanceProvisioning.abandoned
    split <;> rfl
  | @expired _ _ _ _ row hfound _ _ hprovider =>
    refine Or.inr ⟨row.vpsProviderId, hprovider, rfl, fun v hne => holders_eq (fun _ _ => Iff.rfl) ?_⟩
    exact holders_rows_update (·.expired) (fun _ => rfl) hfound rfl (Or.inl hne) rfl
  | @taken now execution _ leaseOwner row hfound _ hopen =>
    refine Or.inl ⟨rfl, fun v => holders_eq (fun _ _ => Iff.rfl) ?_⟩
    exact holders_rows_update (·.taken now execution leaseOwner) (fun _ => rfl) hfound rfl
      (Or.inr ⟨hopen, hopen⟩) rfl
  | @removedOwned _ _ providerId ticket row item howns hfound hitem hprovider =>
    refine Or.inr ⟨providerId, hprovider, rfl, fun v hne => ?_⟩
    have hitemNe : item.vpsProviderId ≠ v := fun h => hne (hitem.2.symm.trans h)
    have hrowNe : row.vpsProviderId ≠ v := fun h => hitemNe ((hown _ _ _ _ row item rfl howns hfound).trans h)
    refine holders_eq (mem_instances_dropInstance (Table.find?_eq_some.mp hfound).1 hitemNe) ?_
    refine Eq.trans ?_ (holders_rows_dropInstance item)
    have hdropped := find?_dropInstance item howns.found
    refine holders_rows_update (·.cleaned) (fun _ => rfl) hdropped rfl (Or.inl ?_) rfl
    split <;> exact hrowNe
  | @removed _ _ providerId item _ hfound hitem hprovider =>
    refine Or.inr ⟨providerId, hprovider, rfl, fun v hne => ?_⟩
    have hitemNe : item.vpsProviderId ≠ v := fun h => hne (hitem.2.symm.trans h)
    exact holders_eq (mem_instances_dropInstance (Table.find?_eq_some.mp hfound).1 hitemNe)
      (holders_rows_dropInstance item)
  | linked _ _ hinserted hprovider | imported _ _ hinserted hprovider =>
    exact Or.inr ⟨_, hprovider, rfl, fun v hne => holders_eq (mem_instances_insert hinserted hne) rfl⟩

/-- Counting a change of occupancy of a provider raises its revision and no other one. -/
theorem occupancyRevisionOf_advanceOccupancy {p v : Uuid} (hfound : db.providers.find? p ≠ none)
    (h : db'.providers = (db.advanceOccupancy p).providers) :
    db'.occupancyRevisionOf v = db.occupancyRevisionOf v + if p = v then 1 else 0 := by
  unfold Database.occupancyRevisionOf
  rw [h, find?_advanceOccupancy]
  cases hv : db.providers.find? v with
  | none =>
    have hne : p ≠ v := fun heq => hfound (heq ▸ hv)
    simp [hne]
  | some provider =>
    have hid : provider.id = v := (Table.find?_eq_some.mp hv).2
    by_cases hp : p = v
    · simp [hid, hp]
    · simp [hid, hp, Ne.symm hp]

/-- An operation that changes the holders of a provider counts it. -/
theorem Effect.holders_or_counted (h : Effect env db op outcome db') (hown : op.RemovesOwn db) (v : Uuid) :
    (db'.occupancyRevisionOf v = db.occupancyRevisionOf v ∧ db'.holders v = db.holders v) ∨
      db.occupancyRevisionOf v < db'.occupancyRevisionOf v := by
  rcases h.holders hown with ⟨hproviders, hsame⟩ | ⟨p, hfound, hproviders, hsame⟩
  · left
    refine ⟨?_, hsame v⟩
    unfold Database.occupancyRevisionOf
    rw [hproviders]
  · have hcount := occupancyRevisionOf_advanceOccupancy (v := v) hfound hproviders
    by_cases hp : p = v
    · right
      rw [if_pos hp] at hcount
      omega
    · left
      rw [if_neg hp] at hcount
      exact ⟨hcount, hsame v hp⟩

end Counting

section Attachment

variable {env : Env} {db db' : Database} {op : Operation} {outcome : Outcome} {s s' : System}
  {e : SystemEvent}

/-- A creation and the instance it names are on the same provider. -/
def Database.Attached (db : Database) : Prop :=
  ∀ r ∈ db.provisionings, ∀ i ∈ db.instances, r.instanceId = some i.id → i.vpsProviderId = r.vpsProviderId

/-- A row that names an instance after an operation named it before, or the operation recorded it. -/
theorem Effect.named_before (h : Effect env db op outcome db') {r' : InstanceProvisioning} {x : Uuid}
    (hr' : r' ∈ db'.provisionings) (hx : r'.instanceId = some x) :
    (∃ r ∈ db.provisionings, r.instanceId = some x ∧ r'.vpsProviderId = r.vpsProviderId) ∨
      ∃ now ticket result, op = .recordCreated now ticket result x := by
  have hfound' := Table.find?_key hr'
  cases hfound : db.provisionings.find? (Keyed.key r') with
  | none =>
    obtain ⟨_, _, _, _, _, _, _, _, -, hnew⟩ := h.row_created hfound hfound'
    rw [hnew] at hx
    cases hx
  | some r =>
    obtain ⟨r'', hr'', hchange⟩ := h.row_change hfound
    obtain rfl : r'' = r' := Option.some.inj (hr''.symm.trans hfound')
    rcases hchange.instanceId with hsame | hnone | ⟨-, now, ticket, result, y, rfl, hy⟩
    · exact Or.inl ⟨r, (Table.find?_eq_some.mp hfound).1, hsame ▸ hx, hchange.claim_eq.1⟩
    · cases hnone.symm.trans hx
    · obtain rfl : y = x := Option.some.inj (hy.symm.trans hx)
      exact Or.inr ⟨now, ticket, result, rfl⟩

/-- Fresh identifiers keep creations and the instances they name on the same provider. -/
theorem System.Sound.attached (hsound : s.Sound) (hpermits : s.Permits op) (hattached : s.db.Attached)
    (h : Effect env s.db op outcome db') : db'.Attached := by
  intro r' hr' i hi hnamed
  rcases h.named_before hr' hnamed with ⟨r, hr, hold, hprovider⟩ | ⟨now, ticket, result, rfl⟩
  · rcases h.instance_drawn hi with hi | hnew
    · exact (hattached r hr i hi hold).trans hprovider.symm
    · exact absurd (hsound.rows _ r (Table.find?_key hr) _ hold) (hpermits.fresh _ hnew)
  · have hfresh : i.id ∉ s.drawn := hpermits.fresh i.id List.mem_cons_self
    cases h with
    | idle hidles => cases hidles
    | recordedAgain => exact absurd (hsound.instances i hi) hfresh
    | @recorded _ _ _ _ row payload instances howns _ _ _ _ hinserted =>
      rcases (Table.mem_insert? hinserted).mp hi with hi | hi
      · exact absurd (hsound.instances i hi) hfresh
      · rw [advanceOccupancy_provisionings] at hr'
        obtain ⟨r, hr, rfl⟩ := mem_updateProvisioning.mp hr'
        have hprovider : i.vpsProviderId = row.vpsProviderId := by rw [hi]; rfl
        by_cases hid : r.id = ticket.id
        · rw [if_pos hid]
          obtain rfl : r = row := Table.eq_of_key_eq hr (Table.find?_eq_some.mp howns.found).1
            (hid.trans howns.id_eq.symm)
          exact hprovider
        · rw [if_neg hid] at hnamed
          exact absurd (hsound.rows _ r (Table.find?_key hr) _ hnamed) hfresh

/-- A step keeps creations and the instances they name on the same provider. -/
theorem SystemStep.attached (hsound : s.Sound) (hattached : s.db.Attached) (h : SystemStep env s e s') :
    s'.db.Attached := by
  cases h with
  | succeeded hpermits hrun => exact hsound.attached hpermits hattached (perform_effect hrun)
  | failed => exact hattached
  | reordered hsame =>
    intro r hr i hi
    exact hattached r (hsame.provisionings.mem_iff.mpr hr) i (hsame.instances.mem_iff.mpr hi)

/-- What an executor may remove under a ticket is the instance of the ticket's own row. -/
theorem System.Sound.removesOwn (hsound : s.Sound) (hattached : s.db.Attached) (hpermits : s.Permits op) :
    op.RemovesOwn s.db := by
  intro instanceId productId providerId ticket row item hop howns hfound
  obtain ⟨hitem, hid : item.id = instanceId⟩ := Table.find?_eq_some.mp hfound
  obtain ⟨-, row', hrow', hnamed⟩ := hsound.known ticket instanceId (hpermits.learnt _ _ _ _ hop)
  obtain rfl : row = row' := Option.some.inj (howns.found.symm.trans hrow')
  rcases hnamed with hnamed | hgone
  · exact hattached row (Table.find?_eq_some.mp hrow').1 item hitem (hid ▸ hnamed)
  · exact absurd hid (hgone item hitem)

/-- A step that changes the holders of a provider counts it. -/
theorem SystemStep.holders_or_counted (hsound : s.Sound) (hattached : s.db.Attached)
    (h : SystemStep env s e s')
    (v : Uuid) :
    (s'.db.occupancyRevisionOf v = s.db.occupancyRevisionOf v ∧ s'.db.holders v = s.db.holders v) ∨
      s.db.occupancyRevisionOf v < s'.db.occupancyRevisionOf v := by
  cases h with
  | succeeded hpermits hrun =>
    exact (perform_effect hrun).holders_or_counted (hsound.removesOwn hattached hpermits) v
  | failed => exact Or.inl ⟨rfl, rfl⟩
  | reordered hsame =>
    left
    rw [← hsame.rest]
    refine ⟨rfl, holders_eq (fun i _ => hsame.instances.mem_iff.symm) (Finset.ext fun k => ?_)⟩
    rw [mem_holders_rows, mem_holders_rows]
    exact exists_congr fun r => and_congr_left fun _ => hsame.provisionings.mem_iff.symm

/-- A step of the creations leaves a column of a provider, other than its occupancy revision, alone. -/
theorem SystemStep.provider_column {α : Type} (column : VpsProvider → α)
    (hcolumn : ∀ p n, column { p with occupancyRevision := n } = column p)
    (h : SystemStep env s e s') (v : Uuid) :
    (s'.db.providers.find? v).map column = (s.db.providers.find? v).map column := by
  cases h with
  | succeeded _ hrun => exact (perform_effect hrun).provider_column column hcolumn v
  | failed => rfl
  | reordered hsame => rw [← hsame.rest]

/-- A step of the creations leaves the refreshes alone. -/
theorem SystemStep.reconciliations (h : SystemStep env s e s') :
    s'.db.reconciliations = s.db.reconciliations := by
  cases h with
  | succeeded _ hrun => exact (perform_effect hrun).reconciliations
  | failed => rfl
  | reordered hsame => rw [← hsame.rest]

end Attachment

/-- The system of creations together with the leases of the refreshes that were started. -/
structure InventorySystem extends System where
  leases : List RefreshLease

/-- The system once its database is another one. -/
def InventorySystem.withDb (s : InventorySystem) (db : Database) : InventorySystem :=
  { s with db := db }

/-- What happens in one step: a step of the creations, or a transaction of a refresh, of a request for
one, or of a provider edit that committed. One that fails changes nothing. -/
inductive InventoryEvent
  | creation (e : SystemEvent)
  | requested (providerId : Uuid)
  | leased (lease : RefreshLease)
  | published (lease : RefreshLease) (inventoryRevision : Nat)
  | failed (lease : RefreshLease)
  | edited (providerId : Uuid)
deriving DecidableEq, Repr

/-- One step of the system. A refresh publishes or fails under a lease it was given. -/
inductive InventoryStep (env : Env) (s : InventorySystem) : InventoryEvent → InventorySystem → Prop
  | creation {e sys} (h : SystemStep env s.toSystem e sys) :
      InventoryStep env s (.creation e) { toSystem := sys, leases := s.leases }
  | requested {providerId expectedRevision id row db'}
      (run : (request providerId expectedRevision id).run s.db = .ok (row, db')) :
      InventoryStep env s (.requested providerId) (s.withDb db')
  | leased {now execution providerId owner id lease db'}
      (run : (refreshLease now execution providerId owner id).run s.db = .ok (lease, db')) :
      InventoryStep env s (.leased lease) { s.withDb db' with leases := lease :: s.leases }
  | published {now execution lease rows updated db'} (held : lease ∈ s.leases)
      (run : (refreshPublish now execution lease rows).run s.db = .ok (updated, db')) :
      InventoryStep env s (.published lease updated.inventoryRevision) (s.withDb db')
  | failed {now execution lease db'} (held : lease ∈ s.leases)
      (run : (refreshFail now execution lease).run s.db = .ok ((), db')) :
      InventoryStep env s (.failed lease) (s.withDb db')
  | edited {now vpsId providerId dto policy updated db'}
      (run : (updateRecord env now vpsId providerId dto policy).run s.db = .ok (updated, db')) :
      InventoryStep env s (.edited providerId) (s.withDb db')

section Snapshot

variable {env : Env} {s s' : InventorySystem} {e : InventoryEvent} {v : Uuid}

/-- Knowledge and attachment stand on the instances and the creations alone. -/
theorem sound_withDb {db' : Database} (hinstances : db'.instances = s.db.instances)
    (hprovisionings : db'.provisionings = s.db.provisionings) (hsound : s.Sound) (hattached : s.db.Attached) :
    (s.withDb db').Sound ∧ (s.withDb db').db.Attached := by
  refine ⟨⟨?_, ?_, ?_⟩, ?_⟩
  · intro i hi
    exact hsound.instances i (hinstances ▸ hi)
  · intro k row hrow
    exact hsound.rows k row (hprovisionings ▸ hrow)
  · intro ticket x hknown
    obtain ⟨hdrawn, row, hrow, hnamed⟩ := hsound.known ticket x hknown
    refine ⟨hdrawn, row, ?_, hnamed.imp id fun hgone i hi => hgone i (hinstances ▸ hi)⟩
    change db'.provisionings.find? ticket.id = some row
    rw [hprovisionings]
    exact hrow
  · intro r hr i hi
    exact hattached r (hprovisionings ▸ hr) i (hinstances ▸ hi)

/-- Changing a provider keeps a column that the change keeps. -/
theorem find?_updateProvider_column {α : Type} {db : Database} {id : Uuid} (column : VpsProvider → α)
    {f : VpsProvider → VpsProvider} {hf : ∀ p, (f p).id = p.id} (hcolumn : ∀ p, column (f p) = column p) :
    ((db.updateProvider id f hf).providers.find? v).map column = (db.providers.find? v).map column := by
  simp only [Database.updateProvider_providers, Table.find?_modify, Option.map_map]
  congr 1
  funext p
  rw [Function.comp_apply]
  split
  · exact hcolumn p
  · rfl

/-- A publication keeps a column of a provider that it does not write. -/
theorem Published.provider_column {α : Type} {db db' : Database} {now : Instant} {lease : RefreshLease}
    {rows : List InstanceDto} {current : VpsProvider} {result : ReconciliationResult}
    (h : Published db now lease rows current result db') (column : VpsProvider → α)
    (hcolumn : ∀ p : VpsProvider, column (p.observed now result) = column p) (v : Uuid) :
    (db'.providers.find? v).map column = (db.providers.find? v).map column := by
  rw [h.providers]
  exact find?_updateProvider_column column hcolumn

/-- A step other than one of the creations keeps the instances, the creations and the counts of
occupancy. -/
theorem InventoryStep.frame (h : InventoryStep env s e s') :
    (∃ e', e = .creation e' ∧ SystemStep env s.toSystem e' s'.toSystem) ∨
      (s' = { s.withDb s'.db with leases := s'.leases } ∧ s'.db.instances = s.db.instances ∧
        s'.db.provisionings = s.db.provisionings ∧
        ∀ v, s'.db.occupancyRevisionOf v = s.db.occupancyRevisionOf v) := by
  cases h with
  | creation hstep => exact Or.inl ⟨_, rfl, hstep⟩
  | requested hrun =>
    obtain ⟨reconciliations, hdb, -⟩ := request_ok hrun
    subst hdb
    exact Or.inr ⟨rfl, rfl, rfl, fun _ => rfl⟩
  | leased hrun =>
    obtain ⟨-, -, reconciliations, hdb, -⟩ := refreshLease_ok hrun
    subst hdb
    exact Or.inr ⟨rfl, rfl, rfl, fun _ => rfl⟩
  | published _ hrun =>
    obtain ⟨current, result, -, hpublished⟩ := refreshPublish_ok hrun
    refine Or.inr ⟨rfl, hpublished.instances, hpublished.provisionings, fun v => ?_⟩
    exact congrArg (Option.getD · 0) (hpublished.provider_column (·.occupancyRevision) (fun _ => rfl) v)
  | failed _ hrun =>
    obtain ⟨reconciliations, hdb, -⟩ := refreshFail_ok hrun
    subst hdb
    exact Or.inr ⟨rfl, rfl, rfl, fun _ => rfl⟩
  | edited hrun =>
    obtain ⟨current, -, hdb⟩ := updateRecord_ok hrun
    subst hdb
    refine Or.inr ⟨rfl, rfl, rfl, fun v => ?_⟩
    exact congrArg (Option.getD · 0) (find?_updateProvider_column (·.occupancyRevision) fun _ => rfl)

/-- What executors know is right, and creations are attached to their instances. -/
def InventorySystem.Right (s : InventorySystem) : Prop :=
  s.Sound ∧ s.db.Attached

/-- A step keeps both. -/
theorem InventoryStep.right (hright : s.Right) (h : InventoryStep env s e s') : s'.Right := by
  rcases h.frame with ⟨e', -, hstep⟩ | ⟨hs', hinstances, hprovisionings, -⟩
  · exact ⟨hstep.sound hright.1, hstep.attached hright.1 hright.2⟩
  · have hkept := sound_withDb hinstances hprovisionings hright.1 hright.2
    rw [hs']
    exact ⟨⟨hkept.1.instances, hkept.1.rows, hkept.1.known⟩, hkept.2⟩

/-- A step that changes the holders of a provider counts it. -/
theorem InventoryStep.holders_or_counted (hright : s.Right) (h : InventoryStep env s e s') (v : Uuid) :
    (s'.db.occupancyRevisionOf v = s.db.occupancyRevisionOf v ∧ s'.db.holders v = s.db.holders v) ∨
      s.db.occupancyRevisionOf v < s'.db.occupancyRevisionOf v := by
  rcases h.frame with ⟨e', -, hstep⟩ | ⟨-, hinstances, hprovisionings, hcount⟩
  · exact hstep.holders_or_counted hright.1 hright.2 v
  · left
    refine ⟨hcount v, ?_⟩
    unfold Database.holders Database.instancesOf Database.reservationsOf
    rw [hinstances, hprovisionings]

/-- A refresh that is completed stays as it is. -/
theorem InventoryStep.completedKept (h : InventoryStep env s e s') : CompletedKept s.db s'.db := by
  cases h with
  | creation hstep =>
    intro k row hrow _
    rw [hstep.reconciliations]
    exact hrow
  | requested hrun =>
    obtain ⟨_, -, hkept⟩ := request_ok hrun
    exact hkept
  | leased hrun =>
    obtain ⟨-, -, _, -, hkept⟩ := refreshLease_ok hrun
    exact hkept
  | published _ hrun =>
    obtain ⟨_, _, -, hpublished⟩ := refreshPublish_ok hrun
    exact hpublished.completed
  | failed _ hrun =>
    obtain ⟨_, -, hkept⟩ := refreshFail_ok hrun
    exact hkept
  | edited hrun =>
    obtain ⟨_, -, hdb⟩ := updateRecord_ok hrun
    subst hdb
    exact fun _ _ hrow _ => hrow

/-- The refresh with the given id is completed. -/
def InventorySystem.Completed (k : Uuid) (s : InventorySystem) : Prop :=
  ∃ row, s.db.reconciliations.find? k = some row ∧ row.status = .completed

/-- Whether an event published under the refresh with the given id. -/
def InventoryEvent.publishes (k : Uuid) : InventoryEvent → Bool
  | .published lease _ => lease.operation.id = k
  | _ => false

/-- The inventory revision of a provider that an event published. -/
def InventoryEvent.revisionOf (v : Uuid) : InventoryEvent → Option Nat
  | .published lease inventoryRevision => if lease.provider.id = v then some inventoryRevision else none
  | _ => none

/-- A refresh is completed once it published. -/
theorem InventoryStep.completed_of_publishes {k : Uuid} (he : e.publishes k = true)
    (h : InventoryStep env s e s') : s'.Completed k := by
  cases h with
  | published _ hrun =>
    obtain ⟨_, _, -, hpublished⟩ := refreshPublish_ok hrun
    obtain ⟨operation, -, -, -, hdone⟩ := hpublished.held
    exact ⟨_, of_decide_eq_true he ▸ hdone, rfl⟩
  | creation | requested | leased | failed | edited => cases he

/-- A completed refresh stays completed. -/
theorem InventoryStep.completed {k : Uuid} (hcompleted : s.Completed k) (h : InventoryStep env s e s') :
    s'.Completed k := by
  obtain ⟨row, hrow, hstatus⟩ := hcompleted
  exact ⟨row, h.completedKept k row hrow hstatus, hstatus⟩

/-- A publication is numbered next after those of its provider before it; no other step changes how
many there are. -/
theorem InventoryStep.inventoryRevision (h : InventoryStep env s e s') (v : Uuid) :
    (e.revisionOf v = none ∧ s'.db.inventoryRevisionOf v = s.db.inventoryRevisionOf v) ∨
      (e.revisionOf v = some (s.db.inventoryRevisionOf v + 1) ∧
        s'.db.inventoryRevisionOf v = s.db.inventoryRevisionOf v + 1) := by
  cases h with
  | creation hstep =>
    exact Or.inl ⟨rfl,
      congrArg (Option.getD · 0) (hstep.provider_column (·.inventoryRevision) (fun _ _ => rfl) v)⟩
  | requested hrun =>
    obtain ⟨_, hdb, -⟩ := request_ok hrun
    subst hdb
    exact Or.inl ⟨rfl, rfl⟩
  | leased hrun =>
    obtain ⟨-, -, _, hdb, -⟩ := refreshLease_ok hrun
    subst hdb
    exact Or.inl ⟨rfl, rfl⟩
  | failed _ hrun =>
    obtain ⟨_, hdb, -⟩ := refreshFail_ok hrun
    subst hdb
    exact Or.inl ⟨rfl, rfl⟩
  | edited hrun =>
    obtain ⟨_, -, hdb⟩ := updateRecord_ok hrun
    subst hdb
    exact Or.inl ⟨rfl,
      congrArg (Option.getD · 0) (find?_updateProvider_column (·.inventoryRevision) fun _ => rfl)⟩
  | @published now _ lease _ _ db' _ hrun =>
    obtain ⟨current, result, hupdated, hpublished⟩ := refreshPublish_ok hrun
    obtain ⟨remote, -, hresult⟩ := hpublished.result_eq
    have hfound : s.db.providers.find? lease.provider.id = some current := hpublished.provider_found
    have hid : current.id = lease.provider.id := (Table.find?_eq_some.mp hfound).2
    have hnumber : result.inventoryRevision = current.inventoryRevision + 1 := by rw [hresult]; rfl
    have hafter : db'.providers.find? v =
        (s.db.providers.find? v).map fun p => if p.id = current.id then p.observed now result else p := by
      rw [hpublished.providers]
      simp only [Database.updateProvider_providers, Table.find?_modify, decide_eq_true_eq]
    by_cases hv : lease.provider.id = v
    · right
      subst hv
      simp only [InventoryEvent.revisionOf, if_true, Database.inventoryRevisionOf,
        InventorySystem.withDb, hafter, hfound, Option.map_some, Option.getD_some, hupdated,
        VpsProvider.observed, hnumber, and_self]
    · left
      refine ⟨if_neg hv, ?_⟩
      simp only [Database.inventoryRevisionOf, InventorySystem.withDb, hafter, Option.map_map]
      cases hother : s.db.providers.find? v with
      | none => rfl
      | some p =>
        have hne : p.id ≠ current.id := fun heq =>
          hv (hid.symm.trans (heq.symm.trans (Table.find?_eq_some.mp hother).2))
        simp only [Option.map_some, Function.comp_apply, if_neg hne]

end Snapshot

/-- Where a provider is and how it is reached. -/
def VpsProvider.configuration (provider : VpsProvider) : Nat × String × String :=
  (provider.configurationRevision, provider.providerUrl, provider.providerApiKey)

/-- Between the lease of a refresh and its publication nothing that occupies the provider changed, nor
did its configuration; no other refresh published under the same operation; inventory revisions are
published once each, in order; and what is called absent was there before the collection began. -/
theorem published_inventory_is_snapshot {env : Env} {s₀ s s₁ s₂ s₃ : InventorySystem}
    {before during : List InventoryEvent} {lease : RefreshLease} {inventoryRevision : Nat}
    (hstart : s₀.Initial) (hbefore : Run (InventoryStep env) s₀ before s)
    (hlease : InventoryStep env s (.leased lease) s₁) (hduring : Run (InventoryStep env) s₁ during s₂)
    (hpublish : InventoryStep env s₂ (.published lease inventoryRevision) s₃) :
    s₃.db.holders lease.provider.id = s.db.holders lease.provider.id ∧
    (s₃.db.providers.find? lease.provider.id).map (·.configuration) =
      (s.db.providers.find? lease.provider.id).map (·.configuration) ∧
    (∀ other n, .published other n ∈ during → other.operation.id ≠ lease.operation.id) ∧
    (∀ v, ((before ++ InventoryEvent.leased lease :: (during ++
      [.published lease inventoryRevision])).filterMap
      (·.revisionOf v)).Pairwise (· < ·)) ∧
    ∃ operation result, s₃.db.reconciliations.find? lease.operation.id = some operation ∧
      operation.status = .completed ∧ operation.result = some result ∧
      ∀ id ∈ result.absentInstanceIds, id ∈ (s.db.holders lease.provider.id).1 := by
  have hright : s.Right := hbefore.invariant (fun _ _ _ hr h => h.right hr)
    ⟨hstart.sound, fun r hr => by
      cases (hstart.provisionings _).symm.trans (Table.find?_key hr)⟩
  have hright₁ : s₁.Right := hlease.right hright
  have hall := hbefore.append ((Run.cons hlease hduring).append (Run.single hpublish))
  cases hpublish with
  | @published now _ _ rows _ db' hheld hrun =>
    obtain ⟨current, result, -, hpublished⟩ := refreshPublish_ok hrun
    have hcurrent := hpublished.provider_found
    -- the publication found the count of occupancy that the lease remembered
    have hleased : s.db.occupancyRevisionOf lease.provider.id = lease.operation.observedOccupancyRevision ∧
        s₁.db.occupancyRevisionOf lease.provider.id = s.db.occupancyRevisionOf lease.provider.id ∧
        s₁.db.holders lease.provider.id = s.db.holders lease.provider.id ∧
        s.db.providers.find? lease.provider.id = some lease.provider := by
      cases hlease with
      | leased hrun =>
        obtain ⟨hfound, hobserved, _, hdb, -⟩ := refreshLease_ok hrun
        subst hdb
        refine ⟨?_, rfl, rfl, hfound⟩
        simp only [Database.occupancyRevisionOf, hfound, Option.map_some, Option.getD_some, hobserved]
    obtain ⟨hobserved, hsame, hholders, hfound⟩ := hleased
    have hversion :
        s₂.db.occupancyRevisionOf lease.provider.id = s₁.db.occupancyRevisionOf lease.provider.id := by
      rw [hsame, hobserved, ← hpublished.occupancyRevision]
      simp only [Database.occupancyRevisionOf, hcurrent, Option.map_some, Option.getD_some]
    have hview : s₂.db.holders lease.provider.id = s₁.db.holders lease.provider.id :=
      (hduring.under (fun _ _ _ hr h => h.right hr) hright₁).view_eq_of_version_eq
        (fun s => s.db.occupancyRevisionOf lease.provider.id) (fun s => s.db.holders lease.provider.id)
        (fun _ _ _ h => h.2.holders_or_counted h.1 _) hversion
    have hsnapshot : s₂.db.holders lease.provider.id = s.db.holders lease.provider.id := hview.trans hholders
    refine ⟨?_, ?_, fun other n hmem hid => ?_, fun v => ?_, ?_⟩
    · rw [← hsnapshot]
      unfold Database.holders Database.instancesOf Database.reservationsOf
      rw [← hpublished.instances, ← hpublished.provisionings]
      rfl
    · change (db'.providers.find? lease.provider.id).map (·.configuration) = _
      rw [hpublished.provider_column (·.configuration) (fun _ => rfl), hcurrent, hfound, Option.map_some,
        Option.map_some]
      unfold VpsProvider.configuration
      rw [hpublished.configurationRevision, hpublished.providerUrl, hpublished.providerApiKey]
    · -- a publication under the same operation would have completed it before this one
      obtain ⟨row, hrow, hcompleted⟩ := hduring.holds_of_mem
        (Q := InventorySystem.Completed lease.operation.id)
        (fun _ _ _ he h => h.completed_of_publishes he) (fun _ _ _ hc h => h.completed hc) hmem
        (decide_eq_true hid)
      obtain ⟨operation, hoperation, -, hrunning, -⟩ := hpublished.held
      obtain rfl : row = operation := Option.some.inj (hrow.symm.trans hoperation)
      cases hrunning.symm.trans hcompleted
    · refine (hall.pairwise_lt_of_counter (fun s => s.db.inventoryRevisionOf v) (fun _ _ _ h => ?_)
        fun _ _ _ n h hn => ?_).1
      · rcases h.inventoryRevision v with ⟨-, hcount⟩ | ⟨-, hcount⟩ <;> omega
      · rcases h.inventoryRevision v with ⟨hnone, -⟩ | ⟨hsome, hcount⟩
        · cases hnone.symm.trans hn
        · obtain rfl : _ = n := Option.some.inj (hsome.symm.trans hn)
          omega
    · obtain ⟨operation, -, -, -, hdone⟩ := hpublished.held
      obtain ⟨remote, -, hresult⟩ := hpublished.result_eq
      refine ⟨_, result, hdone, rfl, rfl, fun id hid => ?_⟩
      rw [hresult] at hid
      simp only [Database.refreshResult, absentInstanceIds, List.mem_map, List.mem_filter] at hid
      obtain ⟨item, ⟨hitem, -⟩, rfl⟩ := hid
      simp only [Database.instancesOf, List.mem_filter, decide_eq_true_eq] at hitem
      have hprovider : current.id = lease.provider.id := (Table.find?_eq_some.mp hcurrent).2
      rw [← hsnapshot, mem_holders_instances]
      exact ⟨item, hitem.1, hitem.2.trans hprovider, rfl⟩

/-- A session of the small installation that its provider does not list any more. -/
def smallItem : Instance where
  id := ⟨"item", by decide⟩
  productId := smallProduct.id
  vpsProviderId := smallProvider.id
  instanceName := "bob"
  hubToken := "hub_bob"
  updatedAt := 0

/-- The small installation with that session, before any refresh. -/
def smallInventory : InventorySystem where
  db := { smallDatabase with instances := ⟨[smallItem], by decide⟩ }
  tickets := []
  known := []
  drawn := [smallItem.id]
  leases := []

/-- The lease of its first refresh. -/
def smallLease : RefreshLease where
  provider := smallProvider
  operation := EvolutionReconciliation.leased 10 { remainingMs := 1000 } ⟨"refresher", by decide⟩ 0
    { id := ⟨"refresh", by decide⟩, vpsProviderId := smallProvider.id }
  owner := ⟨"refresher", by decide⟩

/-- The small installation once that lease is taken. -/
def smallLeased : InventorySystem where
  toSystem := { smallInventory.toSystem with
    db := commit
      (refreshLease 10 { remainingMs := 1000 } smallProvider.id smallLease.owner smallLease.operation.id)
      smallInventory.db }
  leases := [smallLease]

/-- The small installation once an empty inventory is published under that lease. -/
def smallPublished : InventorySystem :=
  smallLeased.withDb (commit (refreshPublish 20 { remainingMs := 900 } smallLease []) smallLeased.db)

/-- In the small installation the session that is called absent was there at the lease. -/
theorem published_inventory_is_snapshot_small :
    (∃ operation result, smallPublished.db.reconciliations.find? smallLease.operation.id = some operation ∧
      operation.result = some result ∧ smallItem.id ∈ result.absentInstanceIds) ∧
    smallPublished.db.holders smallProvider.id = smallInventory.db.holders smallProvider.id := by
  have hinitial : smallInventory.Initial :=
    ⟨fun _ => rfl, rfl, rfl, fun i hi => List.mem_singleton.mp hi ▸ List.mem_singleton_self _⟩
  have hlease : InventoryStep smallEnv smallInventory (.leased smallLease) smallLeased :=
    @InventoryStep.leased _ _ 10 { remainingMs := 1000 } smallProvider.id smallLease.owner
      smallLease.operation.id _ _ rfl
  have hpublish : InventoryStep smallEnv smallLeased (.published smallLease 1) smallPublished :=
    @InventoryStep.published _ _ 20 { remainingMs := 900 } smallLease []
      (smallProvider.observed 20 ⟨1, 0, 0, [smallItem.id]⟩) _ List.mem_cons_self rfl
  have hsnapshot := published_inventory_is_snapshot hinitial (.nil _) hlease (.nil _) hpublish
  exact ⟨⟨_, _, rfl, rfl, by decide⟩, hsnapshot.1⟩

end ConnectHub
