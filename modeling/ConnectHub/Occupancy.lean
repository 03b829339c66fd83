import ConnectHub.Records
import ConnectHub.Store.Grouping

/-!
# Occupancy of a provider

What occupies a provider is counted over three sources: the remote sessions of the last
inventory, the instances the Hub knows (less those the inventory proved absent) and the open
creations. The count groups rows by name or remote id, first match first, so it depends on the
order of the rows; the number of distinct names does not. The two agree whenever the grouping
is not ambiguous, and the count never exceeds the names.
-/

namespace ConnectHub

open Store

/-- A session as a remote inventory reports it. -/
structure RemoteSession where
  instanceName : String
  providerInstanceId : Option String
  status : Option String
deriving DecidableEq, Repr

/-- A session the Hub accounts for: an instance or an open creation. -/
structure OccupiedSession where
  id : Uuid
  productId : Uuid
  instanceName : String
  providerInstanceId : Option String
deriving DecidableEq, Repr

/-- Whether two sessions are the same one: equal names, and remote ids that do not disagree. -/
def sameSession (aName : String) (aId : Option String) (bName : String) (bId : Option String) : Bool :=
  aName = bName && (!truthy aId || !truthy bId || aId = bId)

/-- A session being grouped; its product is known when the Hub accounts for it. -/
structure GroupedSession where
  instanceName : String
  providerInstanceId : Option String
  productId : Option Uuid
deriving DecidableEq, Repr

/-- How sessions are grouped: by name or remote id, the group keeping the first id and product
that are known. -/
def sessionGrouping : Grouping GroupedSession GroupedSession String where
  itemName := GroupedSession.instanceName
  groupName := GroupedSession.instanceName
  joins other item :=
    other.instanceName = item.instanceName ||
      (truthy item.providerInstanceId && other.providerInstanceId = item.providerInstanceId)
  clashes existing item :=
    !sameSession existing.instanceName existing.providerInstanceId item.instanceName
        item.providerInstanceId ||
      (existing.productId.isSome && item.productId.isSome && existing.productId ≠ item.productId)
  merge existing item :=
    { existing with
      providerInstanceId := existing.providerInstanceId <|> item.providerInstanceId
      productId := existing.productId <|> item.productId }
  start item := item
  joins_of_name := by
    intro g a h
    simp [h]
  name_of_agree := by
    intro g a _ h
    simp only [sameSession, Bool.or_eq_false_iff, Bool.not_eq_false', Bool.and_eq_true,
      decide_eq_true_eq] at h
    exact h.1.1
  name_merge := fun _ _ => rfl
  name_start := fun _ => rfl

/-- What an occupancy count reports. -/
structure Occupancy where
  effective : Nat
  ambiguous : Bool
  byProduct : List (Uuid × Nat)
deriving DecidableEq, Repr

/-- Count one more session of a product. -/
def countProduct (counts : List (Uuid × Nat)) (productId : Uuid) : List (Uuid × Nat) :=
  if counts.any (fun entry => entry.1 = productId) then
    counts.map fun entry => if entry.1 = productId then (entry.1, entry.2 + 1) else entry
  else counts ++ [(productId, 1)]

/-- The rows an occupancy count considers, in the order it considers them. -/
def countedSessions (remote : List RemoteSession) (instances reservations : List OccupiedSession)
    (absentInstanceIds : List Uuid) : List GroupedSession :=
  remote.map (fun row => ⟨row.instanceName, row.providerInstanceId, none⟩) ++
  ((instances.filter fun row => !absentInstanceIds.contains row.id).map fun row =>
    ⟨row.instanceName, row.providerInstanceId, some row.productId⟩) ++
  reservations.map fun row => ⟨row.instanceName, row.providerInstanceId, some row.productId⟩

/-- Group the sessions and count the groups. -/
def occupancy (remote : List RemoteSession) (instances reservations : List OccupiedSession)
    (absentInstanceIds : List Uuid) : Occupancy :=
  let grouped := sessionGrouping.collect
    (countedSessions remote instances reservations absentInstanceIds) [] false
  { effective := grouped.1.length
    ambiguous := grouped.2
    byProduct := (grouped.1.filterMap (·.productId)).foldl countProduct [] }

/-- The session an inventory entry stands for. -/
def EvolutionInventoryEntry.session (entry : EvolutionInventoryEntry) : RemoteSession :=
  ⟨entry.instanceName, entry.providerInstanceId, entry.status⟩

/-- The session an instance stands for. -/
def Instance.session (item : Instance) : OccupiedSession :=
  ⟨item.id, item.productId, item.instanceName, item.providerInstanceId⟩

/-- The session a creation stands for. -/
def InstanceProvisioning.session (row : InstanceProvisioning) : OccupiedSession :=
  ⟨row.id, row.productId, row.instanceName, row.providerInstanceId⟩

/-- The inventory entries of a provider. -/
def Database.inventoryOf (db : Database) (providerId : Uuid) : List EvolutionInventoryEntry :=
  db.inventory.rows.filter fun e => e.vpsProviderId = providerId

/-- The instances of a provider. -/
def Database.instancesOf (db : Database) (providerId : Uuid) : List Instance :=
  db.instances.rows.filter fun i => i.vpsProviderId = providerId

/-- The open creations on a provider. -/
def Database.reservationsOf (db : Database) (providerId : Uuid) : List InstanceProvisioning :=
  db.provisionings.rows.filter fun r => r.vpsProviderId = providerId && r.isOpen

/-- Whether one refresh finished no earlier than another; one without a time sorts as the latest. -/
def finishedLater (a b : EvolutionReconciliation) : Bool :=
  match a.collectionFinishedAt, b.collectionFinishedAt with
  | none, _ => true
  | some _, none => false
  | some s, some t => decide (t ≤ s)

/-- The completed refresh of a provider that finished last. -/
def Database.latestCompleted (db : Database) (providerId : Uuid) : Option EvolutionReconciliation :=
  (db.reconciliations.rows.filter fun r => r.vpsProviderId = providerId && r.status = .completed).foldl
    (fun best r => match best with
      | none => some r
      | some b => if finishedLater b r then some b else some r) none

/-- The instances that the last completed refresh proved absent: it must be the one whose
inventory is stored, and the instance must not have changed since its collection started. -/
def Database.absence (db : Database) (providerId : Uuid) : List Uuid :=
  match db.providers.find? providerId, db.latestCompleted providerId with
  | some provider, some reconciliation =>
    match reconciliation.result with
    | some result =>
      if result.inventoryRevision = provider.inventoryRevision then
        ((db.instancesOf providerId).filter fun item =>
          match reconciliation.collectionStartedAt with
          | some startedAt => decide (item.updatedAt ≤ startedAt) && result.absentInstanceIds.contains item.id
          | none => false).map (·.id)
      else []
    | none => []
  | _, _ => []

/-- What occupies a provider: the count and the rows it was taken from. -/
structure EvolutionOccupancy extends Occupancy where
  instances : List Instance
  reservations : List InstanceProvisioning
  remote : List EvolutionInventoryEntry

/-- The sessions that occupy a provider, in scan order. -/
def Database.occupants (db : Database) (providerId : Uuid) : List GroupedSession :=
  countedSessions ((db.inventoryOf providerId).map (·.session))
    ((db.instancesOf providerId).map (·.session)) ((db.reservationsOf providerId).map (·.session))
    (db.absence providerId)

/-- The occupancy of a provider as the tables stand. -/
def Database.readOccupancy (db : Database) (providerId : Uuid) : EvolutionOccupancy where
  toOccupancy := occupancy ((db.inventoryOf providerId).map (·.session))
    ((db.instancesOf providerId).map (·.session)) ((db.reservationsOf providerId).map (·.session))
    (db.absence providerId)
  instances := db.instancesOf providerId
  reservations := db.reservationsOf providerId
  remote := db.inventoryOf providerId

/-- The occupancy of a provider, which must exist. -/
def readEvolutionOccupancy (providerId : Uuid) : Tx EvolutionOccupancy := do
  let db ← get
  throwWhen (db.providers.find? providerId = none) .recordNotFound
  pure (db.readOccupancy providerId)

/-- A body that reads the occupancy first went on with that of the tables. -/
theorem readEvolutionOccupancy_bind_ok {β : Type} {providerId : Uuid} {db : Database}
    {f : EvolutionOccupancy → Tx β} {r : β × Database} :
    (readEvolutionOccupancy providerId >>= f).run db = .ok r ↔
      db.providers.find? providerId ≠ none ∧ (f (db.readOccupancy providerId)).run db = .ok r := by
  simp only [readEvolutionOccupancy, bind_assoc, get_bind_ok, throwWhen_bind_ok, pure_bind, ne_eq]

/-- The distinct names that occupy a provider. -/
def Database.occupiedNames (db : Database) (providerId : Uuid) : Finset String :=
  ((db.occupants providerId).map (·.instanceName)).toFinset

/-- The count never exceeds the number of distinct names. -/
theorem effective_le_names (db : Database) (providerId : Uuid) :
    (db.readOccupancy providerId).effective ≤ (db.occupiedNames providerId).card :=
  sessionGrouping.length_collect_le (db.occupants providerId) false

/-- An unambiguous count is the number of distinct names. -/
theorem effective_eq_names (db : Database) (providerId : Uuid)
    (h : (db.readOccupancy providerId).ambiguous = false) :
    (db.readOccupancy providerId).effective = (db.occupiedNames providerId).card :=
  sessionGrouping.length_collect_eq (db.occupants providerId) false h

/-- Whether the last completed refresh proved an instance absent. -/
def Database.provedAbsent (db : Database) (providerId : Uuid) (item : Instance) : Bool :=
  (db.providers.find? providerId).any fun provider =>
    (db.latestCompleted providerId).any fun reconciliation =>
      reconciliation.result.any fun result =>
        decide (result.inventoryRevision = provider.inventoryRevision) &&
          reconciliation.collectionStartedAt.any fun startedAt =>
            decide (item.updatedAt ≤ startedAt) && result.absentInstanceIds.contains item.id

/-- The ids read as absent are those of the instances proved absent. -/
theorem absence_eq (db : Database) (providerId : Uuid) :
    db.absence providerId = ((db.instancesOf providerId).filter (db.provedAbsent providerId)).map (·.id) := by
  unfold Database.absence Database.provedAbsent
  cases db.providers.find? providerId with
  | none => simp
  | some provider =>
    cases db.latestCompleted providerId with
    | none => simp
    | some reconciliation =>
      cases hresult : reconciliation.result with
      | none => simp [hresult]
      | some result =>
        by_cases hrevision : result.inventoryRevision = provider.inventoryRevision
        · cases hstarted : reconciliation.collectionStartedAt <;> simp [hresult, hrevision, hstarted]
        · simp [hresult, hrevision]

/-- An instance of a provider is read as absent exactly when it was proved absent. -/
theorem mem_absence {db : Database} {providerId : Uuid} {item : Instance} (hitem : item ∈ db.instances)
    (hprovider : item.vpsProviderId = providerId) :
    item.id ∈ db.absence providerId ↔ db.provedAbsent providerId item = true := by
  simp only [absence_eq, Database.instancesOf, List.mem_map, List.mem_filter, decide_eq_true_eq]
  constructor
  · rintro ⟨other, ⟨⟨hother, -⟩, habsent⟩, hid⟩
    rwa [Table.eq_of_key_eq hother hitem hid] at habsent
  · intro habsent
    exact ⟨item, ⟨⟨hitem, hprovider⟩, habsent⟩, rfl⟩

/-- What was proved absent depends on the refreshes and on the revision of the stored inventory. -/
theorem provedAbsent_congr {db db' : Database} {providerId : Uuid} {item : Instance}
    (hproviders : (db'.providers.find? providerId).map (·.inventoryRevision) =
      (db.providers.find? providerId).map (·.inventoryRevision))
    (hrefreshes : db'.reconciliations = db.reconciliations) :
    db'.provedAbsent providerId item = db.provedAbsent providerId item := by
  unfold Database.provedAbsent Database.latestCompleted
  rw [hrefreshes]
  cases h' : db'.providers.find? providerId <;> cases h : db.providers.find? providerId <;>
    simp_all

/-- The occupancy of a provider depends on what occupies it, on the refreshes, and on the revision of the
stored inventory. -/
theorem readOccupancy_congr {db db' : Database} {providerId : Uuid}
    (hinventory : db'.inventory = db.inventory) (hinstances : db'.instances = db.instances)
    (hprovisionings : db'.provisionings = db.provisionings)
    (hproviders : (db'.providers.find? providerId).map (·.inventoryRevision) =
      (db.providers.find? providerId).map (·.inventoryRevision))
    (hrefreshes : db'.reconciliations = db.reconciliations) :
    db'.readOccupancy providerId = db.readOccupancy providerId := by
  have habsent : db'.provedAbsent providerId = db.provedAbsent providerId :=
    funext fun _ => provedAbsent_congr hproviders hrefreshes
  unfold Database.readOccupancy
  rw [absence_eq, absence_eq, habsent]
  unfold Database.instancesOf Database.reservationsOf Database.inventoryOf
  rw [hinventory, hinstances, hprovisionings]

/-- A name occupies a provider through an inventory entry, an instance not proved absent or an
open creation. -/
theorem mem_occupiedNames {db : Database} {providerId : Uuid} {name : String} :
    name ∈ db.occupiedNames providerId ↔
      (∃ e ∈ db.inventory, e.vpsProviderId = providerId ∧ e.instanceName = name) ∨
      (∃ i ∈ db.instances, i.vpsProviderId = providerId ∧ db.provedAbsent providerId i = false ∧
        i.instanceName = name) ∨
      (∃ r ∈ db.provisionings, r.vpsProviderId = providerId ∧ r.isOpen = true ∧
        r.instanceName = name) := by
  simp only [Database.occupiedNames, Database.occupants, countedSessions, List.mem_toFinset,
    List.map_append, List.map_map, List.mem_append, or_assoc]
  refine or_congr ?_ (or_congr ?_ ?_)
  · simp only [Database.inventoryOf, List.mem_map, List.mem_filter, decide_eq_true_eq, and_assoc]
    rfl
  · simp only [Database.instancesOf, List.mem_map, List.mem_filter, decide_eq_true_eq,
      Bool.not_eq_true', List.contains_eq_mem, decide_eq_false_iff_not]
    constructor
    · rintro ⟨s, ⟨⟨i, ⟨hi, hv⟩, rfl⟩, habs⟩, hname⟩
      exact ⟨i, hi, hv, Bool.eq_false_iff.mpr fun h => habs ((mem_absence hi hv).mpr h), hname⟩
    · rintro ⟨i, hi, hv, habs, hname⟩
      refine ⟨i.session, ⟨⟨i, ⟨hi, hv⟩, rfl⟩, fun h => ?_⟩, hname⟩
      rw [(mem_absence hi hv).mp h] at habs
      cases habs
  · simp only [Database.reservationsOf, List.mem_map, List.mem_filter, Bool.and_eq_true,
      decide_eq_true_eq, and_assoc]
    rfl

end ConnectHub
