import ConnectHub.BulkImport
import ConnectHub.InstanceKeys
import ConnectHub.Providers
import ConnectHub.Store.Coherence

/-!
# Lookups of instances through the cache

Every request to a session first looks up the session's instance, by its id, its remote id or its name, and the
Hub keeps what it found for a while. Each write that may change an answer deletes the keys of the instances it
concerns afterwards. Two texts are taken for missing there although they are stored: an empty remote id, whose
key is not deleted, and an empty URL or adapter of a provider, after which no key is.
-/

namespace ConnectHub

open Store

section Model

/-- What a lookup finds, with the columns that a later one compares. -/
structure CachedInstance extends ResolvedInstance where
  productId : Uuid
  vpsProviderId : Uuid
  providerInstanceId : Option String
deriving DecidableEq, Repr

/-- A lookup of an instance of a product. -/
structure InstanceLookup where
  productId : Uuid
  kind : LookupKind
  identifier : String
deriving DecidableEq, Repr

/-- The key of a lookup. -/
def InstanceLookup.key (i : InstanceLookup) : String := instanceCacheKey i.productId i.kind.text i.identifier

/-- Whether what is cached under the key of a lookup is returned. -/
def InstanceLookup.hit (i : InstanceLookup) (cached : CachedInstance) : Bool :=
  cached.productId = i.productId && cached.instanceId.value ≠ "" && cached.vpsProviderId.value ≠ "" &&
    match i.kind with
    | .name => cached.instanceName = i.identifier
    | .id => cached.instanceId.value = i.identifier || cached.providerInstanceId = some i.identifier

/-- The active instances that a lookup is about. -/
def Database.answering (db : Database) (i : InstanceLookup) : List Instance :=
  db.instances.rows.filter fun item =>
    item.productId = i.productId && item.isActive && item.answers i.identifier i.kind

variable (decrypt : String → Option String)

/-- What a lookup makes of the instance it found. -/
def Database.resolved (db : Database) (i : InstanceLookup) (item : Instance) : Except HubError CachedInstance :=
  if item.productId ≠ i.productId then
    .error (.notFound ("Instância \"" ++ i.identifier ++ "\" não encontrada"))
  else
    match db.providers.find? item.vpsProviderId with
    | none => .error .recordNotFound
    | some provider =>
      match decrypt provider.providerApiKey with
      | none => .error (.internal "Unsupported state or unable to authenticate data")
      | some apiKey => .ok {
          productId := i.productId
          providerInstanceId := item.providerInstanceId
          providerUrl := provider.providerUrl
          providerApiKey := apiKey
          vpsProviderId := item.vpsProviderId
          instanceId := item.id
          instanceName := item.instanceName
          adapterType := provider.adapterType }

/-- What a lookup finds in the database. -/
def Database.freshLookup (db : Database) (i : InstanceLookup) : Except HubError CachedInstance :=
  match (db.answering i).take 2 with
  | [] => .error (.notFound ("Instância \"" ++ i.identifier ++ "\" não encontrada"))
  | [item] => db.resolved decrypt i item
  | _ => .error (.conflict "Identificador de instância ambíguo")

/-- The database and the cache. -/
structure ResolverState where
  db : Database
  cache : KeyedCache String CachedInstance

/-- Look up an instance, in the cache first. -/
def lookup (s : ResolverState) (i : InstanceLookup) : Except HubError CachedInstance × ResolverState :=
  match (s.cache i.key).filter i.hit with
  | some cached => (.ok cached, s)
  | none =>
    match s.db.freshLookup decrypt i with
    | .error e => (.error e, s)
    | .ok resolved => (.ok resolved, { s with cache := s.cache.set i.key resolved })

/-- Delete the keys of an instance. -/
def invalidated (cache : KeyedCache String CachedInstance) (item : Instance) : KeyedCache String CachedInstance :=
  cache.drop fun k => (instanceCacheKeys item).contains k

/-- Delete the keys of all instances of a provider. -/
def invalidatedForProvider (cache : KeyedCache String CachedInstance) (db : Database) (providerId : Uuid) :
    KeyedCache String CachedInstance :=
  cache.drop fun k => (db.instancesOf providerId).any fun item => (instanceCacheKeys item).contains k

/-- What was resolved, as far as the deletion of its keys looks at it. -/
def CachedInstance.item (resolved : CachedInstance) : Instance where
  id := resolved.instanceId
  productId := resolved.productId
  vpsProviderId := resolved.vpsProviderId
  instanceName := resolved.instanceName
  providerInstanceId := resolved.providerInstanceId
  hubToken := ""
  updatedAt := 0

/-- Whether an edit is followed by deleting the keys of the provider's instances. -/
def UpdateVpsProviderDto.invalidates (dto : UpdateVpsProviderDto) (policy : Option EvolutionProviderUpdate) : Bool :=
  truthy dto.providerApiKey || truthy dto.providerUrl || truthy dto.adapterType || dto.isActive.isSome ||
    (policy.bind (·.vpsId)).isSome

/-- Whether an operation adds, finds or removes an instance. -/
def Operation.writesInstances : Operation → Bool
  | .recordCreated .. | .removeConfirmed .. | .createLinked .. | .importLinked .. => true
  | _ => false

/-- Something the Hub does, from its beginning to the deletion of the keys it concerns. -/
inductive HubCall
  | resolve (i : InstanceLookup)
  | logout (productId : Uuid) (instanceId : String) (loggedOut : Bool)
  | record (now : Instant) (ticket : ProvisioningTicket) (result : InstanceCreatedDto) (instanceId : Uuid)
  | importSession (data : Instance) (source : ImportSource)
  | remove (instanceId productId providerId : Uuid) (ticket : Option ProvisioningTicket)
  | edit (now : Instant) (vpsId id : Uuid) (dto : UpdateVpsProviderDto) (policy : Option EvolutionProviderUpdate)
  /-- The other transactions of a creation. -/
  | proceed (op : Operation)
  /-- An entry runs out. -/
  | expire (key : String)

variable (env : Env)

/-- What a call leaves. -/
def HubCall.run (s : ResolverState) : HubCall → ResolverState
  | .resolve i => (lookup decrypt s i).2
  | .logout productId instanceId loggedOut =>
    match lookup decrypt s ⟨productId, .id, instanceId⟩ with
    | (.ok resolved, s) => if loggedOut then { s with cache := invalidated s.cache resolved.item } else s
    | (.error _, s) => s
  | .record now ticket result instanceId =>
    match (recordCreated now ticket result instanceId).run s.db with
    | .ok (item, db) => ⟨db, invalidated s.cache item⟩
    | .error _ => s
  | .importSession data source =>
    match (importLinkedInstance data source).run s.db with
    | .ok ((_, item), db) => ⟨db, invalidated s.cache item⟩
    | .error _ => s
  | .remove instanceId productId providerId ticket =>
    match (removeConfirmed instanceId productId providerId ticket).run s.db with
    | .ok (some item, db) => ⟨db, invalidated s.cache item⟩
    | .ok (none, db) => ⟨db, s.cache⟩
    | .error _ => s
  | .edit now vpsId id dto policy =>
    match (updateRecord env now vpsId id dto policy).run s.db with
    | .ok (_, db) => ⟨db, if dto.invalidates policy then invalidatedForProvider s.cache db id else s.cache⟩
    | .error _ => s
  | .proceed op =>
    if op.writesInstances then s
    else
      match (perform env op).run s.db with
      | .ok (_, db) => ⟨db, s.cache⟩
      | .error _ => s
  | .expire key => { s with cache := s.cache.drop (· = key) }

/-- What calls leave, one after another. -/
def runCalls (s : ResolverState) : List HubCall → ResolverState
  | [] => s
  | call :: calls => runCalls (call.run decrypt env s) calls

end Model

section Writes

variable {db db' : Database} {item : Instance}

/-- The columns of a provider that a lookup reads. -/
def VpsProvider.target (provider : VpsProvider) : String × String × String :=
  (provider.providerUrl, provider.providerApiKey, provider.adapterType)

/-- Providers are reached as before. -/
def Database.SameTargets (db db' : Database) : Prop :=
  ∀ id, (db'.providers.find? id).map VpsProvider.target = (db.providers.find? id).map VpsProvider.target

/-- The instances are the same but for one, and providers are reached as before. -/
structure Database.SameBut (db db' : Database) (item : Instance) : Prop where
  instances : ∀ p : Instance → Bool, p item = false →
    db'.instances.rows.filter p = db.instances.rows.filter p
  targets : db.SameTargets db'

/-- A change of a provider changes how that one is reached. -/
theorem find?_updateProvider_target {id : Uuid} {f : VpsProvider → VpsProvider} {hf : ∀ p, (f p).id = p.id}
    (other : Uuid) :
    ((db.updateProvider id f hf).providers.find? other).map VpsProvider.target =
      (db.providers.find? other).map fun p => if other = id then (f p).target else p.target := by
  simp only [Database.updateProvider_providers, Table.find?_modify, Option.map_map]
  cases hfound : db.providers.find? other with
  | none => rfl
  | some provider =>
    obtain ⟨-, hkey⟩ := Table.find?_eq_some.mp hfound
    have hother : provider.id = other := hkey
    rw [Option.map_some, Option.map_some, Function.comp_apply, hother]
    by_cases hid : other = id
    · rw [if_pos (decide_eq_true hid), if_pos hid]
    · rw [if_neg (by simpa only [decide_eq_true_eq] using hid), if_neg hid]

/-- Counting a change of occupancy moves no provider. -/
theorem sameTargets_advanceOccupancy (db : Database) (providerId : Uuid) :
    db.SameTargets (db.advanceOccupancy providerId) := by
  intro id
  rw [Database.advanceOccupancy, find?_updateProvider_target]
  congr 1
  funext provider
  exact ite_self _

/-- An instance that is added is the only one that was not there. -/
theorem sameBut_insert {instances : Table Instance} (h : db.instances.insert? item = some instances)
    (hinstances : db'.instances = instances) (htargets : db.SameTargets db') :
    item ∉ db.instances ∧ db.SameBut db' item := by
  obtain ⟨hfresh, hrows⟩ := Table.insert?_eq_some h
  refine ⟨fun hmem => hfresh item hmem rfl, fun p hp => ?_, htargets⟩
  rw [hinstances, hrows, List.filter_append, List.filter_singleton, hp, cond_false, List.append_nil]

/-- An instance that is removed is the only one that is not there any more. -/
theorem sameBut_remove (hitem : item ∈ db.instances)
    (hinstances : db'.instances.rows = db.instances.rows.filter fun i => i.id ≠ item.id)
    (htargets : db.SameTargets db') : db.SameBut db' item where
  instances := fun p hp => by
    rw [hinstances, List.filter_filter]
    apply List.filter_congr
    intro i hi
    by_cases hid : i.id = item.id
    · rw [Table.eq_of_key_eq hi hitem hid, hp, Bool.false_and]
    · rw [decide_eq_true hid, Bool.and_true]
  targets := htargets

/-- Recording a creation adds the instance it returns, or changes nothing. -/
theorem recordCreated_ok {now : Instant} {ticket : ProvisioningTicket} {result : InstanceCreatedDto}
    {instanceId : Uuid} (h : (recordCreated now ticket result instanceId).run db = .ok (item, db')) :
    db' = db ∨ item ∉ db.instances ∧ db.SameBut db' item := by
  simp only [recordCreated, lockProduct_bind_ok, lockProvider_bind_ok, owned_bind_ok, decodePayload_bind_ok,
    throwWhen_bind_ok] at h
  obtain ⟨_, _, _, _, row, -, payload, -, -, -, h⟩ := h
  cases hrecorded : row.instanceId with
  | some recorded =>
    simp only [hrecorded, get_bind_ok, orThrow_ok] at h
    obtain ⟨_, -, heq⟩ := h
    cases heq
    exact .inl rfl
  | none =>
    simp only [hrecorded, get_bind_ok, set_bind_ok, createInstance_bind_ok, advanceOccupancy_bind_ok,
      pure_ok] at h
    obtain ⟨-, instances, hinserted, -, heq⟩ := h
    cases heq
    exact .inr (sameBut_insert hinserted rfl (sameTargets_advanceOccupancy _ _))

/-- Importing a session adds the instance it returns, or changes nothing. -/
theorem importLinkedInstance_ok {data : Instance} {source : ImportSource} {outcome : ImportOutcome}
    (h : (importLinkedInstance data source).run db = .ok ((outcome, item), db')) :
    db' = db ∨ item ∉ db.instances ∧ db.SameBut db' item := by
  simp only [importLinkedInstance, lockProduct_bind_ok, lockProvider_bind_ok, get_bind_ok,
    throwWhen_bind_ok] at h
  obtain ⟨_, _, _, _, -, -, -, -, h⟩ := h
  split at h
  · simp only [createInstance_bind_ok, advanceOccupancy_bind_ok, pure_ok] at h
    obtain ⟨-, instances, hinserted, -, heq⟩ := h
    cases heq
    exact .inr (sameBut_insert hinserted rfl (sameTargets_advanceOccupancy _ _))
  · simp only [throwWhen_bind_ok, pure_ok] at h
    obtain ⟨-, heq⟩ := h
    cases heq
    exact .inl rfl
  · cases h

/-- Dropping the instance that was found takes away that one. -/
theorem sameBut_dropInstance {id : Uuid} {p : Instance → Bool}
    (hfound : (db.instances.find? id).filter p = some item)
    (hinstances : db'.instances = (db.dropInstance item).instances) (htargets : db.SameTargets db') :
    db.SameBut db' item := by
  obtain ⟨hitem, -⟩ := Option.filter_eq_some_iff.mp hfound
  refine sameBut_remove (Table.find?_eq_some.mp hitem).1 ?_ htargets
  rw [hinstances]
  apply List.filter_congr
  intro i _
  exact (decide_not).symm

/-- A removal takes away the instance it returns, or changes nothing. -/
theorem removeConfirmed_ok {instanceId productId providerId : Uuid} {ticket : Option ProvisioningTicket}
    {removed : Option Instance}
    (h : (removeConfirmed instanceId productId providerId ticket).run db = .ok (removed, db')) :
    (removed = none ∧ db' = db) ∨ ∃ item, removed = some item ∧ db.SameBut db' item := by
  simp only [removeConfirmed, lockProduct_bind_ok, lockProvider_bind_ok] at h
  obtain ⟨_, _, _, _, h⟩ := h
  cases ticket with
  | some ticket =>
    simp only [owned_bind_ok, get_bind_ok] at h
    obtain ⟨row, -, h⟩ := h
    split at h
    · rw [pure_ok] at h
      cases h
      exact .inl ⟨rfl, rfl⟩
    · next item hitem =>
      simp only [set_bind_ok, advanceOccupancy_bind_ok, pure_ok] at h
      obtain ⟨-, heq⟩ := h
      cases heq
      exact .inr ⟨item, rfl, sameBut_dropInstance hitem rfl (sameTargets_advanceOccupancy _ _)⟩
  | none =>
    simp only [throwWhen_bind_ok, get_bind_ok] at h
    obtain ⟨-, h⟩ := h
    split at h
    · rw [pure_ok] at h
      cases h
      exact .inl ⟨rfl, rfl⟩
    · next item hitem =>
      simp only [set_bind_ok, advanceOccupancy_bind_ok, pure_ok] at h
      obtain ⟨-, heq⟩ := h
      cases heq
      exact .inr ⟨item, rfl, sameBut_dropInstance hitem rfl (sameTargets_advanceOccupancy _ _)⟩

end Writes

section Lookups

variable {decrypt : String → Option String} {db db' : Database} {i : InstanceLookup} {found : CachedInstance}
  {item : Instance}

/-- No two lookups have one key. -/
theorem InstanceLookup.key_injective : Function.Injective InstanceLookup.key := by
  rintro ⟨productId, kind, identifier⟩ ⟨otherProduct, otherKind, other⟩ h
  obtain ⟨rfl, rfl, rfl⟩ := instanceCacheKey_injective h
  rfl

/-- A lookup that finds something finds one instance. -/
theorem freshLookup_ok : db.freshLookup decrypt i = .ok found ↔
    ∃ item, db.answering i = [item] ∧ db.resolved decrypt i item = .ok found := by
  unfold Database.freshLookup
  match db.answering i with
  | [] => simp
  | [item] => simp
  | first :: second :: rest => simp

/-- An instance is one that a lookup is about if it is active, of the product, and answers. -/
theorem mem_answering {item : Instance} : item ∈ db.answering i ↔ item ∈ db.instances ∧
    item.productId = i.productId ∧ item.isActive = true ∧ item.answers i.identifier i.kind = true := by
  rw [Database.answering, List.mem_filter, Bool.and_eq_true, Bool.and_eq_true, decide_eq_true_eq, and_assoc,
    Table.mem_rows]

/-- What a lookup makes of an instance depends on how its provider is reached. -/
theorem resolved_congr (h : (db'.providers.find? item.vpsProviderId).map VpsProvider.target =
    (db.providers.find? item.vpsProviderId).map VpsProvider.target) :
    db'.resolved decrypt i item = db.resolved decrypt i item := by
  unfold Database.resolved
  cases hbefore : db.providers.find? item.vpsProviderId with
  | none =>
    rw [hbefore, Option.map_none, Option.map_eq_none_iff] at h
    rw [h]
  | some provider =>
    rw [hbefore, Option.map_some] at h
    obtain ⟨moved, hafter, htarget⟩ := Option.map_eq_some_iff.mp h
    simp only [VpsProvider.target, Prod.mk.injEq] at htarget
    obtain ⟨hurl, hkey, hadapter⟩ := htarget
    simp only [hafter, hurl, hkey, hadapter]

/-- A lookup of a database finds an instance. -/
def Database.Gives (db : Database) (decrypt : String → Option String) (i : InstanceLookup)
    (found : CachedInstance) : Prop :=
  db.freshLookup decrypt i = .ok found

/-- What is given by one instance that the database still has, reached as before, is still given. -/
theorem Database.Gives.kept (h : db.Gives decrypt i found) (hinstances : db'.answering i = db.answering i)
    (htargets : ∀ item ∈ db.answering i, (db'.providers.find? item.vpsProviderId).map VpsProvider.target =
      (db.providers.find? item.vpsProviderId).map VpsProvider.target) : db'.Gives decrypt i found := by
  refine freshLookup_ok.mpr ?_
  obtain ⟨item, hone, hresolved⟩ := freshLookup_ok.mp h
  refine ⟨item, hinstances.trans hone, ?_⟩
  rw [resolved_congr (htargets item (hone ▸ List.mem_singleton_self item))]
  exact hresolved

/-- The lookup of the empty id of a product. -/
def InstanceLookup.ofEmptyId (productId : Uuid) : InstanceLookup := ⟨productId, .id, ""⟩

/-- An entry that a deletion of an instance's keys leaves behind is about another instance, or is that of the empty
id, which the instance has. -/
theorem emptyId_of_kept (hkept : (instanceCacheKeys item).contains i.key = false)
    (hproduct : item.productId = i.productId) (hanswers : item.answers i.identifier i.kind = true) :
    item.providerInstanceId = some "" ∧ i = .ofEmptyId item.productId := by
  have hunnamed : ¬(i.kind = .id → i.identifier ≠ "") := fun hnamed => by
    have hdeleted := mem_instanceCacheKeys hanswers hnamed
    rw [hproduct, ← List.contains_iff_mem] at hdeleted
    rw [InstanceLookup.key, hdeleted] at hkept
    cases hkept
  obtain ⟨productId, kind, identifier⟩ := i
  simp only [Classical.not_imp, not_not] at hunnamed hproduct
  obtain ⟨rfl, rfl⟩ := hunnamed
  refine ⟨?_, by rw [hproduct]; rfl⟩
  rcases Bool.or_eq_true_iff.mp hanswers with hid | hremote
  · exact absurd (of_decide_eq_true hid) item.id.nonempty
  · exact of_decide_eq_true hremote

end Lookups

section Calls

variable {decrypt : String → Option String} {env : Env} {s : ResolverState} {db : Database} {i : InstanceLookup}

/-- What is returned from the cache is what the database gives. -/
def ResolverState.Current (decrypt : String → Option String) (s : ResolverState) : Prop :=
  Coherent InstanceLookup.key (fun i found => i.hit found = true) (s.db.Gives decrypt) s.cache

/-- Nothing is cached under the empty id of the product of an instance that has it. -/
def ResolverState.Forgets (s : ResolverState) (item : Instance) : Prop :=
  item.isActive = true → item.providerInstanceId = some "" →
    s.cache (InstanceLookup.ofEmptyId item.productId).key = none

/-- An edit leaves the credential, the URL and the adapter of the provider as they are. -/
def UpdateVpsProviderDto.Leaves (dto : UpdateVpsProviderDto) (current : VpsProvider) : Prop :=
  truthy dto.providerApiKey = false ∧ dto.providerUrl.getD current.providerUrl = current.providerUrl ∧
    dto.adapterType.getD current.adapterType = current.adapterType

/-- A call that adds or removes an instance, or changes how some are reached, takes no empty text for a missing
one: nothing is cached under the empty id that such an instance has, and what an edit changes is not an empty URL or
adapter alone. -/
def HubCall.Safe (env : Env) (s : ResolverState) : HubCall → Prop
  | .record now ticket result instanceId => ∀ item db,
    (recordCreated now ticket result instanceId).run s.db = .ok (item, db) → item ∉ s.db.instances → s.Forgets item
  | .importSession data source => ∀ outcome item db,
    (importLinkedInstance data source).run s.db = .ok ((outcome, item), db) → item ∉ s.db.instances →
      s.Forgets item
  | .remove instanceId productId providerId ticket => ∀ item db,
    (removeConfirmed instanceId productId providerId ticket).run s.db = .ok (some item, db) → s.Forgets item
  | .edit now vpsId id dto policy => ∀ updated db current,
    (updateRecord env now vpsId id dto policy).run s.db = .ok (updated, db) →
      s.db.providers.find? id = some current → dto.Leaves current ∨
        dto.invalidates policy = true ∧ ∀ item ∈ s.db.instances, item.vpsProviderId = id → s.Forgets item
  | _ => True

/-- A lookup answers as the database does. -/
theorem lookup_eq_freshLookup (h : s.Current decrypt) (i : InstanceLookup) :
    (lookup decrypt s i).1 = s.db.freshLookup decrypt i := by
  unfold lookup
  cases hcached : (s.cache i.key).filter i.hit with
  | some cached =>
    obtain ⟨hentry, hhit⟩ := Option.filter_eq_some_iff.mp hcached
    exact (h i cached hentry hhit).symm
  | none =>
    dsimp only
    cases s.db.freshLookup decrypt i <;> rfl

/-- A lookup keeps the cache current, and the database. -/
theorem lookup_current (h : s.Current decrypt) (i : InstanceLookup) :
    (lookup decrypt s i).2.db = s.db ∧ (lookup decrypt s i).2.Current decrypt := by
  unfold lookup
  cases (s.cache i.key).filter i.hit with
  | some cached => exact ⟨rfl, h⟩
  | none =>
    dsimp only
    cases hfresh : s.db.freshLookup decrypt i with
    | error e => exact ⟨rfl, h⟩
    | ok resolved => exact ⟨rfl, Coherent.set InstanceLookup.key_injective h hfresh⟩

/-- The cache stays current when keys are deleted, and when the database changes so that it gives as before what
is kept under the others. -/
theorem current_dropped {dropped : String → Bool} (h : s.Current decrypt)
    (hkept : ∀ i found, s.cache i.key = some found → dropped i.key = false → s.db.Gives decrypt i found →
      db.Gives decrypt i found) : ResolverState.Current decrypt ⟨db, s.cache.drop dropped⟩ :=
  Coherent.change h hkept

/-- Where the empty id of an instance is not cached, an entry that is left behind by a deletion of the instance's
keys is about none like it. -/
theorem ResolverState.Forgets.not_about {item : Instance} {found : CachedInstance} (h : s.Forgets item)
    (hcached : s.cache i.key = some found) (hkept : (instanceCacheKeys item).contains i.key = false) :
    (decide (item.productId = i.productId) && item.isActive && item.answers i.identifier i.kind) = false := by
  by_contra habout
  simp only [Bool.not_eq_false, Bool.and_eq_true, decide_eq_true_eq] at habout
  obtain ⟨⟨hproduct, hactive⟩, hanswers⟩ := habout
  obtain ⟨hremote, hempty⟩ := emptyId_of_kept hkept hproduct hanswers
  rw [hempty, h hactive hremote] at hcached
  cases hcached

/-- A write of one instance that deletes its keys keeps the cache current. -/
theorem current_invalidated {item : Instance} (h : s.Current decrypt) (hsame : s.db.SameBut db item)
    (hforgets : s.Forgets item) : ResolverState.Current decrypt ⟨db, invalidated s.cache item⟩ := by
  refine current_dropped h fun i found hcached hkept hgives => ?_
  have hothers : db.answering i = s.db.answering i := hsame.instances _ (hforgets.not_about hcached hkept)
  exact hgives.kept hothers fun other _ => hsame.targets other.vpsProviderId

/-- So does one that adds an instance, or changes nothing. -/
theorem current_added {item : Instance} (h : s.Current decrypt)
    (hwritten : db = s.db ∨ item ∉ s.db.instances ∧ s.db.SameBut db item)
    (hforgets : item ∉ s.db.instances → s.Forgets item) :
    ResolverState.Current decrypt ⟨db, invalidated s.cache item⟩ := by
  rcases hwritten with hsame | ⟨hadded, hsame⟩
  · rw [hsame]
    exact current_dropped h fun _ _ _ _ hgives => hgives
  · exact current_invalidated h hsame (hforgets hadded)

/-- A transaction that changes no instance and moves no provider gives what it gave. -/
theorem Database.Gives.same {db' : Database} {found : CachedInstance} (h : db.Gives decrypt i found)
    (hinstances : db'.instances = db.instances) (htargets : db.SameTargets db') : db'.Gives decrypt i found := by
  refine h.kept ?_ fun item _ => htargets item.vpsProviderId
  rw [Database.answering, hinstances]
  rfl

/-- An edit that leaves how its provider is reached moves it nowhere. -/
theorem edited_target {dto : UpdateVpsProviderDto} {policy : Option EvolutionProviderUpdate}
    {provider : VpsProvider} {moved : Bool} (hleaves : dto.Leaves provider) :
    (provider.edited env dto policy moved).target = provider.target := by
  obtain ⟨hkey, hurl, hadapter⟩ := hleaves
  simp only [VpsProvider.target, VpsProvider.edited, hurl, hadapter, hkey, Bool.false_eq_true, if_false]

/-- An edit that leaves that, or deletes the keys of the provider's instances, keeps the cache current. -/
theorem current_edited {now : Instant} {vpsId id : Uuid} {dto : UpdateVpsProviderDto}
    {policy : Option EvolutionProviderUpdate} {updated : VpsProvider} (h : s.Current decrypt)
    (hrun : (updateRecord env now vpsId id dto policy).run s.db = .ok (updated, db))
    (hsafe : ∀ current, s.db.providers.find? id = some current → dto.Leaves current ∨
      dto.invalidates policy = true ∧ ∀ item ∈ s.db.instances, item.vpsProviderId = id → s.Forgets item) :
    ResolverState.Current decrypt
      ⟨db, if dto.invalidates policy then invalidatedForProvider s.cache db id else s.cache⟩ := by
  obtain ⟨current, hcurrent, hedited⟩ := updateRecord_ok hrun
  dsimp only at hedited
  subst hedited
  rcases hsafe current hcurrent with hleaves | ⟨hinvalidates, hforgets⟩
  · have hsame : s.db.SameTargets (s.db.updateProvider id
        (·.edited env dto policy (changesDestination current dto policy))) := fun other => by
      rw [find?_updateProvider_target]
      by_cases hid : other = id
      · rw [hid, hcurrent, Option.map_some, Option.map_some, if_pos rfl, edited_target hleaves]
      · simp only [if_neg hid]
    cases dto.invalidates policy with
    | true => exact current_dropped h fun _ _ _ _ hgives => hgives.same rfl hsame
    | false => exact Coherent.mono h fun _ _ hgives => hgives.same rfl hsame
  · rw [hinvalidates, if_pos rfl]
    refine current_dropped h fun i found hcached hkept hgives => ?_
    refine hgives.kept rfl fun item hitem => ?_
    rw [find?_updateProvider_target]
    by_cases hid : item.vpsProviderId = id
    · -- its provider is the edited one, so its keys are among those that were deleted
      have hmem := List.mem_of_mem_filter hitem
      have hof : item ∈ s.db.instancesOf id := List.mem_filter.mpr ⟨hmem, decide_eq_true hid⟩
      have hleft := Bool.eq_false_of_not_eq_true (List.any_eq_false.mp hkept item hof)
      have habout := (hforgets item (Table.mem_rows.mp hmem) hid).not_about hcached hleft
      rw [(List.mem_filter.mp hitem).2] at habout
      cases habout
    · simp only [if_neg hid]

/-- An operation that writes no instance leaves them as they are. -/
theorem Effect.instances_eq {op : Operation} {outcome : Outcome} {db' : Database} (h : Effect env db op outcome db')
    (hop : op.writesInstances = false) : db'.instances = db.instances := by
  cases h with
  | idle | webhookMarked | finished | cleaning | abandoned | expired | taken => rfl
  | prepared | sent => exact admissionBase_instances _ _ _
  | recordedAgain | recorded | removedOwned | removed | linked | imported => cases hop

/-- A call that takes no empty text for a missing one keeps the cache current. -/
theorem HubCall.run_current {call : HubCall} (h : s.Current decrypt) (hsafe : call.Safe env s) :
    (call.run decrypt env s).Current decrypt := by
  cases call with
  | resolve i => exact (lookup_current h i).2
  | logout productId instanceId loggedOut =>
    have hlookup := (lookup_current h ⟨productId, .id, instanceId⟩).2
    rw [HubCall.run]
    split
    · next resolved after heq =>
      rw [heq] at hlookup
      split
      · exact current_dropped hlookup fun _ _ _ _ hgives => hgives
      · exact hlookup
    · next heq =>
      rw [heq] at hlookup
      exact hlookup
  | record now ticket result instanceId =>
    rw [HubCall.run]
    split
    · next hrun => exact current_added h (recordCreated_ok hrun) (hsafe _ _ hrun)
    · exact h
  | importSession data source =>
    rw [HubCall.run]
    split
    · next hrun => exact current_added h (importLinkedInstance_ok hrun) (hsafe _ _ _ hrun)
    · exact h
  | remove instanceId productId providerId ticket =>
    rw [HubCall.run]
    split
    · next hrun =>
      rcases removeConfirmed_ok hrun with ⟨hnone, -⟩ | ⟨removed, hremoved, hsame⟩
      · cases hnone
      · cases hremoved
        exact current_invalidated h hsame (hsafe _ _ hrun)
    · next hrun =>
      rcases removeConfirmed_ok hrun with ⟨-, hsame⟩ | ⟨removed, hremoved, -⟩
      · rw [hsame]
        exact h
      · cases hremoved
    · exact h
  | edit now vpsId id dto policy =>
    rw [HubCall.run]
    split
    · next hrun => exact current_edited h hrun fun current => hsafe _ _ current hrun
    · exact h
  | proceed op =>
    rw [HubCall.run]
    split
    · exact h
    · next hop =>
      split
      · next hrun =>
        have heffect := perform_effect hrun
        have hinstances := heffect.instances_eq (Bool.eq_false_of_not_eq_true hop)
        refine Coherent.mono h fun i found hgives => hgives.same hinstances fun id => ?_
        exact heffect.provider_column VpsProvider.target (fun _ _ => rfl) id
      · exact h
  | expire key => exact current_dropped h fun _ _ _ _ hgives => hgives

/-- Calls none of which takes an empty text for a missing one. -/
def SafeCalls (decrypt : String → Option String) (env : Env) (s : ResolverState) : List HubCall → Prop
  | [] => True
  | call :: calls => call.Safe env s ∧ SafeCalls decrypt env (call.run decrypt env s) calls

/-- So do such calls, one after another. -/
theorem runCalls_current {calls : List HubCall} (h : s.Current decrypt) (hsafe : SafeCalls decrypt env s calls) :
    (runCalls decrypt env s calls).Current decrypt := by
  induction calls generalizing s with
  | nil => exact h
  | cons call calls ih => exact ih (HubCall.run_current h hsafe.1) hsafe.2

end Calls

section Runs

variable {decrypt : String → Option String} {env : Env} {db : Database} {i : InstanceLookup} {found : CachedInstance}

/-- What is found is the one active instance of the product that answers, reached as its provider is. -/
structure Database.ResolvesTo (db : Database) (decrypt : String → Option String) (i : InstanceLookup)
    (found : CachedInstance) (item : Instance) (provider : VpsProvider) : Prop where
  present : item ∈ db.instances
  own : item.productId = i.productId
  active : item.isActive = true
  answers : item.answers i.identifier i.kind = true
  only : ∀ other ∈ db.instances, other.productId = i.productId → other.isActive = true →
    other.answers i.identifier i.kind = true → other = item
  provider_found : db.providers.find? item.vpsProviderId = some provider
  ids : (found.instanceId, found.productId, found.vpsProviderId) = (item.id, item.productId, item.vpsProviderId)
  names : (found.instanceName, found.providerInstanceId) = (item.instanceName, item.providerInstanceId)
  reached : (found.providerUrl, found.adapterType) = (provider.providerUrl, provider.adapterType)
  credential : decrypt provider.providerApiKey = some found.providerApiKey

/-- A lookup that finds something finds that. -/
theorem resolvesTo_of_freshLookup (h : db.freshLookup decrypt i = .ok found) :
    ∃ item provider, db.ResolvesTo decrypt i found item provider := by
  obtain ⟨item, hone, hresolved⟩ := freshLookup_ok.mp h
  obtain ⟨hmem, hown, hactive, hanswers⟩ :=
    mem_answering.mp (show item ∈ db.answering i from hone ▸ List.mem_singleton_self item)
  unfold Database.resolved at hresolved
  rw [if_neg (not_not_intro hown)] at hresolved
  split at hresolved
  · cases hresolved
  · next provider hprovider =>
    split at hresolved
    · cases hresolved
    · next apiKey hcredential =>
      cases hresolved
      have honly : ∀ other ∈ db.instances, other.productId = i.productId → other.isActive = true →
          other.answers i.identifier i.kind = true → other = item := by
        intro other hother hproduct hlive hanswer
        have habout := mem_answering.mpr ⟨hother, hproduct, hlive, hanswer⟩
        rw [hone] at habout
        exact List.mem_singleton.mp habout
      exact ⟨item, provider, hmem, hown, hactive, hanswers, honly, hprovider, by rw [hown], rfl, rfl, hcredential⟩

/-- After any calls none of which takes an empty text for a missing one, a lookup answers as the database does: what
it returns from the cache is the one active instance of the product that answers now, with the URL and the credential
that its provider has now. -/
theorem lookups_current {calls : List HubCall} {s : ResolverState}
    (hsafe : SafeCalls decrypt env ⟨db, fun _ => none⟩ calls)
    (hrun : runCalls decrypt env ⟨db, fun _ => none⟩ calls = s) (i : InstanceLookup) :
    (lookup decrypt s i).1 = s.db.freshLookup decrypt i ∧
      ∀ found, s.cache i.key = some found → i.hit found = true →
        s.db.freshLookup decrypt i = .ok found ∧
          ∃ item provider, s.db.ResolvesTo decrypt i found item provider := by
  have hcurrent : s.Current decrypt := by
    rw [← hrun]
    exact runCalls_current Coherent.empty hsafe
  refine ⟨lookup_eq_freshLookup hcurrent i, fun found hcached hhit => ?_⟩
  have hfresh := hcurrent i found hcached hhit
  exact ⟨hfresh, resolvesTo_of_freshLookup hfresh⟩

/-- A provider without a limit. -/
def smallUncapped : VpsProvider := { smallProvider with maxInstances := none }

/-- A session there. -/
def smallResolved (remote : Option String) : Instance where
  id := ⟨"resolved", by decide⟩
  productId := smallProduct.id
  vpsProviderId := smallProvider.id
  instanceName := "alice"
  providerInstanceId := remote
  hubToken := "hub_product_alice"
  updatedAt := 0

/-- A product that chose that provider, with the session. -/
def smallServing (remote : Option String) : Database where
  products := ⟨[{ smallProduct with allocationMode := .legacy }], List.nodup_singleton _⟩
  vpsServers := ⟨[smallServer], List.nodup_singleton _⟩
  providers := ⟨[smallUncapped], List.nodup_singleton _⟩
  links := ⟨[{ productId := smallProduct.id, vpsProviderId := smallProvider.id }], List.nodup_singleton _⟩
  instances := ⟨[smallResolved remote], List.nodup_singleton _⟩

/-- The session is looked up by its name. -/
def smallByName : InstanceLookup := ⟨smallProduct.id, .name, "alice"⟩

/-- Or by an empty id. -/
def smallByEmpty : InstanceLookup := ⟨smallProduct.id, .id, ""⟩

/-- Its provider is given another URL. -/
def smallMove (url : String) : HubCall := .edit 0 smallServer.id smallProvider.id { providerUrl := some url } none

/-- A session with an empty remote id is looked up by its name and by that id, whose entry runs out, and its provider
is given another URL: it is found at the new one. -/
theorem lookups_current_small :
    let calls := [.resolve smallByName, .resolve smallByEmpty, .expire smallByEmpty.key, smallMove "https://moved.test"]
    let s := runCalls some smallEnv ⟨smallServing (some ""), fun _ => none⟩ calls
    (lookup some s smallByName).1.toOption.map (·.providerUrl) = some "https://moved.test" := by
  intro calls s
  have hsafe : SafeCalls some smallEnv ⟨smallServing (some ""), fun _ => none⟩ calls := by
    refine ⟨trivial, trivial, trivial, fun _ _ _ _ _ => .inr ⟨by decide, fun item hitem _ _ _ => ?_⟩, trivial⟩
    rw [show item = smallResolved (some "") from List.mem_singleton.mp hitem]
    decide +kernel
  rw [(lookups_current hsafe rfl smallByName).1]
  decide +kernel

/-- It is still found at the old one after the URL was emptied, and after its removal where its remote id is
empty. -/
theorem stale_lookups_served :
    let emptied := runCalls some smallEnv ⟨smallServing none, fun _ => none⟩ [.resolve smallByName, smallMove ""]
    let removed := runCalls some smallEnv ⟨smallServing (some ""), fun _ => none⟩
      [.resolve smallByEmpty, .remove (smallResolved none).id smallProduct.id smallProvider.id none]
    (((emptied.cache smallByName.key).filter smallByName.hit).map (·.providerUrl) = some "https://evolution.test" ∧
        (emptied.db.freshLookup some smallByName).toOption.map (·.providerUrl) = some "") ∧
      ((removed.cache smallByEmpty.key).filter smallByEmpty.hit).map (·.instanceName) = some "alice" ∧
        (removed.db.freshLookup some smallByEmpty).toOption = none := by
  intro emptied removed
  refine ⟨⟨?_, ?_⟩, ?_, ?_⟩ <;> decide +kernel

end Runs

end ConnectHub
