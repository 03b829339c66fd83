import ConnectHub.CapacityChanges
import ConnectHub.Evolutions
import ConnectHub.Providers
import ConnectHub.ProvisioningRuns

/-!
# Retired providers

A provider is retired when nothing uses it. Creations are admitted on active providers alone, and what was read
of a provider before a session is imported is compared under the lock with what it has become: a provider that
was switched off has a later revision than any that was read while it was on. A retirement that finds the
provider switched off already only reports, whatever is still on the provider.
-/

namespace ConnectHub

open Store

/-- The database, and what the imports under way read of their providers. -/
structure ImportSystem where
  db : Database
  sources : List (Uuid × ImportSource)

/-- Whether an operation brings in a session that was not created here. -/
def Operation.bringsIn : Operation → Bool
  | .createLinked _ | .importLinked _ _ => true
  | _ => false

/-- What leaves the place of every instance, the creations, and the switch and the revision of every provider
as they are, whatever else it does. -/
structure Database.BesideProviders (db db' : Database) : Prop where
  provisionings : db'.provisionings = db.provisionings
  instances : ∀ i ∈ db'.instances, ∃ i₀ ∈ db.instances, i₀.vpsProviderId = i.vpsProviderId
  providers : ∃ f : VpsProvider → VpsProvider, db'.providers.rows = db.providers.rows.map f ∧
    ∀ p, (f p).id = p.id ∧ (f p).isActive = p.isActive ∧
      (f p).configurationRevision = p.configurationRevision

/-- What happens in one step. -/
inductive RetirementEvent
  | read (id : Uuid)
  | imported (data : Instance) (source : ImportSource)
  | provisioning (transition : Transition)
  | administered (op : AdminOperation)
  | registered (vpsId : Uuid) (dto : CreateVpsProviderDto) (strict : Bool) (id : Uuid)
  | updated (now : Instant) (vpsId id : Uuid) (dto : UpdateVpsProviderDto)
      (policy : Option EvolutionProviderUpdate)
  | retired (now : Instant) (id : Uuid) (expectedRevision expectedInventoryRevision : Nat)
  | beside
deriving DecidableEq, Repr

/-- Whether an event switches a provider on again. -/
def RetirementEvent.reactivates (v : Uuid) : RetirementEvent → Bool
  | .updated _ _ id dto _ => id = v && dto.isActive = some true
  | _ => false

/-- One step of the system. An import reads its provider outside its transaction; the product and the link it
looked up before may have changed since, so nothing is assumed of them. A transaction that fails commits
nothing. The manual link of a session has no caller. -/
inductive RetirementStep (env : Env) (s : ImportSystem) : RetirementEvent → ImportSystem → Prop
  | read {id : Uuid} {provider : VpsProvider} {db' : Database}
      (run : (importProvider id).run s.db = .ok (provider, db')) :
      RetirementStep env s (.read id) { s with sources := (id, provider.importSource) :: s.sources }
  | imported {data : Instance} {source : ImportSource}
      (prepared : (data.vpsProviderId, source) ∈ s.sources) :
      RetirementStep env s (.imported data source)
        { s with db := commit (perform env (.importLinked data source)) s.db }
  | provisioning {transition : Transition} {db' : Database}
      (own : ∀ op, transition = .committed op → op.bringsIn = false)
      (step : DatabaseStep env s.db transition db') :
      RetirementStep env s (.provisioning transition) { s with db := db' }
  | administered (op : AdminOperation) :
      RetirementStep env s (.administered op) { s with db := commit (op.perform env) s.db }
  | registered (vpsId : Uuid) (dto : CreateVpsProviderDto) (strict : Bool) (id : Uuid) :
      RetirementStep env s (.registered vpsId dto strict id)
        { s with db := commit (createRecord env vpsId dto strict id) s.db }
  | updated (now : Instant) (vpsId id : Uuid) (dto : UpdateVpsProviderDto)
      (policy : Option EvolutionProviderUpdate) :
      RetirementStep env s (.updated now vpsId id dto policy)
        { s with db := commit (updateRecord env now vpsId id dto policy) s.db }
  | retired (now : Instant) (id : Uuid) (expectedRevision expectedInventoryRevision : Nat) :
      RetirementStep env s (.retired now id expectedRevision expectedInventoryRevision)
        { s with db := commit (retire env now id expectedRevision expectedInventoryRevision) s.db }
  | beside {db' : Database} (kept : s.db.BesideProviders db') :
      RetirementStep env s .beside { s with db := db' }

/-- No instance and no open creation is on a provider. -/
def Database.Unoccupied (db : Database) (v : Uuid) : Prop :=
  (∀ i ∈ db.instances, i.vpsProviderId ≠ v) ∧ ∀ r ∈ db.provisionings, r.isOpen = true → r.vpsProviderId ≠ v

section Providers

variable {env : Env} {now : Instant} {db db' : Database} {v id : Uuid}

/-- How a provider changes: its revision never falls, and grows whenever the provider is switched on or
off. -/
structure VpsProvider.Advanced (p p' : VpsProvider) : Prop where
  revision : p.configurationRevision ≤ p'.configurationRevision
  switched : p'.isActive ≠ p.isActive → p.configurationRevision < p'.configurationRevision

/-- A provider that keeps its switch and its revision. -/
theorem VpsProvider.Advanced.of_columns {p p' : VpsProvider} (hactive : p'.isActive = p.isActive)
    (hrevision : p'.configurationRevision = p.configurationRevision) : p.Advanced p' :=
  ⟨hrevision.ge, fun hne => absurd hactive hne⟩

/-- A provider whose revision grows. -/
theorem VpsProvider.Advanced.of_lt {p p' : VpsProvider}
    (h : p.configurationRevision < p'.configurationRevision) : p.Advanced p' :=
  ⟨h.le, fun _ => h⟩

/-- Every provider is still there, and changed as providers do. -/
def Database.ProvidersAdvanced (db db' : Database) : Prop :=
  ∀ v p, db.providers.find? v = some p → ∃ p', db'.providers.find? v = some p' ∧ p.Advanced p'

/-- Providers that stay as they are. -/
theorem providersAdvanced_of_eq (h : db'.providers = db.providers) : db.ProvidersAdvanced db' := by
  intro v p hp
  rw [h]
  exact ⟨p, hp, .of_columns rfl rfl⟩

/-- Providers that are changed one by one. -/
theorem providersAdvanced_of_map {f : VpsProvider → VpsProvider} (hid : ∀ p, (f p).id = p.id)
    (hrows : db'.providers.rows = db.providers.rows.map f) (h : ∀ p : VpsProvider, p.Advanced (f p)) :
    db.ProvidersAdvanced db' := by
  intro v p hp
  refine ⟨f p, ?_, h p⟩
  rw [Table.find?_of_rows_map hid hrows, hp, Option.map_some]

/-- One provider is changed. -/
theorem providersAdvanced_update {f : VpsProvider → VpsProvider} (hid : ∀ p, (f p).id = p.id)
    (h : ∀ p : VpsProvider, p.Advanced (f p)) : db.ProvidersAdvanced (db.updateProvider id f hid) := by
  refine providersAdvanced_of_map (f := fun p => if p.id = id then f p else p) (fun p => ?_) ?_ fun p => ?_
  · split
    · exact hid p
    · rfl
  · simp only [Database.updateProvider_providers, Table.modify, decide_eq_true_eq]
  · split
    · exact h p
    · exact .of_columns rfl rfl

/-- A provider is registered beside the others. -/
theorem providersAdvanced_createRecord {vpsId : Uuid} {dto : CreateVpsProviderDto} {strict : Bool}
    {provider : VpsProvider} (h : (createRecord env vpsId dto strict id).run db = .ok (provider, db')) :
    db.ProvidersAdvanced db' := by
  obtain ⟨-, providers, hinserted, rfl⟩ := createRecord_ok h
  intro v p hp
  refine ⟨p, Table.find?_eq_some.mpr ⟨?_, (Table.find?_eq_some.mp hp).2⟩, .of_columns rfl rfl⟩
  exact (Table.mem_insert? hinserted).mpr (Or.inl (Table.find?_eq_some.mp hp).1)

/-- An edit counts itself. -/
theorem providersAdvanced_updateRecord {vpsId : Uuid} {dto : UpdateVpsProviderDto}
    {policy : Option EvolutionProviderUpdate} {provider : VpsProvider}
    (h : (updateRecord env now vpsId id dto policy).run db = .ok (provider, db')) :
    db.ProvidersAdvanced db' := by
  obtain ⟨current, -, heq⟩ := updateRecord_ok h
  obtain rfl : db' = _ := heq
  exact providersAdvanced_update _ fun p => .of_lt (Nat.lt_succ_self _)

/-- A retirement only reported on a provider that was switched off, or found nothing on it and switched it
off. -/
theorem retire_ok {expectedRevision expectedInventoryRevision : Nat} {report : RemovalReadiness}
    (h : (retire env now v expectedRevision expectedInventoryRevision).run db = .ok (report, db')) :
    ∃ provider, db.providers.find? v = some provider ∧
      ((provider.isActive = false ∧ db' = db) ∨ (provider.isActive = true ∧
        db.removalBlockers env now provider = [] ∧ db' = db.updateProvider v fun p =>
          { p with isActive := false, configurationRevision := p.configurationRevision + 1 })) := by
  have hremoval : ReadOnly (removal env now v) :=
    ReadOnly.get.bind fun _ => ReadOnly.orThrow.bind fun _ => ReadOnly.pure _
  rw [retire, lockProvider_bind_ok] at h
  obtain ⟨provider, hprovider, h⟩ := h
  refine ⟨provider, hprovider, ?_⟩
  split at h
  · next hinactive => exact Or.inl ⟨hinactive, hremoval db _ h⟩
  · next hactive =>
    simp only [assertRevision, throwWhen_bind_ok] at h
    obtain ⟨-, -, h⟩ := h
    obtain ⟨readiness, db₁, hreadiness, hrest⟩ := bind_ok.mp h
    simp only [removal, get_bind_ok, hprovider, orThrow, pure_bind, pure_ok] at hreadiness
    cases hreadiness
    rw [throwWhen_bind_ok, modify_bind_ok] at hrest
    obtain ⟨hremovable, hrest⟩ := hrest
    refine Or.inr ⟨Bool.not_eq_false _ ▸ hactive, ?_, hremoval _ _ hrest⟩
    simpa [List.isEmpty_iff] using hremovable

/-- A retirement switches a provider off, at a later revision. -/
theorem providersAdvanced_retire {expectedRevision expectedInventoryRevision : Nat}
    {report : RemovalReadiness}
    (h : (retire env now id expectedRevision expectedInventoryRevision).run db = .ok (report, db')) :
    db.ProvidersAdvanced db' := by
  obtain ⟨provider, -, ⟨-, rfl⟩ | ⟨-, -, rfl⟩⟩ := retire_ok h
  · exact providersAdvanced_of_eq rfl
  · exact providersAdvanced_update _ fun p => .of_lt (Nat.lt_succ_self _)

/-- The provisioning transactions keep the switch and the revision of every provider. -/
theorem Effect.providersAdvanced {op : Operation} {outcome : Outcome} (h : Effect env db op outcome db') :
    db.ProvidersAdvanced db' := by
  intro v p hp
  have hcolumns := h.provider_column (fun p => (p.isActive, p.configurationRevision)) (fun _ _ => rfl) v
  rw [hp, Option.map_some] at hcolumns
  obtain ⟨p', hp', hsame⟩ := Option.map_eq_some_iff.mp hcolumns
  exact ⟨p', hp', .of_columns (congrArg Prod.fst hsame) (congrArg Prod.snd hsame)⟩

/-- Updates that never lower the revision do not lower it one after the other. -/
theorem foldl_update_revision {α : Type} (key : α → Uuid) (f : α → VpsProvider → VpsProvider)
    (hf : ∀ a p, p.configurationRevision ≤ (f a p).configurationRevision) (items : List α) (p : VpsProvider) :
    p.configurationRevision ≤
      (items.foldl (fun p a => if p.id = key a then f a p else p) p).configurationRevision := by
  induction items generalizing p with
  | nil => exact Nat.le_refl _
  | cons a items ih =>
    rw [List.foldl_cons]
    refine Nat.le_trans ?_ (ih _)
    split
    · exact hf a p
    · exact Nat.le_refl _

/-- A draft counts its limits and identities, and switches no provider. -/
theorem VpsProvider.Advanced.drafted (draft : EvolutionChangeInput) (p : VpsProvider) :
    p.Advanced (p.drafted env draft) := by
  refine ⟨?_, fun hne => absurd (drafted_column (·.isActive) (fun _ _ => rfl) (fun _ => rfl) p) hne⟩
  unfold VpsProvider.drafted
  exact Nat.le_trans
    (foldl_update_revision _ (fun (update : DraftProviderUpdate) p => p.limited update.maxInstances)
      (fun _ _ => Nat.le_succ _) _ p)
    (foldl_update_revision _ (fun _ p => p.certified env) (fun _ _ => Nat.le_succ _) _ _)

end Providers

section Administration

variable {env : Env} {now : Instant} {db db' : Database} {op : AdminOperation}

/-- What administering products and links leaves: the instances and the changed providers as they were, or as
a draft writes them, and the creations, some of them without their link. -/
structure AdminKept (env : Env) (db db' : Database) : Prop where
  instances : db'.instances = db.instances
  provisionings : ∀ r ∈ db'.provisionings, ∃ r₀ ∈ db.provisionings, r = r₀ ∨ r = r₀.unlinked
  providers : db'.providers = db.providers ∨
    ∃ draft, db'.providers.rows = db.providers.rows.map (·.drafted env draft)

/-- Tables that stay as they are. -/
theorem AdminKept.of_eq (hinstances : db'.instances = db.instances)
    (hprovisionings : db'.provisionings = db.provisionings) (hproviders : db'.providers = db.providers) :
    AdminKept env db db' := by
  refine ⟨hinstances, fun r hr => ⟨r, ?_, Or.inl rfl⟩, Or.inl hproviders⟩
  rw [← hprovisionings]
  exact hr

/-- Making sure of the link to a default provider touches nothing but links. -/
theorem AdminKept.ensureDefaultLink {product : Product} {acceptingNewInstances : Bool} {db₁ : Database}
    (h : (ensureDefaultLink product acceptingNewInstances).run db₁ = .ok ((), db'))
    (hkept : AdminKept env db db₁) : AdminKept env db db' := by
  rcases ensureDefaultLink_ok h with ⟨-, rfl⟩ | ⟨v, -, rfl⟩
  · exact hkept
  · exact ⟨hkept.instances, hkept.provisionings, hkept.providers⟩

/-- What every administrative operation leaves. -/
theorem AdminOperation.kept (h : (op.perform env).run db = .ok ((), db')) : AdminKept env db db' := by
  cases op with
  | createProduct dto id apiKeyHash =>
    obtain ⟨product, db₁, hrun, hpure⟩ := bind_ok.mp h
    cases pure_ok.mp hpure
    obtain ⟨products, -, hensured⟩ := createProduct_ok hrun
    exact .ensureDefaultLink hensured (.of_eq rfl rfl rfl)
  | updateProduct id dto =>
    obtain ⟨product, db₁, hrun, hpure⟩ := bind_ok.mp h
    cases pure_ok.mp hpure
    obtain ⟨current, -, hensured⟩ := updateProduct_ok hrun
    exact .ensureDefaultLink hensured (.of_eq rfl rfl rfl)
  | deactivate id =>
    rw [deactivate_ok h]
    exact .of_eq rfl rfl rfl
  | attach productId vpsProviderId expectedRevision =>
    rcases attach_ok h with rfl | ⟨links, -, rfl⟩
    · exact .of_eq rfl rfl rfl
    · exact .of_eq rfl rfl rfl
  | updateLink productId vpsProviderId dto =>
    rw [updateLink_ok h]
    exact .of_eq rfl rfl rfl
  | detach productId vpsProviderId expectedRevision =>
    obtain ⟨product, -, -, rfl⟩ := detach_ok h
    exact ⟨rfl, fun r hr => mem_deleteLink hr, Or.inl rfl⟩
  | setAllocation now productId dto =>
    rcases setAllocation_ok h with rfl | rfl
    · exact .of_eq rfl rfl rfl
    · exact .of_eq rfl rfl rfl
  | apply now productId id revision actor =>
    obtain ⟨applied, db₁, hrun, hpure⟩ := bind_ok.mp h
    cases pure_ok.mp hpure
    rcases apply_cases hrun with ⟨-, rfl⟩ | ⟨-, plan, row, -, hwritten⟩
    · exact .of_eq rfl rfl rfl
    · obtain ⟨db₂, audit, heffects, rfl⟩ := applyWrite_ok hwritten
      have hkept := applyEffects_kept heffects
      exact ⟨hkept.instances, hkept.provisionings, Or.inr ⟨plan.draft, hkept.providers⟩⟩

/-- Administering products and links switches no provider. -/
theorem AdminKept.providersAdvanced (h : AdminKept env db db') : db.ProvidersAdvanced db' := by
  rcases h.providers with hsame | ⟨draft, hrows⟩
  · exact providersAdvanced_of_eq hsame
  · exact providersAdvanced_of_map (fun p => drafted_column (·.id) (fun _ _ => rfl) (fun _ => rfl) p) hrows
      fun p => .drafted draft p

end Administration

section Vacant

variable {env : Env} {now : Instant} {db db' : Database} {v : Uuid}

/-- A provider that is switched off, with no instance and no open creation on it. -/
structure Database.Vacated (db : Database) (v : Uuid) : Prop where
  inactive : ∃ p, db.providers.find? v = some p ∧ p.isActive = false
  unoccupied : db.Unoccupied v

/-- On a provider that is switched off nothing is admitted. -/
theorem Database.Vacated.not_active (h : db.Vacated v) {p : VpsProvider}
    (hp : db.providers.find? v = some p) : p.isActive = false := by
  obtain ⟨p', hp', hinactive⟩ := h.inactive
  rw [Option.some.inj (hp.symm.trans hp')]
  exact hinactive

/-- Whoever takes the instances and creations as they are, or fewer, leaves a provider unoccupied. -/
theorem Database.Unoccupied.of_within (h : db.Unoccupied v)
    (hinstances : ∀ i ∈ db'.instances, ∃ i₀ ∈ db.instances, i₀.vpsProviderId = i.vpsProviderId)
    (hpending : ∀ r ∈ db'.provisionings, r.isOpen = true → ∃ r₀ ∈ db.provisionings, r₀.isOpen = true ∧
      r₀.vpsProviderId = r.vpsProviderId) : db'.Unoccupied v := by
  constructor
  · intro i hi
    obtain ⟨i₀, hi₀, hprovider⟩ := hinstances i hi
    rw [← hprovider]
    exact h.1 i₀ hi₀
  · intro r hr hopen
    obtain ⟨r₀, hr₀, hopen₀, hprovider⟩ := hpending r hr hopen
    rw [← hprovider]
    exact h.2 r₀ hr₀ hopen₀

/-- The provisioning transactions admit nothing on a provider that is switched off, and bring nothing in
there unless it is the session they bring in. -/
theorem Database.Vacated.perform {op : Operation} {outcome : Outcome} (h : db.Vacated v)
    (hrun : (perform env op).run db = .ok (outcome, db'))
    (hbrought : ∀ data, (op = .createLinked data ∨ ∃ source, op = .importLinked data source) →
      data.vpsProviderId ≠ v) : db'.Vacated v := by
  have heffect := perform_effect hrun
  obtain ⟨p, hp, hinactive⟩ := h.inactive
  refine ⟨?_, fun i hi => ?_, fun r hr hopen => ?_⟩
  · have hcolumn := heffect.provider_column (·.isActive) (fun _ _ => rfl) v
    rw [hp, Option.map_some, hinactive] at hcolumn
    exact Option.map_eq_some_iff.mp hcolumn
  · rcases heffect.instances with hold | ⟨row, item, hrecorded⟩ | ⟨item, hin, hop⟩
    · exact h.unoccupied.1 i (hold i hi)
    · rcases (hrecorded.instances i).mp hi with hold | rfl
      · exact h.unoccupied.1 i hold
      · rw [hrecorded.vpsProviderId_eq]
        exact h.unoccupied.2 row hrecorded.row_mem hrecorded.isOpen
    · rcases (hin.instances i).mp hi with hold | rfl
      · exact h.unoccupied.1 i hold
      · exact hbrought i hop
  · rcases heffect.open_rows with hwithin | ⟨row, hreserved⟩
    · obtain ⟨r₀, hr₀, hopen₀, hslot, -⟩ := hwithin r hr hopen
      have hprovider : r₀.vpsProviderId = r.vpsProviderId := congrArg (·.2.2.1) hslot
      rw [← hprovider]
      exact h.unoccupied.2 r₀ hr₀ hopen₀
    · rcases (hreserved.rows r).mp hr with hold | rfl
      · exact h.unoccupied.2 r hold hopen
      · intro heq
        obtain ⟨_, product, provider, hprovider, hadmits⟩ := hreserved.admitted
        rw [heq] at hprovider
        have hactive := hadmits.providerActive
        rw [h.not_active hprovider] at hactive
        cases hactive

/-- Committing a transaction leaves a provider vacated when its success does. -/
theorem Database.Vacated.commit {α : Type} {tx : Tx α} (h : db.Vacated v)
    (hok : ∀ a db', tx.run db = .ok (a, db') → db'.Vacated v) : (commit tx db).Vacated v :=
  commit_induction (P := fun db : Database => db.Vacated v) h hok

/-- Administering products and links leaves a provider that is switched off as it is. -/
theorem Database.Vacated.administered (h : db.Vacated v) (hkept : AdminKept env db db') : db'.Vacated v := by
  obtain ⟨p, hp, hinactive⟩ := h.inactive
  refine ⟨?_, h.unoccupied.of_within (fun i hi => ⟨i, hkept.instances ▸ hi, rfl⟩) fun r hr hopen => ?_⟩
  · rcases hkept.providers with hsame | ⟨draft, hrows⟩
    · rw [hsame]
      exact ⟨p, hp, hinactive⟩
    · refine ⟨p.drafted env draft, ?_, ?_⟩
      · have hid : ∀ p : VpsProvider, (p.drafted env draft).id = p.id := fun p =>
          drafted_column (·.id) (fun _ _ => rfl) (fun _ => rfl) p
        rw [Table.find?_of_rows_map hid hrows, hp, Option.map_some]
      · exact (drafted_column (·.isActive) (fun _ _ => rfl) (fun _ => rfl) p).trans hinactive
  · obtain ⟨r₀, hr₀, rfl | rfl⟩ := hkept.provisionings r hr
    · exact ⟨_, hr₀, hopen, rfl⟩
    · exact ⟨r₀, hr₀, hopen, rfl⟩

/-- A remote create is authorised on no provider that is switched off. -/
theorem Database.Vacated.markCreating {execution : QrRequestContext} {ticket : ProvisioningTicket}
    {outcome : VpsProvider × Database} (h : db.Vacated v) (hticket : ticket.vpsProviderId = v) :
    (markCreating env now execution ticket).run db ≠ .ok outcome := by
  intro hrun
  obtain ⟨admitted, db₁, hadmission, -⟩ := bind_ok.mp hrun
  obtain ⟨product, provider, -, hprovider, hadmits, -⟩ := admission_ok.mp hadmission
  rw [hticket] at hprovider
  have hactive := hadmits.providerActive
  rw [h.not_active hprovider] at hactive
  cases hactive

/-- A provider that can be removed has no instance and no open creation on it. -/
theorem unoccupied_of_removable {provider : VpsProvider}
    (h : db.removalBlockers env now provider = []) : db.Unoccupied provider.id := by
  have hinstances : db.instancesOf provider.id = [] := by
    by_contra hne
    have hpresent : .instancesPresent ∈ db.removalBlockers env now provider := by
      simp [Database.removalBlockers, presentWhen, Database.removalUsage, Database.evolutionUsage,
        List.length_pos_iff, hne]
    rw [h] at hpresent
    cases hpresent
  have hpending : db.pendingProvisionings none (some provider.id) = 0 := by
    by_contra hne
    have hpresent : .pendingPresent ∈ db.removalBlockers env now provider :=
      pendingPresent_mem_removalBlockers.mpr hne
    rw [h] at hpresent
    cases hpresent
  constructor
  · intro i hi heq
    have hmem : i ∈ db.instancesOf provider.id := List.mem_filter.mpr ⟨hi, decide_eq_true heq⟩
    rw [hinstances] at hmem
    cases hmem
  · intro r hr hopen heq
    have hnot := List.countP_eq_zero.mp hpending r hr
    simp [InstanceProvisioning.isPending, isTerminal_eq_not_isOpen, hopen, heq] at hnot

/-- An import that was assigned had read the provider as it is. -/
theorem importLinkedInstance_current {data : Instance} {source : ImportSource}
    {r : (ImportOutcome × Instance) × Database} (h : (importLinkedInstance data source).run db = .ok r) :
    ∃ provider, db.providers.find? data.vpsProviderId = some provider ∧
      provider.configurationRevision = source.configurationRevision := by
  simp only [importLinkedInstance, lockProduct_bind_ok, lockProvider_bind_ok, throwWhen_bind_ok] at h
  obtain ⟨_, -, provider, hprovider, -, hsame, -⟩ := h
  simp only [ne_eq, not_or, not_not] at hsame
  exact ⟨provider, hprovider, hsame.2.2⟩

end Vacant

section System

variable {env : Env} {now : Instant} {s s' t : ImportSystem} {e : RetirementEvent} {v : Uuid}

/-- Whatever an import has read of a provider was not later than what it is now, and earlier than what it
became when it was switched off. -/
def ImportSystem.Sound (s : ImportSystem) : Prop :=
  ∀ read ∈ s.sources, ∃ p, s.db.providers.find? read.1 = some p ∧
    read.2.configurationRevision ≤ p.configurationRevision ∧
      (p.isActive = false → read.2.configurationRevision < p.configurationRevision)

/-- What an import has read stays sound as the providers change. -/
theorem ImportSystem.Sound.advanced (h : s.Sound) (hadvanced : s.db.ProvidersAdvanced s'.db)
    (hsources : s'.sources = s.sources) : s'.Sound := by
  intro read hread
  rw [hsources] at hread
  obtain ⟨p, hp, hle, hlt⟩ := h read hread
  obtain ⟨p', hp', hchange⟩ := hadvanced read.1 p hp
  refine ⟨p', hp', Nat.le_trans hle hchange.revision, fun hinactive => ?_⟩
  by_cases hsame : p'.isActive = p.isActive
  · exact Nat.lt_of_lt_of_le (hlt (hsame.symm.trans hinactive)) hchange.revision
  · exact Nat.lt_of_le_of_lt hle (hchange.switched hsame)

/-- Committing a transaction changes the providers as its success does. -/
theorem providersAdvanced_commit {α : Type} {tx : Tx α} {db : Database}
    (h : ∀ a db', tx.run db = .ok (a, db') → db.ProvidersAdvanced db') :
    db.ProvidersAdvanced (commit tx db) :=
  commit_induction (P := db.ProvidersAdvanced) (providersAdvanced_of_eq rfl) h

/-- In every step the providers change as providers do. -/
theorem RetirementStep.advanced (h : RetirementStep env s e s') : s.db.ProvidersAdvanced s'.db := by
  cases h with
  | read => exact providersAdvanced_of_eq rfl
  | imported => exact providersAdvanced_commit fun _ _ hrun => (perform_effect hrun).providersAdvanced
  | provisioning _ hstep =>
    cases hstep with
    | committed op => exact providersAdvanced_commit fun _ _ hrun => (perform_effect hrun).providersAdvanced
    | reordered hsame => exact providersAdvanced_of_eq (by rw [← hsame.rest])
  | administered op =>
    exact providersAdvanced_commit fun _ _ hrun => (AdminOperation.kept hrun).providersAdvanced
  | registered => exact providersAdvanced_commit fun _ _ hrun => providersAdvanced_createRecord hrun
  | updated => exact providersAdvanced_commit fun _ _ hrun => providersAdvanced_updateRecord hrun
  | retired => exact providersAdvanced_commit fun _ _ hrun => providersAdvanced_retire hrun
  | beside hkept =>
    obtain ⟨f, hrows, hcolumns⟩ := hkept.providers
    exact providersAdvanced_of_map (fun p => (hcolumns p).1) hrows
      fun p => .of_columns (hcolumns p).2.1 (hcolumns p).2.2

/-- A provider an import reads is active, as it is now. -/
theorem importProvider_ok {id : Uuid} {provider : VpsProvider} {db db' : Database}
    (h : (importProvider id).run db = .ok (provider, db')) :
    db.providers.find? id = some provider ∧ provider.isActive = true := by
  simp only [importProvider, get_bind_ok, orThrow_bind_ok, throwWhen_bind_ok, pure_ok,
    Option.filter_eq_some_iff] at h
  obtain ⟨found, hfound, -, h⟩ := h
  cases h
  exact hfound

/-- Every step keeps what the imports have read sound. -/
theorem RetirementStep.sound (hsound : s.Sound) (h : RetirementStep env s e s') : s'.Sound := by
  have hadvanced := h.advanced
  cases h with
  | read hrun =>
    intro read hread
    rcases List.mem_cons.mp hread with rfl | hold
    · obtain ⟨hprovider, hactive⟩ := importProvider_ok hrun
      refine ⟨_, hprovider, Nat.le_refl _, fun hinactive => ?_⟩
      rw [hactive] at hinactive
      cases hinactive
    · exact hsound read hold
  | imported | provisioning | administered | registered | updated | retired | beside =>
    exact hsound.advanced hadvanced rfl

/-- Every step leaves a provider that is switched off vacated, unless it switches it on. -/
theorem RetirementStep.vacated (hsound : s.Sound) (hvacated : s.db.Vacated v)
    (hquiet : e.reactivates v = false) (h : RetirementStep env s e s') : s'.db.Vacated v := by
  cases h with
  | read => exact hvacated
  | @imported data source hprepared =>
    refine hvacated.commit fun outcome db' hrun => hvacated.perform hrun fun data' hop => ?_
    obtain rfl : data' = data := by
      rcases hop with hop | ⟨source', hop⟩
      · cases hop
      · cases hop
        rfl
    rintro rfl
    -- what the import read is older than the revision the provider was switched off at
    obtain ⟨_, db₁, himported, -⟩ := bind_ok.mp hrun
    obtain ⟨provider, hprovider, hcurrent⟩ := importLinkedInstance_current himported
    obtain ⟨p, hp, -, hlt⟩ := hsound _ hprepared
    obtain rfl : provider = p := Option.some.inj (hprovider.symm.trans hp)
    exact absurd hcurrent (hlt (hvacated.not_active hprovider)).ne'
  | provisioning hown hstep =>
    cases hstep with
    | committed op =>
      refine hvacated.commit fun outcome db' hrun => hvacated.perform hrun fun data hop => ?_
      have hbrings := hown op rfl
      rcases hop with rfl | ⟨source, rfl⟩ <;> cases hbrings
    | reordered hsame =>
      refine ⟨?_, hvacated.unoccupied.of_within (fun i hi => ⟨i, hsame.instances.mem_iff.mpr hi, rfl⟩)
        fun r hr hopen => ⟨r, hsame.provisionings.mem_iff.mpr hr, hopen, rfl⟩⟩
      obtain ⟨p, hp, hinactive⟩ := hvacated.inactive
      refine ⟨p, ?_, hinactive⟩
      rw [← hsame.rest]
      exact hp
  | administered op =>
    exact hvacated.commit fun _ _ hrun => hvacated.administered (AdminOperation.kept hrun)
  | registered =>
    refine hvacated.commit fun provider db' hrun => ?_
    obtain ⟨-, providers, hinserted, rfl⟩ := createRecord_ok hrun
    obtain ⟨p, hp, hinactive⟩ := hvacated.inactive
    refine ⟨⟨p, ?_, hinactive⟩, hvacated.unoccupied⟩
    exact Table.find?_eq_some.mpr ⟨(Table.mem_insert? hinserted).mpr (Or.inl (Table.find?_eq_some.mp hp).1),
      (Table.find?_eq_some.mp hp).2⟩
  | updated now vpsId id dto policy =>
    refine hvacated.commit fun provider db' hrun => ?_
    obtain ⟨current, -, heq⟩ := updateRecord_ok hrun
    obtain rfl : db' = _ := heq
    refine ⟨?_, hvacated.unoccupied⟩
    obtain ⟨p, hp, hinactive⟩ := hvacated.inactive
    simp only [Database.updateProvider_providers, Table.find?_modify, hp, Option.map_some, decide_eq_true_eq]
    refine ⟨_, rfl, ?_⟩
    split
    · next hid =>
      have hv : p.id = v := (Table.find?_eq_some.mp hp).2
      have hnot : dto.isActive ≠ some true := by
        intro hon
        simp [RetirementEvent.reactivates, hon, ← hv, hid] at hquiet
      cases hdto : dto.isActive with
      | none => simpa [VpsProvider.edited, hdto] using hinactive
      | some active =>
        cases active with
        | true => exact absurd hdto hnot
        | false => simp [VpsProvider.edited, hdto]
    · exact hinactive
  | retired now id expectedRevision expectedInventoryRevision =>
    refine hvacated.commit fun report db' hrun => ?_
    obtain ⟨provider, -, ⟨-, rfl⟩ | ⟨-, -, rfl⟩⟩ := retire_ok hrun
    · exact hvacated
    · refine ⟨?_, hvacated.unoccupied⟩
      obtain ⟨p, hp, hinactive⟩ := hvacated.inactive
      simp only [Database.updateProvider_providers, Table.find?_modify, hp, Option.map_some,
        decide_eq_true_eq]
      refine ⟨_, rfl, ?_⟩
      split
      · rfl
      · exact hinactive
  | beside hkept =>
    obtain ⟨f, hrows, hcolumns⟩ := hkept.providers
    obtain ⟨p, hp, hinactive⟩ := hvacated.inactive
    refine ⟨⟨f p, ?_, (hcolumns p).2.1.trans hinactive⟩,
      hvacated.unoccupied.of_within hkept.instances fun r hr hopen =>
        ⟨r, hkept.provisionings ▸ hr, hopen, rfl⟩⟩
    rw [Table.find?_of_rows_map (fun p => (hcolumns p).1) hrows, hp, Option.map_some]

/-- A provider that a retirement switched off is vacated, and so is one it found switched off with nothing
on it. -/
theorem vacated_of_retire {db db' : Database} {expectedRevision expectedInventoryRevision : Nat}
    {report : RemovalReadiness}
    (h : (retire env now v expectedRevision expectedInventoryRevision).run db = .ok (report, db'))
    (hfound : (∃ p, db.providers.find? v = some p ∧ p.isActive = true) ∨ db.Unoccupied v) :
    db'.Vacated v := by
  obtain ⟨provider, hprovider, ⟨hinactive, rfl⟩ | ⟨-, hblockers, rfl⟩⟩ := retire_ok h
  · refine ⟨⟨provider, hprovider, hinactive⟩, ?_⟩
    rcases hfound with ⟨p, hp, hactive⟩ | hunoccupied
    · rw [Option.some.inj (hp.symm.trans hprovider), hinactive] at hactive
      cases hactive
    · exact hunoccupied
  · have hid : provider.id = v := (Table.find?_eq_some.mp hprovider).2
    have hunoccupied := unoccupied_of_removable hblockers
    rw [hid] at hunoccupied
    refine ⟨?_, hunoccupied⟩
    simp only [Database.updateProvider_providers, Table.find?_modify, hprovider, Option.map_some,
      decide_eq_true_eq, hid, if_true]
    exact ⟨_, rfl, rfl⟩

/-- Once a provider is retired, and until it is switched on again, no instance and no open creation is on it,
and no remote create is authorised there, unless the retirement found it switched off with some left. -/
theorem retired_stays_unoccupied {db db' : Database} {es fs : List RetirementEvent}
    {expectedRevision expectedInventoryRevision : Nat} {report : RemovalReadiness}
    (hbefore : Run (RetirementStep env) ⟨db, []⟩ es s)
    (hretired : (retire env now v expectedRevision expectedInventoryRevision).run s.db = .ok (report, db'))
    (hfound : (∃ p, s.db.providers.find? v = some p ∧ p.isActive = true) ∨ s.db.Unoccupied v)
    (hafter : Run (RetirementStep env) { s with db := db' } fs t)
    (hquiet : ∀ e ∈ fs, e.reactivates v = false) :
    t.db.Unoccupied v ∧ ∀ now execution (ticket : ProvisioningTicket) outcome, ticket.vpsProviderId = v →
      (markCreating env now execution ticket).run t.db ≠ .ok outcome := by
  have hsound : s.Sound :=
    hbefore.invariant (fun _ _ _ hsound hstep => hstep.sound hsound)
      fun _ hread => absurd hread List.not_mem_nil
  have hvacated := vacated_of_retire hretired hfound
  have hstart : ImportSystem.Sound { s with db := db' } :=
    hsound.advanced (providersAdvanced_retire hretired) rfl
  have hend := (hafter.restrict hquiet).invariant (I := fun s => s.Sound ∧ s.db.Vacated v)
    (fun _ _ _ h hstep => ⟨hstep.1.sound h.1, hstep.1.vacated h.1 h.2 hstep.2⟩) ⟨hstart, hvacated⟩
  exact ⟨hend.2.unoccupied, fun _ _ _ _ hticket => hend.2.markCreating hticket⟩

end System

/-- The small installation with a provider that no allocation policy depends on. -/
def smallUncontrolled : Database where
  products := ⟨[{ smallProduct with allocationMode := .legacy }], by decide⟩
  vpsServers := smallDatabase.vpsServers
  providers := ⟨[{ smallProvider with maxInstances := none }], by decide⟩
  links := smallDatabase.links

/-- A session that an import brings in there. -/
def smallImported : Instance where
  id := smallServer.id
  productId := smallProduct.id
  vpsProviderId := smallProvider.id
  instanceName := "alice"
  hubToken := "hub"
  updatedAt := 0

/-- The edit that switches the provider off. -/
def smallSwitchOff : UpdateVpsProviderDto where
  isActive := some false

/-- The system once the session was brought in and the provider switched off. -/
def smallSwitchedOff : ImportSystem where
  db := commit (updateRecord smallEnv 0 smallServer.id smallProvider.id smallSwitchOff none)
    (commit (perform smallEnv (.importLinked smallImported smallProvider.importSource)) smallUncontrolled)
  sources := [(smallProvider.id, smallProvider.importSource)]

/-- A retirement that finds the provider switched off only reports: the session brought in before is still on
it. -/
theorem retirement_reports_occupied :
    Run (RetirementStep smallEnv) ⟨smallUncontrolled, []⟩
        [.read smallProvider.id, .imported smallImported smallProvider.importSource,
          .updated 0 smallServer.id smallProvider.id smallSwitchOff none] smallSwitchedOff ∧
      (∃ report, (retire smallEnv 0 smallProvider.id 0 0).run smallSwitchedOff.db =
        .ok (report, smallSwitchedOff.db)) ∧
      ¬smallSwitchedOff.db.Unoccupied smallProvider.id := by
  have hread : (importProvider smallProvider.id).run smallUncontrolled =
      .ok ({ smallProvider with maxInstances := none }, smallUncontrolled) := rfl
  refine ⟨?_, ⟨_, rfl⟩, fun h => ?_⟩
  · exact Run.cons (.read hread) (Run.cons (.imported List.mem_cons_self) (Run.single (.updated _ _ _ _ _)))
  · have hleft : ∃ i ∈ smallSwitchedOff.db.instances.rows, i.vpsProviderId = smallProvider.id := by decide
    obtain ⟨i, hi, heq⟩ := hleft
    exact h.1 i hi heq

/-- The small installation with nothing on its provider. -/
def smallUnused : Database := { smallDatabase with links := ⟨[], by decide⟩ }

/-- The provider once it was retired. -/
def smallRetired : Database := commit (retire smallEnv 0 smallProvider.id 0 0) smallUnused

/-- An import that read the provider before it was retired brings nothing in there afterwards, and a creation
is not admitted. -/
theorem retired_stays_unoccupied_small :
    (commit (perform smallEnv smallPrepare)
      (commit (perform smallEnv (.importLinked smallImported smallProvider.importSource))
        smallRetired)).Unoccupied smallProvider.id := by
  have hread : (importProvider smallProvider.id).run smallUnused = .ok (smallProvider, smallUnused) := rfl
  have hafter : Run (RetirementStep smallEnv) ⟨smallRetired, [(smallProvider.id, smallProvider.importSource)]⟩
      [.imported smallImported smallProvider.importSource, .provisioning (.committed smallPrepare)] _ :=
    Run.cons (.imported List.mem_cons_self) (Run.single (.provisioning (fun op h => by cases h; rfl)
      (.committed smallPrepare)))
  have hretired : ∃ report, (retire smallEnv 0 smallProvider.id 0 0).run smallUnused =
      .ok (report, smallRetired) := ⟨_, rfl⟩
  obtain ⟨report, hretired⟩ := hretired
  exact (retired_stays_unoccupied (Run.single (.read hread)) hretired (Or.inl ⟨smallProvider, rfl, rfl⟩)
    hafter (by decide)).1

end ConnectHub
