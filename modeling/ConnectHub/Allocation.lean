import ConnectHub.ProvisioningRuns

/-!
# The allocation panel

What the administration shows of a product's allocation: each link with the codes of what keeps it
from taking a creation, and whether the product is ready. The panel restates the conditions of
admission from the readiness report; the two agree.
-/

namespace ConnectHub

open Store

/-- A link as the panel shows it. -/
structure AllocationEntry where
  vpsProviderId : Uuid
  allocationPriority : Nat
  acceptingNewInstances : Bool
  configurationRevision : Nat
  eligible : Bool
  blockers : List BlockerCode
  maxInstances : Option Nat
deriving DecidableEq, Repr

/-- The allocation of a product as the panel shows it. -/
structure AllocationView where
  mode : AllocationMode
  configurationRevision : Nat
  defaultProviderId : Option Uuid
  capacityFirstAllocationAt : Option Instant
  distributionEnabled : Bool
  databaseConsolidated : Bool
  requiresWriterConfirmation : Bool
  blockers : List BlockerCode
  order : List AllocationEntry
  ready : Bool
deriving DecidableEq, Repr

/-- What keeps a link from taking a creation: the readiness report of its provider, then what the
link, the provider's own switch, the adapters and the count say. -/
def Database.linkBlockers (db : Database) (env : Env) (now : Instant) (product : Product)
    (link : ProductEvolution) (provider : VpsProvider) : List BlockerCode :=
  let report := db.evolutionReadiness env now provider product.hubRelay
  report.1 ++
  (if link.acceptingNewInstances then [] else [BlockerCode.linkPaused]) ++
  (if provider.acceptingNewInstances then [] else [BlockerCode.providerPaused]) ++
  (if provider.adapterType ≠ product.adapterType then [BlockerCode.adapterMismatch] else []) ++
  (if provider.maxInstances.any (fun maxInstances => decide (report.2.effective ≥ maxInstances)) then
    [BlockerCode.capacityFull] else [])

/-- A link as the panel shows it. -/
def Database.allocationEntry (db : Database) (env : Env) (now : Instant) (product : Product)
    (link : ProductEvolution) (provider : VpsProvider) : AllocationEntry :=
  let blockers := db.linkBlockers env now product link provider
  { vpsProviderId := provider.id
    allocationPriority := link.allocationPriority
    acceptingNewInstances := link.acceptingNewInstances
    configurationRevision := link.configurationRevision
    eligible := blockers.isEmpty
    blockers := blockers
    maxInstances := provider.maxInstances }

/-- The links of a product, in the order of allocation. -/
def Database.linksOf (db : Database) (productId : Uuid) : List ProductEvolution :=
  (db.links.rows.filter fun l => l.productId = productId).insertionSort fun a b => allocationOrder a b = true

/-- The links of a product as the panel shows them, each with its provider. -/
def Database.allocationEntries (db : Database) (env : Env) (now : Instant) (product : Product) :
    List AllocationEntry :=
  (db.linksOf product.id).filterMap fun link =>
    (db.providers.find? link.vpsProviderId).map (db.allocationEntry env now product link)

/-- What keeps a product from taking a creation. -/
def Database.productBlockers (db : Database) (env : Env) (product : Product) (order : List AllocationEntry) :
    List BlockerCode :=
  (if env.config.evolutionAllocationEnabled then [] else [BlockerCode.allocationDisabled]) ++
  (if db.baseConsolidated then [] else [BlockerCode.databaseNotConsolidated]) ++
  (if product.isActive then [] else [BlockerCode.productInactive]) ++
  (if order.any (·.eligible) then [] else [BlockerCode.noEligibleEvolution])

/-- The allocation of a product as the tables stand. -/
def Database.allocationOf (db : Database) (env : Env) (now : Instant) (product : Product) : AllocationView :=
  let order := db.allocationEntries env now product
  let blockers := db.productBlockers env product order
  { mode := product.allocationMode
    configurationRevision := product.allocationRevision
    defaultProviderId := product.vpsProviderId
    capacityFirstAllocationAt := product.capacityFirstAllocationAt
    distributionEnabled := env.config.evolutionAllocationEnabled
    databaseConsolidated := db.baseConsolidated
    requiresWriterConfirmation := db.writerConfirmation.isNone
    blockers := blockers
    order := order
    ready := blockers.isEmpty }

/-- The allocation of a product; the request fails on a link whose provider does not exist. -/
def allocationView (env : Env) (now : Instant) (product : Product) : Tx AllocationView := do
  let db ← get
  throwWhen ((db.linksOf product.id).any (fun link => (db.providers.find? link.vpsProviderId).isNone) = true)
    (.notFound "Evolution não encontrada")
  pure (db.allocationOf env now product)

/-- Every open creation carries its own link, as the schema's check constraint demands. -/
def Database.LinksOwned (db : Database) : Prop :=
  ∀ r ∈ db.provisionings, r.isOpen = true → r.linkMismatch = false

/-- A code that is reported under a condition is left out exactly when the condition fails. -/
theorem reportedWhen_eq_nil {c : Prop} [Decidable c] {code : BlockerCode} :
    (if c then [code] else []) = [] ↔ ¬c := by
  split <;> simp [*]

/-- A code that is reported unless a condition holds is left out exactly when it holds. -/
theorem reportedUnless_eq_nil {c : Prop} [Decidable c] {code : BlockerCode} :
    (if c then [] else [code]) = [] ↔ c := by
  split <;> simp [*]

section Readiness

variable {env : Env} {now : Instant} {db : Database} {provider : VpsProvider} {product : Product}
  {link : ProductEvolution}

/-- The two notions of freshness agree on a ready inventory. -/
theorem isFresh_iff : isFresh env now provider = true ↔
    healthUnconfirmed env now provider = false ∧ provider.inventoryStatus = .ready ∧
      inventoryFresh provider env.config.evolutionInventoryMaxAgeMs now = true := by
  unfold isFresh healthUnconfirmed inventoryFresh
  cases provider.lastHealthAt <;> cases provider.inventoryObservedAt <;> cases provider.inventoryStatus <;>
    simp [and_assoc]

/-- The readiness report of a provider is empty exactly when it has nothing to report. -/
theorem evolutionReadiness_eq_nil {relay : Bool} :
    (db.evolutionReadiness env now provider relay).1 = [] ↔
      identityUnverified env provider = false ∧
      db.endpointAliases env provider.providerUrl (some provider.id) = [] ∧
      provider.isActive = true ∧ db.vpsActive provider = true ∧ isFresh env now provider = true ∧
      (relay = true → provider.callbackReadiness = .ready) ∧
      (db.readOccupancy provider.id).ambiguous = false ∧
      (db.reservationsOf provider.id).any (·.linkMismatch) = false := by
  have hreservations : (db.readOccupancy provider.id).reservations = db.reservationsOf provider.id := rfl
  simp only [Database.evolutionReadiness, List.append_eq_nil_iff, reportedWhen_eq_nil, isFresh_iff,
    hreservations, Bool.not_eq_true, Bool.not_eq_false, Bool.and_eq_true, Bool.or_eq_true, not_and, not_or,
    List.isEmpty_iff, decide_eq_true_eq, ne_eq, not_not, Bool.not_eq_eq_eq_not, Bool.not_true, and_assoc]

/-- Open creations that carry their own links are reported for no provider. -/
theorem linkMismatch_any_eq_false (howned : db.LinksOwned) (providerId : Uuid) :
    (db.reservationsOf providerId).any (·.linkMismatch) = false := by
  rw [List.any_eq_false]
  intro r hr
  simp only [Database.reservationsOf, List.mem_filter, Bool.and_eq_true] at hr
  simpa using howned r hr.1 hr.2.2

/-- A link of a product under the capacity policy has nothing to report exactly when its provider
admits a creation. -/
theorem linkBlockers_eq_nil (howned : db.LinksOwned) (hactive : product.isActive = true)
    (hmode : product.allocationMode = .capacity) (henabled : env.config.evolutionAllocationEnabled = true)
    (hlink : link ∈ db.links) (hproduct : link.productId = product.id)
    (hprovider : link.vpsProviderId = provider.id) :
    db.linkBlockers env now product link provider = [] ↔ Admits env now db product provider false := by
  have hfound : db.links.find? (product.id, provider.id) = some link := by
    rw [Table.find?_eq_some]
    exact ⟨hlink, Prod.ext hproduct hprovider⟩
  have hused : (db.evolutionReadiness env now provider product.hubRelay).2 = db.readOccupancy provider.id :=
    rfl
  simp only [Database.linkBlockers, List.append_eq_nil_iff, evolutionReadiness_eq_nil, reportedWhen_eq_nil,
    reportedUnless_eq_nil, hused,
    linkMismatch_any_eq_false howned, ne_eq, not_not, Bool.not_eq_true, and_true]
  constructor
  · rintro ⟨⟨⟨⟨⟨hidentity, halone, hprovActive, hvps, hfresh, hcall, hunambiguous⟩, hlinkOn⟩, hprovOn⟩,
      hadapter⟩, hroom⟩
    refine ⟨hactive, fun hne => absurd hmode hne, fun _ => henabled, hprovActive, hadapter, hprovOn, ?_,
      fun _ => ⟨hidentity, halone, hvps, hfresh, fun _ => hcall, hunambiguous, fun m hm => ?_⟩⟩
    · simpa [hfound] using hlinkOn
    · simp only [hm, Option.any_some, decide_eq_false_iff_not] at hroom
      simp only [Bool.false_eq_true, if_false]
      omega
  · intro h
    have hcontrolled := h.controlled (Or.inl hmode)
    refine ⟨⟨⟨⟨⟨hcontrolled.identity, hcontrolled.alone, h.providerActive, hcontrolled.vps, hcontrolled.fresh,
      hcontrolled.callback hmode, hcontrolled.unambiguous⟩, ?_⟩, h.providerAccepts⟩, h.adapter⟩, ?_⟩
    · simpa [hfound] using h.linkAccepts
    · cases hm : provider.maxInstances with
      | none => rfl
      | some m =>
        have hroom := hcontrolled.room m hm
        simp only [Bool.false_eq_true, if_false] at hroom
        simp only [Option.any_some, decide_eq_false_iff_not]
        omega

/-- A link is among those of its product. -/
theorem mem_linksOf {productId : Uuid} : link ∈ db.linksOf productId ↔
    link ∈ db.links ∧ link.productId = productId := by
  unfold Database.linksOf
  rw [List.mem_insertionSort, List.mem_filter, decide_eq_true_eq]
  rfl

/-- The entries of the panel are those of the product's links. -/
theorem mem_allocationEntries {entry : AllocationEntry} : entry ∈ db.allocationEntries env now product ↔
    ∃ link ∈ db.links, link.productId = product.id ∧ ∃ provider,
      db.providers.find? link.vpsProviderId = some provider ∧
        db.allocationEntry env now product link provider = entry := by
  simp only [Database.allocationEntries, List.mem_filterMap, mem_linksOf, Option.map_eq_some_iff, and_assoc]

/-- The panel is shown exactly when the providers of the product's links exist. -/
theorem allocationView_ok {r : AllocationView × Database} : (allocationView env now product).run db = .ok r ↔
    (∀ link ∈ db.links, link.productId = product.id → db.providers.find? link.vpsProviderId ≠ none) ∧
      r = (db.allocationOf env now product, db) := by
  simp only [allocationView, get_bind_ok, throwWhen_bind_ok, pure_ok, List.any_eq_true, mem_linksOf,
    Option.isNone_iff_eq_none, not_exists, not_and, and_imp, ne_eq]

end Readiness

/-- A provider admits one more creation of a product. -/
def Database.AdmitsNew (db : Database) (env : Env) (now : Instant) (productId providerId : Uuid) : Prop :=
  ∃ admitted, (admission env now productId providerId false).run db = .ok admitted

/-- Under the capacity policy admission succeeds exactly under its conditions. -/
theorem admitsNew_iff {env : Env} {now : Instant} {db : Database} {product : Product} {provider : VpsProvider}
    (hproduct : product ∈ db.products) (hmode : product.allocationMode = .capacity)
    (hprovider : provider ∈ db.providers) :
    db.AdmitsNew env now product.id provider.id ↔ Admits env now db product provider false := by
  have hbase : db.admissionBase product provider.id = db := by
    unfold Database.admissionBase
    rw [if_neg (not_not.mpr hmode)]
  simp only [Database.AdmitsNew, admission_ok]
  constructor
  · rintro ⟨_, product', provider', hproduct', hprovider', hadmits, -⟩
    obtain rfl : product = product' := Option.some.inj ((Table.find?_key hproduct).symm.trans hproduct')
    obtain rfl : provider = provider' := Option.some.inj ((Table.find?_key hprovider).symm.trans hprovider')
    rwa [hbase] at hadmits
  · intro hadmits
    exact ⟨_, product, provider, Table.find?_key hproduct, Table.find?_key hprovider,
      hbase.symm ▸ hadmits, rfl⟩

/-- For an active product under the capacity policy the panel and admission agree: a link is shown as
eligible exactly when its provider admits one more creation, a ready product has such a provider, and
a provider shown as blocked admits none. -/
theorem eligible_iff_admitsNew {env : Env} {now : Instant} {db : Database} {product : Product}
    (hproduct : product ∈ db.products) (hactive : product.isActive = true)
    (hmode : product.allocationMode = .capacity) (henabled : env.config.evolutionAllocationEnabled = true)
    (howned : db.LinksOwned) :
    ((∀ link ∈ db.links, link.productId = product.id → db.providers.find? link.vpsProviderId ≠ none) →
      ∃ view, (allocationView env now product).run db = .ok (view, db)) ∧
    ∀ view db', (allocationView env now product).run db = .ok (view, db') →
      (∀ link ∈ db.links, link.productId = product.id → ∃ entry ∈ view.order,
        entry.vpsProviderId = link.vpsProviderId ∧
          (entry.eligible = true ↔ db.AdmitsNew env now product.id link.vpsProviderId)) ∧
      (∀ entry ∈ view.order, (entry.eligible = true ↔ entry.blockers = []) ∧
        (entry.eligible = true ↔ db.AdmitsNew env now product.id entry.vpsProviderId)) ∧
      (view.ready = true → ∃ entry ∈ view.order, db.AdmitsNew env now product.id entry.vpsProviderId) ∧
      (∀ entry ∈ view.order, entry.blockers ≠ [] → ¬db.AdmitsNew env now product.id entry.vpsProviderId) := by
  refine ⟨fun hforeign => ⟨_, allocationView_ok.mpr ⟨hforeign, rfl⟩⟩, fun view db' hview => ?_⟩
  obtain ⟨hforeign, heq⟩ := allocationView_ok.mp hview
  cases heq
  have hentry : ∀ entry ∈ db.allocationEntries env now product,
      (entry.eligible = true ↔ entry.blockers = []) ∧
      (entry.eligible = true ↔ db.AdmitsNew env now product.id entry.vpsProviderId) := by
    intro entry hmem
    obtain ⟨link, hlink, hlinkProduct, provider, hprovider, rfl⟩ := mem_allocationEntries.mp hmem
    obtain ⟨hprovMem, hprovId⟩ := Table.find?_eq_some.mp hprovider
    have heligible : (db.allocationEntry env now product link provider).eligible = true ↔
        (db.allocationEntry env now product link provider).blockers = [] := List.isEmpty_iff
    refine ⟨heligible, heligible.trans ?_⟩
    exact (linkBlockers_eq_nil howned hactive hmode henabled hlink hlinkProduct hprovId.symm).trans
      (admitsNew_iff hproduct hmode hprovMem).symm
  refine ⟨fun link hlink hlinkProduct => ?_, hentry, fun hready => ?_, fun entry hmem hblocked hadmits => ?_⟩
  · obtain ⟨provider, hprovider⟩ := Option.ne_none_iff_exists'.mp (hforeign link hlink hlinkProduct)
    have hmem : db.allocationEntry env now product link provider ∈ db.allocationEntries env now product :=
      mem_allocationEntries.mpr ⟨link, hlink, hlinkProduct, provider, hprovider, rfl⟩
    have hid : provider.id = link.vpsProviderId := (Table.find?_eq_some.mp hprovider).2
    exact ⟨_, hmem, hid, hid ▸ (hentry _ hmem).2⟩
  · simp only [Database.allocationOf, Database.productBlockers, List.isEmpty_iff, List.append_eq_nil_iff,
      reportedUnless_eq_nil, List.any_eq_true] at hready
    obtain ⟨entry, hmem, heligible⟩ := hready.2
    exact ⟨entry, hmem, (hentry entry hmem).2.mp heligible⟩
  · exact hblocked ((hentry entry hmem).1.mp ((hentry entry hmem).2.mpr hadmits))

/-- In the small installation the product is shown as ready, and its provider admits a creation. -/
theorem eligible_iff_admitsNew_small :
    (smallDatabase.allocationOf smallEnv 0 smallProduct).order.map (·.eligible) = [true] ∧
      smallDatabase.AdmitsNew smallEnv 0 smallProduct.id smallProvider.id := by
  have howned : smallDatabase.LinksOwned := fun r hr => absurd hr List.not_mem_nil
  have hagree := (@eligible_iff_admitsNew smallEnv 0 _ _ (List.mem_singleton_self smallProduct) rfl rfl rfl
    howned).2 _ _ (allocationView_ok.mpr ⟨by decide, rfl⟩)
  obtain ⟨entry, hmem, hid, heligible⟩ := hagree.1 _ (List.mem_singleton_self _) rfl
  have htrue : ∀ e ∈ (smallDatabase.allocationOf smallEnv 0 smallProduct).order, e.eligible = true := by
    decide
  exact ⟨by decide, heligible.mp (htrue entry hmem)⟩

end ConnectHub
