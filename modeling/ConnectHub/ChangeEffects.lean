import ConnectHub.Changes

/-!
# What a draft leaves behind

An evaluation judges a draft on copies: links merged in memory, providers with their limit and identity
overridden. Applying the draft writes rows one after the other. Both leave the same links open and the
same providers behind, but for their revisions.
-/

namespace ConnectHub

open Store

/-- The provider without its revision, which no check reads. -/
def VpsProvider.unversioned (provider : VpsProvider) : VpsProvider :=
  { provider with configurationRevision := 0 }

/-- The provider once the limits and identities of a draft are written. -/
def VpsProvider.drafted (env : Env) (draft : EvolutionChangeInput) (provider : VpsProvider) : VpsProvider :=
  draft.identities.foldl (fun p identity => if p.id = identity.vpsProviderId then p.certified env else p)
    (draft.providerUpdates.foldl
      (fun p update => if p.id = update.vpsProviderId then p.limited update.maxInstances else p) provider)

/-- Links in the database and in memory that are open on the same providers. -/
def LinksAgree (productId : Uuid) (links : Table ProductEvolution) (snapshots : List LinkSnapshot) : Prop :=
  ∀ v accepting, (∃ l ∈ snapshots, l.vpsProviderId = v ∧ l.acceptingNewInstances = accepting) ↔
    ∃ l ∈ links, l.productId = productId ∧ l.vpsProviderId = v ∧ l.acceptingNewInstances = accepting

section Providers

variable {env : Env} {draft : EvolutionChangeInput}

/-- Updates of providers, one after the other, change the provider table alone, and each of its rows
by the updates under its id. -/
theorem foldl_updateProvider {α : Type} (key : α → Uuid) (f : α → VpsProvider → VpsProvider)
    (hf : ∀ a p, (f a p).id = p.id) (items : List α) (db : Database) :
    ∃ providers, items.foldl (fun db a => db.updateProvider (key a) (f a) (hf a)) db =
        { db with providers := providers } ∧
      providers.rows = db.providers.rows.map fun p =>
        items.foldl (fun p a => if p.id = key a then f a p else p) p := by
  induction items generalizing db with
  | nil => exact ⟨db.providers, rfl, (List.map_id' _).symm⟩
  | cons a items ih =>
    obtain ⟨providers, heq, hrows⟩ := ih (db.updateProvider (key a) (f a) (hf a))
    refine ⟨providers, heq, hrows.trans ?_⟩
    change (List.map _ db.providers.rows).map _ = _
    rw [List.map_map]
    refine List.map_congr_left fun p _ => ?_
    simp only [Function.comp_apply, decide_eq_true_eq, List.foldl_cons]

/-- A column that updates keep is kept by all of them, one after the other. -/
theorem foldl_update_column {α β : Type} (column : VpsProvider → β) (key : α → Uuid)
    (f : α → VpsProvider → VpsProvider) (hf : ∀ a p, column (f a p) = column p) (items : List α)
    (p : VpsProvider) :
    column (items.foldl (fun p a => if p.id = key a then f a p else p) p) = column p := by
  induction items generalizing p with
  | nil => rfl
  | cons a items ih =>
    rw [List.foldl_cons, ih]
    split
    · exact hf a p
    · rfl

/-- Setting limits, one after the other, sets the one named for a provider, if it is named once. -/
theorem foldl_limited (updates : List DraftProviderUpdate) (hnodup : (updates.map (·.vpsProviderId)).Nodup)
    (provider : VpsProvider) :
    (updates.foldl (fun p update => if p.id = update.vpsProviderId then p.limited update.maxInstances else p)
      provider).unversioned =
      match updates.find? fun item => item.vpsProviderId = provider.id with
      | some update => { provider with maxInstances := update.maxInstances }.unversioned
      | none => provider.unversioned := by
  induction updates generalizing provider with
  | nil => rfl
  | cons update updates ih =>
    rw [List.map_cons, List.nodup_cons] at hnodup
    rw [List.foldl_cons]
    by_cases hid : provider.id = update.vpsProviderId
    · -- the first update is the provider's, and no later one is
      have hrest : updates.find? (fun item => item.vpsProviderId = provider.id) = none := by
        rw [List.find?_eq_none]
        intro item hitem heq
        exact hnodup.1 (hid ▸ of_decide_eq_true heq ▸ List.mem_map_of_mem hitem)
      rw [if_pos hid, ih hnodup.2, List.find?_cons_of_pos (by simp [hid])]
      change (match updates.find? (fun item => item.vpsProviderId = provider.id) with
        | some update => _
        | none => _) = _
      rw [hrest]
      rfl
    · rw [if_neg hid, ih hnodup.2, List.find?_cons_of_neg (by simp [Ne.symm hid])]

/-- Certifying identities, one after the other, confirms the provider if it is among them. -/
theorem foldl_certified (identities : List DraftIdentity) (provider : VpsProvider) :
    (identities.foldl (fun p identity => if p.id = identity.vpsProviderId then p.certified env else p)
      provider).unversioned =
      (if identities.any (fun item => item.vpsProviderId = provider.id) then provider.confirmed env
        else provider).unversioned := by
  induction identities generalizing provider with
  | nil => rfl
  | cons identity identities ih =>
    rw [List.foldl_cons, ih]
    by_cases hid : provider.id = identity.vpsProviderId
    · have hany : (identity :: identities).any (fun item => item.vpsProviderId = provider.id) = true := by
        simp [hid]
      rw [if_pos hid, if_pos hany]
      split <;> rfl
    · have hany : (identity :: identities).any (fun item => item.vpsProviderId = provider.id) =
          identities.any fun item => item.vpsProviderId = provider.id := by
        simp [Ne.symm hid]
      rw [if_neg hid, hany]

/-- Providers that differ in their revision alone still do once confirmed. -/
theorem unversioned_confirmed {p q : VpsProvider} (h : p.unversioned = q.unversioned) :
    (p.confirmed env).unversioned = (q.confirmed env).unversioned := by
  have hconfirmed := congrArg (fun r : VpsProvider => (r.confirmed env).unversioned) h
  exact hconfirmed

/-- A provider after a draft is the one the evaluation judged, but for its revision. -/
theorem unversioned_drafted (hnodup : (draft.providerUpdates.map (·.vpsProviderId)).Nodup)
    (provider : VpsProvider) :
    (provider.drafted env draft).unversioned = (provider.prospective env draft).unversioned := by
  have hlimited := foldl_limited draft.providerUpdates hnodup provider
  have hid := foldl_update_column (·.id) (·.vpsProviderId) (fun update p => p.limited update.maxInstances)
    (fun _ _ => rfl) draft.providerUpdates provider
  unfold VpsProvider.drafted VpsProvider.prospective VpsProvider.identified EvolutionChangeInput.confirms
  rw [foldl_certified, hid]
  cases hfind : draft.providerUpdates.find? fun item => item.vpsProviderId = provider.id with
  | none =>
    rw [hfind] at hlimited
    dsimp only
    split
    · exact unversioned_confirmed hlimited
    · exact hlimited
  | some update =>
    rw [hfind] at hlimited
    dsimp only
    split
    · exact unversioned_confirmed hlimited
    · exact hlimited

/-- A column that neither a limit nor a certification writes survives the draft. -/
theorem drafted_column {β : Type} (column : VpsProvider → β)
    (hlimited : ∀ (maxInstances : Option Nat) (p : VpsProvider), column (p.limited maxInstances) = column p)
    (hcertified : ∀ p : VpsProvider, column (p.certified env) = column p) (provider : VpsProvider) :
    column (provider.drafted env draft) = column provider := by
  unfold VpsProvider.drafted
  exact (foldl_update_column column (fun identity : DraftIdentity => identity.vpsProviderId)
    (fun _ p => p.certified env) (fun _ p => hcertified p) _ _).trans
    (foldl_update_column column (fun update : DraftProviderUpdate => update.vpsProviderId)
      (fun update p => p.limited update.maxInstances) (fun update p => hlimited update.maxInstances p) _ _)

end Providers

section Links

variable {productId : Uuid} {links : Table ProductEvolution}
  {snapshots : List LinkSnapshot} {item : DraftLink}

/-- The links read from the database agree with it. -/
theorem linksAgree_linkSnapshots (db : Database) (productId : Uuid) :
    LinksAgree productId db.links (db.linkSnapshots productId) := by
  intro v accepting
  simp only [Database.linkSnapshots, List.mem_insertionSort, List.mem_map, List.mem_filter, decide_eq_true_eq]
  constructor
  · rintro ⟨_, ⟨l, ⟨hl, hproduct⟩, rfl⟩, hv, haccepting⟩
    exact ⟨l, hl, hproduct, hv, haccepting⟩
  · rintro ⟨l, hl, hproduct, hv, haccepting⟩
    exact ⟨_, ⟨l, ⟨hl, hproduct⟩, rfl⟩, hv, haccepting⟩

/-- Writing one link of a draft agrees with merging it in memory. -/
theorem LinksAgree.upsertLink {db : Database} (h : LinksAgree productId db.links snapshots)
    (item : DraftLink) :
    LinksAgree productId (db.upsertLink productId item).links (mergeLink snapshots item) := by
  have hany : snapshots.any (fun link => link.vpsProviderId = item.vpsProviderId) = true ↔
      ∃ l ∈ db.links, l.productId = productId ∧ l.vpsProviderId = item.vpsProviderId := by
    rw [List.any_eq_true]
    constructor
    · rintro ⟨link, hlink, hid⟩
      obtain ⟨l, hl, hproduct, hv, -⟩ := (h item.vpsProviderId _).mp ⟨link, hlink, of_decide_eq_true hid, rfl⟩
      exact ⟨l, hl, hproduct, hv⟩
    · rintro ⟨l, hl, hproduct, hv⟩
      obtain ⟨link, hlink, hid, -⟩ := (h item.vpsProviderId _).mpr ⟨l, hl, hproduct, hv, rfl⟩
      exact ⟨link, hlink, decide_eq_true hid⟩
  unfold Database.upsertLink mergeLink
  split
  · next links hinserted =>
    -- no link had the key, so none is merged with it
    have hnone : ¬snapshots.any (fun link => link.vpsProviderId = item.vpsProviderId) = true := by
      rw [hany]
      rintro ⟨l, hl, hproduct, hv⟩
      exact (Table.insert?_eq_some hinserted).1 l hl (Prod.ext hproduct hv)
    rw [if_neg hnone]
    intro v accepting
    simp only [List.mem_append, List.mem_singleton, Table.mem_insert? hinserted, or_and_right, exists_or,
      exists_eq_left]
    exact or_congr (h v accepting) (by simp [LinkSnapshot.edited])
  · next hfailed =>
    obtain ⟨taken, htaken, hkey⟩ := Table.insert?_eq_none hfailed
    rw [if_pos (hany.mpr ⟨taken, htaken, congrArg Prod.fst hkey, congrArg Prod.snd hkey⟩)]
    intro v accepting
    simp only [Table.exists_mem_modify, List.mem_map, exists_exists_and_eq_and]
    constructor
    · rintro ⟨link, hlink, hv, haccepting⟩
      obtain ⟨l, hl, hproduct, hlv, hla⟩ := (h link.vpsProviderId _).mp ⟨link, hlink, rfl, rfl⟩
      refine ⟨l, hl, ?_⟩
      by_cases hid : link.vpsProviderId = item.vpsProviderId
      · rw [if_pos hid] at hv haccepting
        rw [if_pos (by simp [hproduct, hlv, hid])]
        exact ⟨hproduct, hlv.trans hv, (congrArg (item.acceptingNewInstances.getD ·) hla).trans haccepting⟩
      · rw [if_neg hid] at hv haccepting
        rw [if_neg (by simp [hlv, hid])]
        exact ⟨hproduct, hlv.trans hv, hla.trans haccepting⟩
    · rintro ⟨l, hl, hproduct, hv, haccepting⟩
      by_cases hid : l.productId = productId ∧ l.vpsProviderId = item.vpsProviderId
      · rw [if_pos (by simp [hid])] at hv haccepting
        obtain ⟨link, hlink, hlv, hla⟩ := (h l.vpsProviderId _).mpr ⟨l, hl, hid.1, rfl, rfl⟩
        refine ⟨link, hlink, ?_⟩
        rw [if_pos (hlv.trans hid.2)]
        exact ⟨hlv.trans hv, (congrArg (item.acceptingNewInstances.getD ·) hla).trans haccepting⟩
      · have hfalse :
            ¬(decide (l.productId = productId) && decide (l.vpsProviderId = item.vpsProviderId)) = true := by
          simpa using hid
        rw [if_neg hfalse] at hproduct hv haccepting
        obtain ⟨link, hlink, hlv, hla⟩ := (h v accepting).mpr ⟨l, hl, hproduct, hv, haccepting⟩
        refine ⟨link, hlink, ?_⟩
        rw [if_neg fun heq => hid ⟨hproduct, hv.trans (hlv.symm.trans heq)⟩]
        exact ⟨hlv, hla⟩

/-- Writing the links of a draft changes the link table alone, and agrees with merging them in memory. -/
theorem LinksAgree.foldl_upsertLink {db : Database} (h : LinksAgree productId db.links snapshots)
    (items : List DraftLink) :
    ∃ links, items.foldl (fun db item => db.upsertLink productId item) db = { db with links := links } ∧
      LinksAgree productId links (items.foldl mergeLink snapshots) := by
  induction items generalizing db snapshots with
  | nil => exact ⟨db.links, rfl, h⟩
  | cons item items ih =>
    obtain ⟨links, heq, hagree⟩ := ih (h.upsertLink item)
    refine ⟨links, ?_, hagree⟩
    rw [List.foldl_cons, heq]
    unfold Database.upsertLink
    split <;> rfl

/-- Opening one link alone agrees with opening it alone in memory. -/
theorem LinksAgree.selectOnly {db : Database} (h : LinksAgree productId db.links snapshots)
    (targetId : Uuid) :
    LinksAgree productId (db.selectOnly productId targetId).links
      (snapshots.map fun link =>
        { link with acceptingNewInstances := some targetId = some link.vpsProviderId }) := by
  -- a link of the product ends open exactly when it is the target's
  have hrow : ∀ l : ProductEvolution, l.productId = productId →
      (fun l : ProductEvolution => if (l.productId = productId && l.vpsProviderId = targetId) = true
        then l.switched true else l) (if (l.productId = productId && l.vpsProviderId ≠ targetId) = true
        then l.switched false else l) = l.switched (l.vpsProviderId = targetId) := by
    intro l hl
    by_cases htarget : l.vpsProviderId = targetId
    · simp [hl, htarget]
    · simp [hl, htarget, ProductEvolution.switched]
  intro v accepting
  simp only [Database.selectOnly, Table.exists_mem_modify, List.mem_map, exists_exists_and_eq_and]
  constructor
  · rintro ⟨link, hlink, hv, haccepting⟩
    obtain ⟨l, hl, hproduct, hlv, -⟩ := (h link.vpsProviderId _).mp ⟨link, hlink, rfl, rfl⟩
    refine ⟨l, hl, ?_⟩
    have hswitched := hrow l hproduct
    dsimp only at hswitched
    rw [hswitched]
    refine ⟨hproduct, hlv.trans hv, ?_⟩
    rw [← haccepting, ← hlv]
    simp [ProductEvolution.switched, eq_comm]
  · rintro ⟨l, hl, hproduct, hv, haccepting⟩
    have hproduct' : l.productId = productId := by
      split at hproduct <;> split at hproduct <;> exact hproduct
    have hswitched := hrow l hproduct'
    dsimp only at hswitched
    rw [hswitched] at hv haccepting
    obtain ⟨link, hlink, hlv, -⟩ := (h l.vpsProviderId _).mpr ⟨l, hl, hproduct', rfl, rfl⟩
    refine ⟨link, hlink, hlv.trans hv, ?_⟩
    rw [← haccepting, hlv]
    simp [ProductEvolution.switched, eq_comm]

end Links

/-- A database in which a draft for the capacity policy was written. -/
structure Drafted (env : Env) (db : Database) (product : Product) (draft : EvolutionChangeInput)
    (db' : Database) : Prop where
  providers : db'.providers.rows = db.providers.rows.map (·.drafted env draft)
  links : LinksAgree product.id db'.links (prospectiveLinks draft (db.changeSnapshot product draft))
  products : db'.products = (db.updateProduct product.id (·.reallocated draft)).products
  vpsServers : db'.vpsServers = db.vpsServers
  inventory : db'.inventory = db.inventory
  instances : db'.instances = db.instances
  provisionings : db'.provisionings = db.provisionings
  reconciliations : db'.reconciliations = db.reconciliations

section Effects

variable {env : Env} {now : Instant} {db db' : Database} {product : Product} {draft : EvolutionChangeInput}

/-- Writing the limits, identities and links of a draft changes two tables. -/
theorem applyDraft_eq (env : Env) (db : Database) (productId : Uuid) (draft : EvolutionChangeInput) :
    ∃ providers links,
      db.applyDraft env productId draft = { db with providers := providers, links := links } ∧
      providers.rows = db.providers.rows.map (·.drafted env draft) ∧
      LinksAgree productId links (draft.links.foldl mergeLink (db.linkSnapshots productId)) := by
  obtain ⟨limited, hlimited, hrows⟩ := foldl_updateProvider
    (fun update : DraftProviderUpdate => update.vpsProviderId)
    (fun update p => p.limited update.maxInstances) (fun _ _ => rfl) draft.providerUpdates db
  obtain ⟨certified, hcertified, hrows'⟩ := foldl_updateProvider
    (fun identity : DraftIdentity => identity.vpsProviderId) (fun _ p => p.certified env) (fun _ _ => rfl)
    draft.identities { db with providers := limited }
  obtain ⟨links, hlinks, hagree⟩ := @LinksAgree.foldl_upsertLink _ _ { db with providers := certified }
    (linksAgree_linkSnapshots db productId) draft.links
  refine ⟨certified, links, ?_, ?_, hagree⟩
  · unfold Database.applyDraft
    rw [hlimited]
    dsimp only at hcertified ⊢
    rw [hcertified]
    exact hlinks
  · rw [hrows', hrows, List.map_map]
    rfl

/-- The policy effects of a draft for the capacity policy. -/
theorem applyEffects_ok (haction : draft.action = .configureCapacity ∨ draft.action = .singleDestination)
    (h : (applyEffects env product draft).run db = .ok ((), db')) : Drafted env db product draft db' := by
  obtain ⟨providers, links, hdraft, hrows, hagree⟩ := applyDraft_eq env db product.id draft
  rw [applyEffects, modify_bind_ok, hdraft] at h
  rcases haction with haction | haction
  · rw [haction] at h
    simp only [doWhen, reduceCtorEq, if_false, pure_bind, modify_ok] at h
    cases h
    refine ⟨hrows, ?_, rfl, rfl, rfl, rfl, rfl, rfl⟩
    unfold prospectiveLinks
    rw [if_neg (by rw [haction]; decide)]
    exact hagree
  · rw [haction] at h
    simp only [doWhen, reduceCtorEq, if_false, if_true, pure_bind, selectDestination, bind_assoc,
      orThrow_bind_ok, get_bind_ok, throwWhen_bind_ok, set_bind_ok, modify_ok] at h
    obtain ⟨targetId, htarget, -, h⟩ := h
    cases h
    refine ⟨hrows, ?_, rfl, rfl, rfl, rfl, rfl, rfl⟩
    unfold prospectiveLinks
    rw [if_pos haction, htarget]
    exact hagree.selectOnly targetId

/-- What the policy effects of any draft leave: the providers as it writes them, the instances and the
changes as they were, and the creations, some of them without their link. -/
structure EffectsKept (env : Env) (db : Database) (draft : EvolutionChangeInput) (db' : Database) : Prop where
  providers : db'.providers.rows = db.providers.rows.map (·.drafted env draft)
  instances : db'.instances = db.instances
  changes : db'.changes = db.changes
  provisionings : ∀ r ∈ db'.provisionings, ∃ r₀ ∈ db.provisionings, r = r₀ ∨ r = r₀.unlinked

/-- The policy effects of any draft. -/
theorem applyEffects_kept (h : (applyEffects env product draft).run db = .ok ((), db')) :
    EffectsKept env db draft db' := by
  obtain ⟨providers, links, heq, hrows, -⟩ := applyDraft_eq env db product.id draft
  rw [applyEffects, modify_bind_ok, heq] at h
  obtain ⟨_, db₁, hselected, hrest⟩ := bind_ok.mp h
  obtain ⟨_, db₂, hdetached, hproduct⟩ := bind_ok.mp hrest
  cases modify_ok.mp hproduct
  have hopened : ∃ links, db₁ = { db with providers := providers, links := links } := by
    rcases doWhen_ok.mp hselected with ⟨-, hrun⟩ | ⟨-, hsame⟩
    · simp only [selectDestination, orThrow_bind_ok, get_bind_ok, throwWhen_bind_ok, set_ok] at hrun
      obtain ⟨targetId, -, -, hrun⟩ := hrun
      cases hrun
      exact ⟨_, rfl⟩
    · cases hsame
      exact ⟨links, rfl⟩
  obtain ⟨links', rfl⟩ := hopened
  rcases doWhen_ok.mp hdetached with ⟨-, hrun⟩ | ⟨-, hsame⟩
  · simp only [detachTarget, detachEmptyLink, assertNoBlockers, orThrow_bind_ok, get_bind_ok,
      throwWhen_bind_ok, set_ok] at hrun
    obtain ⟨targetId, -, -, -, hrun⟩ := hrun
    cases hrun
    exact ⟨hrows, rfl, rfl, fun r hr => mem_deleteLink hr⟩
  · cases hsame
    exact ⟨hrows, rfl, rfl, fun r hr => ⟨r, hr, Or.inl rfl⟩⟩

/-- A provider after a draft. -/
theorem Drafted.find?_provider (h : Drafted env db product draft db') (v : Uuid) :
    db'.providers.find? v = (db.providers.find? v).map (·.drafted env draft) :=
  Table.find?_of_rows_map (fun p => drafted_column (·.id) (fun _ _ => rfl) (fun _ => rfl) p) h.providers v

/-- A draft leaves the occupancy of every provider as it was. -/
theorem Drafted.readOccupancy (h : Drafted env db product draft db') (v : Uuid) :
    db'.readOccupancy v = db.readOccupancy v := by
  refine readOccupancy_congr h.inventory h.instances h.provisionings ?_ h.reconciliations
  rw [h.find?_provider, Option.map_map]
  congr 1
  funext p
  exact drafted_column (·.inventoryRevision) (fun _ _ => rfl) (fun _ => rfl) p

/-- A draft registers no endpoint twice. -/
theorem Drafted.endpointAliases (h : Drafted env db product draft db') (url : String)
    (exceptId : Option Uuid) :
    (db'.endpointAliases env url exceptId).isEmpty = (db.endpointAliases env url exceptId).isEmpty := by
  unfold Database.endpointAliases
  cases canonicalEvolutionEndpoint env url with
  | none => rfl
  | some canonical =>
    dsimp only
    rw [h.providers, List.filter_map, List.isEmpty_map]
    congr 2
    funext p
    have hid : (p.drafted env draft).id = p.id := drafted_column (·.id) (fun _ _ => rfl) (fun _ => rfl) p
    have hurl : (p.drafted env draft).providerUrl = p.providerUrl :=
      drafted_column (·.providerUrl) (fun _ _ => rfl) (fun _ => rfl) p
    rw [Function.comp_apply, hid, hurl]

/-- The readiness report does not read the revision of a provider. -/
theorem evolutionReadiness_unversioned {p q : VpsProvider} (h : p.unversioned = q.unversioned)
    (relay : Bool) :
    db.evolutionReadiness env now p relay = db.evolutionReadiness env now q relay := by
  have hreport := congrArg (fun r => db.evolutionReadiness env now r relay) h
  exact hreport

/-- The readiness report on a provider after a draft is the one the evaluation saw. -/
theorem Drafted.evolutionReadiness (h : Drafted env db product draft db') {p q : VpsProvider}
    (hsame : p.unversioned = q.unversioned) (relay : Bool) :
    db'.evolutionReadiness env now p relay = db.evolutionReadiness env now q relay :=
  (evolutionReadiness_unversioned hsame relay).trans
    (evolutionReadiness_congr h.vpsServers (h.readOccupancy q.id)
      (h.endpointAliases q.providerUrl (some q.id)) relay)

end Effects

end ConnectHub
