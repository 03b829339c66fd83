import ConnectHub.BaseConsolidation

/-!
# The life of a consolidated base

Whatever creations, imports, removals, administration and further consolidations do after the base was
consolidated, in any order: the rows that links name stay there, no two instances share a name or a remote
identity, and every pair in use is linked, so that the diagnosis stays clean.
-/

namespace ConnectHub

open Store

/-- Rows that were there stay, and links that are new are of rows that are there. -/
structure Database.KeepsReferences (db db' : Database) : Prop where
  products : ∀ k, db.products.find? k ≠ none → db'.products.find? k ≠ none
  providers : ∀ k, db.providers.find? k ≠ none → db'.providers.find? k ≠ none
  links : ∀ p v, db'.HasLink p v →
    db.HasLink p v ∨ (db'.products.find? p ≠ none ∧ db'.providers.find? v ≠ none)

/-- What an administrative operation leaves as it is: the references, the instances and the mark of the
consolidation. -/
structure Database.Administered (db db' : Database) : Prop extends Database.KeepsReferences db db' where
  instances : db'.instances = db.instances
  consolidated : db'.baseConsolidated = db.baseConsolidated

/-- What the policy effects of a draft leave as it is: the links they add are of one product. -/
structure Database.EditsLinksOf (productId : Uuid) (db db' : Database) : Prop where
  products : ∀ k, db.products.find? k ≠ none → db'.products.find? k ≠ none
  providers : ∀ k, db.providers.find? k ≠ none → db'.providers.find? k ≠ none
  links : ∀ p v, db'.HasLink p v → db.HasLink p v ∨ p = productId
  instances : db'.instances = db.instances
  consolidated : db'.baseConsolidated = db.baseConsolidated

section References

variable {env : Env} {now : Instant} {db db' : Database} {op : Operation} {outcome : Outcome} {p v id : Uuid}
  {link : ProductEvolution}

/-- Where references are kept, links stay links of rows that are there. -/
theorem Database.KeepsReferences.referenced (h : db.KeepsReferences db') (hlinks : db.LinksReferenced) :
    db'.LinksReferenced := by
  intro p v hlink
  rcases h.links p v hlink with hold | hfound
  · obtain ⟨hproduct, hprovider⟩ := hlinks p v hold
    exact ⟨h.products p hproduct, h.providers v hprovider⟩
  · exact hfound

/-- What is linked once a link was made sure of. -/
theorem hasLink_of_ensureLink (h : (db.ensureLink link).HasLink p v) :
    db.HasLink p v ∨ (p = link.productId ∧ v = link.vpsProviderId) := by
  unfold Database.ensureLink at h
  cases hinsert : db.links.insert? link with
  | none =>
    rw [hinsert] at h
    exact Or.inl h
  | some links =>
    rw [hinsert] at h
    obtain ⟨l, hl, rfl, rfl⟩ := h
    rcases (Table.mem_insert? hinsert).mp hl with hold | rfl
    · exact Or.inl ⟨l, hold, rfl, rfl⟩
    · exact Or.inr ⟨rfl, rfl⟩

/-- Links that were edited were there. -/
theorem hasLink_of_modify {test : ProductEvolution → Bool} {f : ProductEvolution → ProductEvolution}
    (hf : ∀ l, Keyed.key (f l) = Keyed.key l) (hlinks : db'.links = db.links.modify test f hf)
    (h : db'.HasLink p v) : db.HasLink p v := by
  rw [hasLink_iff, hlinks, Table.find?_modify, ne_eq, Option.map_eq_none_iff] at h
  exact hasLink_iff.mpr h

/-- Editing a product keeps the products. -/
theorem found_updateProduct {f : Product → Product} (hf : ∀ q, (f q).id = q.id) {k : Uuid}
    (h : db.products.find? k ≠ none) : (db.updateProduct id f hf).products.find? k ≠ none := by
  change (db.products.modify (fun q => q.id = id) f hf).find? k ≠ none
  rw [Table.find?_modify, ne_eq, Option.map_eq_none_iff]
  exact h

/-- What was found is there. -/
theorem find?_ne_none {ρ κ : Type} [Keyed ρ κ] [DecidableEq κ] {t : Table ρ} {k : κ} {r : ρ} (h : t.find? k = some r) :
    t.find? k ≠ none := by
  rw [h]
  exact Option.some_ne_none r

/-- Admission makes no link but that of the product to the provider. -/
theorem hasLink_of_admissionBase {product : Product} {providerId : Uuid}
    (h : (db.admissionBase product providerId).HasLink p v) :
    db.HasLink p v ∨ (p = product.id ∧ v = providerId) := by
  unfold Database.admissionBase at h
  split at h
  · exact hasLink_of_ensureLink h
  · exact Or.inl h

/-- A link that admission made is of rows that were found. -/
theorem hasLink_of_admitted {product : Product} {provider : VpsProvider} {productId providerId : Uuid}
    (hproduct : db.products.find? productId = some product) (hprovider : db.providers.find? providerId = some provider)
    (h : (db.admissionBase product providerId).HasLink p v) :
    db.HasLink p v ∨ (db.products.find? p ≠ none ∧ db.providers.find? v ≠ none) := by
  rcases hasLink_of_admissionBase h with hold | ⟨rfl, rfl⟩
  · exact Or.inl hold
  · obtain ⟨-, rfl⟩ := Table.find?_eq_some.mp hproduct
    exact Or.inr ⟨find?_ne_none hproduct, find?_ne_none hprovider⟩

/-- A link that is new after a provisioning transaction is of rows that were there. -/
theorem perform_newLinks (h : (perform env op).run db = .ok (outcome, db')) (hlink : db'.HasLink p v) :
    db.HasLink p v ∨ (db.products.find? p ≠ none ∧ db.providers.find? v ≠ none) := by
  by_cases hlinked : ∃ data, op = .createLinked data
  · obtain ⟨data, rfl⟩ := hlinked
    obtain ⟨item, db₁, hrun, hpure⟩ := bind_ok.mp h
    cases pure_ok.mp hpure
    simp only [createLinkedInstance, lockProduct_bind_ok, lockProvider_bind_ok, get_bind_ok, throwWhen_bind_ok,
      ensureEvolutionLink, modify_bind_ok, createInstance_bind_ok, advanceOccupancy_bind_ok, pure_ok] at hrun
    obtain ⟨product, hproduct, provider, hprovider, -, -, instances, -, -, hdb⟩ := hrun
    cases hdb
    rcases hasLink_of_ensureLink hlink with hold | ⟨rfl, rfl⟩
    · exact Or.inl hold
    · exact Or.inr ⟨find?_ne_none hproduct, find?_ne_none hprovider⟩
  · cases perform_effect h with
    | linked => exact absurd ⟨_, rfl⟩ hlinked
    | prepared hproduct hprovider | sent hproduct hprovider => exact hasLink_of_admitted hproduct hprovider hlink
    | idle | recordedAgain | recorded | webhookMarked | finished | cleaning | abandoned | expired | taken
    | removedOwned | removed | imported => exact Or.inl hlink

/-- The provisioning transactions keep the references. -/
theorem perform_keepsReferences (h : (perform env op).run db = .ok (outcome, db')) : db.KeepsReferences db' := by
  have heffect := perform_effect h
  exact ⟨fun k => heffect.product_found, fun k => heffect.provider_found, fun p v hlink =>
    (perform_newLinks h hlink).imp id fun hfound =>
      ⟨heffect.product_found hfound.1, heffect.provider_found hfound.2⟩⟩

end References

section Administration

variable {env : Env} {now : Instant} {db db' : Database} {product : Product} {p v id : Uuid}
  {draft : EvolutionChangeInput}

/-- Doing nothing administers nothing. -/
theorem Database.Administered.refl (db : Database) : db.Administered db :=
  ⟨⟨fun _ hfound => hfound, fun _ hfound => hfound, fun _ _ hlink => Or.inl hlink⟩, rfl, rfl⟩

/-- Editing a product leaves the rest as it is. -/
theorem Database.Administered.updateProduct {f : Product → Product} (hf : ∀ q, (f q).id = q.id)
    (h : db.Administered db') : db.Administered (db'.updateProduct id f hf) where
  products k hfound := found_updateProduct hf (h.products k hfound)
  providers := h.providers
  links p v hlink := (h.links p v hlink).imp_right fun hfound => ⟨found_updateProduct hf hfound.1, hfound.2⟩
  instances := h.instances
  consolidated := h.consolidated

/-- Editing a link leaves the rest as it is. -/
theorem administered_modifyLinks {test : ProductEvolution → Bool} {f : ProductEvolution → ProductEvolution}
    (hf : ∀ l, Keyed.key (f l) = Keyed.key l) :
    db.Administered { db with links := db.links.modify test f hf } :=
  ⟨⟨fun _ hfound => hfound, fun _ hfound => hfound, fun _ _ hlink => Or.inl (hasLink_of_modify hf rfl hlink)⟩,
    rfl, rfl⟩

/-- Making sure of the link of a product that is there to its default that is there. -/
theorem administered_ensureDefaultLink {acceptingNewInstances : Bool} (hbefore : db.Administered db')
    (hproduct : db'.products.find? product.id ≠ none)
    (hprovider : ∀ v, product.vpsProviderId = some v → db'.providers.find? v ≠ none) {r : Unit × Database}
    (h : (ensureDefaultLink product acceptingNewInstances).run db' = .ok r) :
    db.Administered r.2 := by
  rcases ensureDefaultLink_ok h with ⟨-, hsame⟩ | ⟨w, hdefault, hmade⟩
  · rw [hsame]
    exact hbefore
  · rw [hmade]
    refine ⟨⟨hbefore.products, hbefore.providers, fun p v hlink => ?_⟩, hbefore.instances, hbefore.consolidated⟩
    rcases hasLink_of_ensureLink hlink with hold | ⟨rfl, rfl⟩
    · exact hbefore.links p v hold
    · exact Or.inr ⟨hproduct, hprovider _ hdefault⟩

/-- A product is created. -/
theorem createProduct_administered {dto : CreateProductDto} {apiKeyHash : String}
    (h : (createProduct dto id apiKeyHash).run db = .ok (product, db')) : db.Administered db' := by
  simp only [createProduct, validateBatchWebhook, throwWhen_bind_ok, get_bind_ok, orThrow_bind_ok,
    set_bind_ok] at h
  obtain ⟨-, -, hprovider, products, hinserted, h⟩ := h
  obtain ⟨_, db₁, hensured, h⟩ := bind_ok.mp h
  cases pure_ok.mp h
  have hfound : ∀ k, products.find? k = if id = k then some (dto.product id apiKeyHash) else db.products.find? k :=
    fun k => Table.find?_insert? hinserted
  have hkept : db.Administered { db with products := products } := by
    refine ⟨⟨fun k hk => ?_, fun _ hk => hk, fun _ _ hlink => Or.inl hlink⟩, rfl, rfl⟩
    change products.find? k ≠ none
    rw [hfound]
    split
    · exact Option.some_ne_none _
    · exact hk
  refine administered_ensureDefaultLink hkept ?_ (fun w hw hnone => hprovider ?_) hensured
  · change products.find? id ≠ none
    rw [hfound, if_pos rfl]
    exact Option.some_ne_none _
  · have hdefault : dto.vpsProviderId = some w := hw
    rw [hdefault, Option.any_some, Option.isNone_iff_eq_none]
    exact hnone

/-- A product is edited. -/
theorem updateProduct_administered {dto : UpdateProductDto}
    (h : (updateProduct id dto).run db = .ok (product, db')) : db.Administered db' := by
  simp only [ConnectHub.updateProduct, validateBatchWebhook, throwWhen_bind_ok, get_bind_ok, lockProduct_bind_ok,
    set_bind_ok] at h
  obtain ⟨-, -, current, hcurrent, hprovider, -, h⟩ := h
  obtain ⟨_, db₁, hensured, h⟩ := bind_ok.mp h
  cases pure_ok.mp h
  obtain ⟨-, rfl⟩ := Table.find?_eq_some.mp hcurrent
  have hkept : db.Administered (db.updateProduct current.id (·.edited dto)) :=
    (Database.Administered.refl db).updateProduct (f := (·.edited dto)) fun _ => rfl
  have hthere : (db.updateProduct current.id (·.edited dto)).products.find? (current.edited dto).id ≠ none :=
    hkept.products _ (find?_ne_none hcurrent)
  refine administered_ensureDefaultLink hkept hthere (fun w hw hnone => hprovider ?_) hensured
  have hgone : (some w).any (fun v => (db.providers.find? v).isNone) = true := by
    rw [Option.any_some, Option.isNone_iff_eq_none]
    exact hnone
  have hdefault : dto.vpsProviderId.getD current.vpsProviderId = some w := hw
  cases hchosen : dto.vpsProviderId with
  | none =>
    rw [hchosen, Option.getD_none] at hdefault
    exact List.any_eq_true.mpr ⟨some w, List.mem_cons.mpr (Or.inl hdefault.symm), hgone⟩
  | some chosen =>
    rw [hchosen, Option.getD_some] at hdefault
    rw [hdefault]
    exact List.any_eq_true.mpr ⟨some w, List.mem_cons_of_mem _ (List.mem_singleton.mpr rfl), hgone⟩

/-- A provider is attached. -/
theorem attach_administered {expectedRevision : Nat} (h : (attach p v expectedRevision).run db = .ok ((), db')) :
    db.Administered db' := by
  simp only [attach, lockProduct_bind_ok, lockProvider_bind_ok, assertRevision, throwWhen_bind_ok, get_bind_ok] at h
  obtain ⟨product, hproduct, -, provider, hprovider, -, h⟩ := h
  split at h
  · next links hinserted =>
    cases set_ok.mp h
    refine Database.Administered.updateProduct (f := (·.revised)) (fun _ => rfl)
      ⟨⟨fun _ hk => hk, fun _ hk => hk, fun q w hlink => ?_⟩, rfl, rfl⟩
    obtain ⟨l, hl, rfl, rfl⟩ := hlink
    rcases (Table.mem_insert? hinserted).mp hl with hold | rfl
    · exact Or.inl ⟨l, hold, rfl, rfl⟩
    · exact Or.inr ⟨find?_ne_none hproduct, find?_ne_none hprovider⟩
  · cases pure_ok.mp h
    exact Database.Administered.refl db

/-- A link is edited. -/
theorem updateLink_administered {dto : UpdateEvolutionLinkDto} (h : (updateLink p v dto).run db = .ok ((), db')) :
    db.Administered db' := by
  rw [updateLink_ok h]
  exact (administered_modifyLinks (f := (·.updated dto)) fun _ => rfl).updateProduct (f := (·.revised)) fun _ => rfl

/-- Giving up a link leaves the rest as it is. -/
theorem administered_deleteLink : db.Administered (db.deleteLink p v) :=
  ⟨⟨fun _ hk => hk, fun _ hk => hk, fun _ _ hlink => Or.inl (hasLink_deleteLink.mp hlink).1⟩, rfl, rfl⟩

/-- A link is detached. -/
theorem detach_administered {expectedRevision : Nat} (h : (detach p v expectedRevision).run db = .ok ((), db')) :
    db.Administered db' := by
  obtain ⟨product, -, -, rfl⟩ := detach_ok h
  exact administered_deleteLink.updateProduct (f := (·.revised)) fun _ => rfl

/-- A policy is chosen. -/
theorem setAllocation_administered {dto : AllocationDto} (h : (setAllocation env now p dto).run db = .ok ((), db')) :
    db.Administered db' := by
  rcases setAllocation_ok h with rfl | rfl
  · exact Database.Administered.refl db'
  · exact (Database.Administered.refl db).updateProduct (f := (·.redirected dto.mode)) fun _ => rfl

/-- A product is taken out of use. -/
theorem deactivate_administered (h : (deactivate id).run db = .ok ((), db')) : db.Administered db' := by
  rw [deactivate_ok h]
  exact (Database.Administered.refl db).updateProduct (f := ({ · with isActive := false })) fun _ => rfl

/-- A link that writing a link of a draft made is of its product. -/
theorem hasLink_of_upsertLink {productId : Uuid} {item : DraftLink} (h : (db.upsertLink productId item).HasLink p v) :
    db.HasLink p v ∨ p = productId := by
  unfold Database.upsertLink at h
  split at h
  · next links hinserted =>
    obtain ⟨l, hl, rfl, rfl⟩ := h
    rcases (Table.mem_insert? hinserted).mp hl with hold | rfl
    · exact Or.inl ⟨l, hold, rfl, rfl⟩
    · exact Or.inr rfl
  · exact Or.inl (hasLink_of_modify (f := (·.edited item)) (fun _ => rfl) rfl h)

/-- Writing a draft edits the links of its product. -/
theorem applyDraft_edits (env : Env) (db : Database) (productId : Uuid) (draft : EvolutionChangeInput) :
    db.EditsLinksOf productId (db.applyDraft env productId draft) := by
  obtain ⟨providers, links, heq, hrows, -⟩ := applyDraft_eq env db productId draft
  have hlinks : ∀ p v, (db.applyDraft env productId draft).HasLink p v → db.HasLink p v ∨ p = productId := by
    intro p v
    unfold Database.applyDraft
    refine List.foldlRecOn (motive := fun made : Database => made.HasLink p v → db.HasLink p v ∨ p = productId) _ _ ?_
      fun made hmade item _ hlink => ?_
    · refine List.foldlRecOn (motive := fun made : Database => made.HasLink p v → db.HasLink p v ∨ p = productId) _ _ ?_
        fun _ hmade _ _ hlink => hmade hlink
      exact List.foldlRecOn (motive := fun made : Database => made.HasLink p v → db.HasLink p v ∨ p = productId) _ _
        Or.inl fun _ hmade _ _ hlink => hmade hlink
    · rcases hasLink_of_upsertLink hlink with hold | hnew
      · exact hmade hold
      · exact Or.inr hnew
  refine ⟨fun k hk => ?_, fun k hk => ?_, hlinks, ?_, ?_⟩
  · rw [heq]
    exact hk
  · rw [heq, Table.find?_of_rows_map
      (fun p => drafted_column (·.id) (fun _ _ => rfl) (fun _ => rfl) p) hrows, ne_eq, Option.map_eq_none_iff]
    exact hk
  · rw [heq]
  · rw [heq]

/-- Accepting new instances on one provider alone makes no link. -/
theorem hasLink_of_selectOnly {productId targetId : Uuid} (h : (db.selectOnly productId targetId).HasLink p v) :
    db.HasLink p v := by
  have hclosed : ({ db with
      links := db.links.modify (fun l => l.productId = productId && l.vpsProviderId ≠ targetId)
        (·.switched false) } : Database).HasLink p v :=
    hasLink_of_modify (f := (·.switched true)) (fun _ => rfl) rfl h
  exact hasLink_of_modify (f := (·.switched false)) (fun _ => rfl) rfl hclosed

/-- The policy effects of a draft edit the links of its product. -/
theorem applyEffects_edits (h : (applyEffects env product draft).run db = .ok ((), db')) :
    db.EditsLinksOf product.id db' := by
  rw [ConnectHub.applyEffects, modify_bind_ok] at h
  obtain ⟨_, db₁, hselected, h⟩ := bind_ok.mp h
  obtain ⟨_, db₂, hdetached, h⟩ := bind_ok.mp h
  cases modify_ok.mp h
  have hdrafted := applyDraft_edits env db product.id draft
  have hopened : db.EditsLinksOf product.id db₁ := by
    rcases doWhen_ok.mp hselected with ⟨-, hrun⟩ | ⟨-, hsame⟩
    · simp only [selectDestination, orThrow_bind_ok, get_bind_ok, throwWhen_bind_ok, set_ok] at hrun
      obtain ⟨targetId, -, -, hrun⟩ := hrun
      cases hrun
      exact ⟨hdrafted.products, hdrafted.providers, fun p v hlink => hdrafted.links p v (hasLink_of_selectOnly hlink),
        hdrafted.instances, hdrafted.consolidated⟩
    · cases hsame
      exact hdrafted
  have hleft : db.EditsLinksOf product.id db₂ := by
    rcases doWhen_ok.mp hdetached with ⟨-, hrun⟩ | ⟨-, hsame⟩
    · simp only [detachTarget, orThrow_bind_ok] at hrun
      obtain ⟨targetId, -, hrun⟩ := hrun
      obtain ⟨-, rfl⟩ := detachEmptyLink_ok hrun
      exact ⟨hopened.products, hopened.providers, fun p v hlink => hopened.links p v (hasLink_deleteLink.mp hlink).1,
        hopened.instances, hopened.consolidated⟩
    · cases hsame
      exact hopened
  exact ⟨fun k hk => found_updateProduct _ (hleft.products k hk), hleft.providers, hleft.links, hleft.instances,
    hleft.consolidated⟩

/-- The providers that a product is linked to are among those of a change. -/
theorem mem_changedProviders (h : db.HasLink p v) : v ∈ db.changedProviders p draft := by
  obtain ⟨l, hl, rfl, rfl⟩ := h
  have hsnapshot : l.vpsProviderId ∈ (db.linkSnapshots l.productId).map (·.vpsProviderId) := by
    simp only [Database.linkSnapshots, List.mem_map, List.mem_insertionSort, List.mem_filter, decide_eq_true_eq]
    exact ⟨l.snapshot, ⟨l, ⟨hl, rfl⟩, rfl⟩, rfl⟩
  rw [Database.changedProviders, sortedIds, List.mem_insertionSort, List.mem_dedup]
  exact List.mem_append_left _ (List.mem_append_left _ (List.mem_append_left _ (List.mem_append_left _ hsnapshot)))

/-- A change is applied. -/
theorem apply_administered {productId : Uuid} {revision : Nat} {actor : String} {applied : Bool}
    (h : (apply env now productId id revision actor).run db = .ok (applied, db')) : db.Administered db' := by
  rcases apply_cases h with ⟨-, rfl⟩ | ⟨-, plan, row, hplanned, hwritten⟩
  · exact Database.Administered.refl db'
  · obtain ⟨_, db₁, heffects, hnote⟩ := bind_ok.mp hwritten
    simp only [get_bind_ok, orThrow_bind_ok, changeSnapshot, bind_assoc, throwWhen_bind_ok, pure_bind,
      modify_ok] at hnote
    obtain ⟨after, hafter, hchecked, hnote⟩ := hnote
    cases hnote
    obtain ⟨-, hid⟩ := Table.find?_eq_some.mp hafter
    have hedits := applyEffects_edits heffects
    refine ⟨⟨hedits.products, hedits.providers, fun p v hlink => ?_⟩, hedits.instances, hedits.consolidated⟩
    rcases hedits.links p v hlink with hold | rfl
    · exact Or.inl hold
    · refine Or.inr ⟨find?_ne_none hafter, fun hnone => hchecked (List.any_eq_true.mpr ⟨v, ?_, ?_⟩)⟩
      · rw [show after.id = plan.product.id from hid]
        exact mem_changedProviders hlink
      · exact Option.isNone_iff_eq_none.mpr hnone

/-- Every administrative operation keeps the references, the instances and the mark of the consolidation. -/
theorem administer_administered {op : AdminOperation} (h : (op.perform env).run db = .ok ((), db')) :
    db.Administered db' := by
  cases op with
  | createProduct dto id apiKeyHash =>
    obtain ⟨product, db₁, hrun, hpure⟩ := bind_ok.mp h
    cases pure_ok.mp hpure
    exact createProduct_administered hrun
  | updateProduct id dto =>
    obtain ⟨product, db₁, hrun, hpure⟩ := bind_ok.mp h
    cases pure_ok.mp hpure
    exact updateProduct_administered hrun
  | deactivate id => exact deactivate_administered h
  | attach productId vpsProviderId expectedRevision => exact attach_administered h
  | updateLink productId vpsProviderId dto => exact updateLink_administered h
  | detach productId vpsProviderId expectedRevision => exact detach_administered h
  | setAllocation now productId dto => exact setAllocation_administered h
  | apply now productId id revision actor =>
    obtain ⟨applied, db₁, hrun, hpure⟩ := bind_ok.mp h
    cases pure_ok.mp hpure
    exact apply_administered hrun

end Administration

/-- What the diagnosis finds in a base that was consolidated. -/
structure EvolutionBaseDiagnosis.Clean (report : EvolutionBaseDiagnosis) : Prop where
  missingLinks : report.missingLinks = 0
  orphanReferences : report.orphanReferences = 0
  duplicateProductNames : report.duplicateProductNames = 0
  duplicateProviderNames : report.duplicateProviderNames = 0
  duplicateRemoteIds : report.duplicateRemoteIds = 0

/-- What touches neither links, creations nor the mark of the consolidation, adds no instance and edits none, keeps
every product and provider, and leaves the defaults as they are. -/
structure Database.BesideBase (db db' : Database) : Prop where
  links : db'.links = db.links
  provisionings : db'.provisionings = db.provisionings
  instances : ∀ i ∈ db'.instances, i ∈ db.instances
  consolidated : db'.baseConsolidated = db.baseConsolidated
  defaults : ∀ q ∈ db'.products, ∀ v, q.vpsProviderId = some v →
    ∃ q₀ ∈ db.products, q₀.id = q.id ∧ q₀.vpsProviderId = some v
  products : ∀ k, db.products.find? k ≠ none → db'.products.find? k ≠ none
  providers : ∀ k, db.providers.find? k ≠ none → db'.providers.find? k ≠ none

/-- What happens to the base in one step. -/
inductive BaseEvent
  | provisioning (transition : Transition)
  | administered (op : AdminOperation)
  | consolidated
  | beside
deriving DecidableEq, Repr

/-- One step: a provisioning transaction, an administrative one, the consolidation, or anything beside them. A
transaction that fails commits nothing. -/
inductive BaseStep (env : Env) (db : Database) : BaseEvent → Database → Prop
  | provisioning {transition : Transition} {db' : Database} (step : DatabaseStep env db transition db') :
      BaseStep env db (.provisioning transition) db'
  | administered (op : AdminOperation) : BaseStep env db (.administered op) (commit (op.perform env) db)
  | consolidated : BaseStep env db .consolidated (commit consolidateEvolutionBase db)
  | beside {db' : Database} (kept : db.BesideBase db') : BaseStep env db .beside db'

/-- No two instances have one remote identity. -/
def Database.RemoteIdsUnique (db : Database) : Prop :=
  ∀ i ∈ db.instances, ∀ j ∈ db.instances, ∀ key, i.remoteIdentity = some key → j.remoteIdentity = some key → i = j

/-- Every open creation has its link. -/
def Database.PendingLinked (db : Database) : Prop :=
  ∀ r ∈ db.provisionings, r.isOpen = true → db.HasLink r.productId r.vpsProviderId

/-- What holds of the base once it is consolidated. -/
structure Database.Consolidated (db : Database) : Prop where
  linked : db.Linked
  referenced : db.LinksReferenced
  names : db.InstanceNamesUnique
  remoteIds : db.RemoteIdsUnique
  marked : db.baseConsolidated = true

section Runs

variable {env : Env} {db db' : Database} {op : Operation} {outcome : Outcome}

/-- The provisioning transactions leave the mark of the consolidation. -/
theorem Effect.baseConsolidated (h : Effect env db op outcome db') : db'.baseConsolidated = db.baseConsolidated := by
  have hbase : ∀ product providerId,
      (db.admissionBase product providerId).baseConsolidated = db.baseConsolidated := fun product providerId => by
    obtain ⟨links, heq⟩ := admissionBase_eq db product providerId
    rw [heq]
  cases h with
  | prepared | sent => exact hbase _ _
  | idle | recordedAgain | recorded | webhookMarked | finished | cleaning | abandoned | expired | taken
  | removedOwned | removed | linked | imported => rfl

/-- One more instance that collides with none in a consolidated base brings a remote identity of its own. -/
theorem Added.remoteIdsUnique {item : Instance} (h : Added db item db') (hmarked : db.baseConsolidated = true)
    (hunique : db.RemoteIdsUnique) : db'.RemoteIdsUnique := by
  have hother : ∀ i ∈ db.instances, ∀ key, item.remoteIdentity = some key → i.remoteIdentity ≠ some key := by
    intro i hi key hitem hsame
    obtain ⟨hprovider, hid⟩ := remoteIdentity_eq_some.mp hitem
    obtain ⟨hprovider', hid'⟩ := remoteIdentity_eq_some.mp hsame
    refine h.distinct i hi ?_
    simp [Instance.collides, hmarked, hprovider, hprovider', hid, hid']
  intro i hi j hj key hik hjk
  rcases (h.instances i).mp hi with hi | rfl <;> rcases (h.instances j).mp hj with hj | rfl
  · exact hunique i hi j hj key hik hjk
  · exact absurd hik (hother i hi key hjk)
  · exact absurd hjk (hother j hj key hik)
  · rfl

/-- After a provisioning transaction the instances are those that were there, and perhaps one more that collides with
none of them. -/
theorem Effect.instances_added (h : Effect env db op outcome db') :
    (∀ i ∈ db'.instances, i ∈ db.instances) ∨ ∃ item, Added db item db' := by
  rcases h.instances with hsame | ⟨row, item, hrecorded⟩ | ⟨item, hbrought, -⟩
  · exact Or.inl hsame
  · exact Or.inr ⟨item, hrecorded.toAdded⟩
  · exact Or.inr ⟨item, hbrought.toAdded⟩

/-- The provisioning transactions keep a consolidated base consolidated. -/
theorem Database.Consolidated.perform (hbase : db.Consolidated) (h : (perform env op).run db = .ok (outcome, db')) :
    db'.Consolidated := by
  have heffect := perform_effect h
  refine ⟨hbase.linked.perform h, (perform_keepsReferences h).referenced hbase.referenced, ?_, ?_,
    heffect.baseConsolidated.trans hbase.marked⟩
  · rcases heffect.instances_added with hsame | ⟨item, hadded⟩
    · exact fun i hi j hj => hbase.names i (hsame i hi) j (hsame j hj)
    · exact hadded.instanceNamesUnique hbase.names
  · rcases heffect.instances_added with hsame | ⟨item, hadded⟩
    · exact fun i hi j hj => hbase.remoteIds i (hsame i hi) j (hsame j hj)
    · exact hadded.remoteIdsUnique hbase.marked hbase.remoteIds

/-- The administrative operations keep a consolidated base consolidated. -/
theorem Database.Consolidated.administer {op : AdminOperation} (hbase : db.Consolidated)
    (h : (op.perform env).run db = .ok ((), db')) : db'.Consolidated := by
  have hkept := administer_administered h
  refine ⟨hbase.linked.administer h, hkept.toKeepsReferences.referenced hbase.referenced, ?_, ?_,
    hkept.consolidated.trans hbase.marked⟩
  · unfold Database.InstanceNamesUnique
    rw [hkept.instances]
    exact hbase.names
  · unfold Database.RemoteIdsUnique
    rw [hkept.instances]
    exact hbase.remoteIds

/-- What happens beside keeps a consolidated base consolidated. -/
theorem Database.Consolidated.beside (hbase : db.Consolidated) (hkept : db.BesideBase db') : db'.Consolidated := by
  refine ⟨?_, fun p v hlink => ?_, ?_, ?_, hkept.consolidated.trans hbase.marked⟩
  · refine hbase.linked.of_kept (fun _ _ hlink => hlink.of_links hkept.links) (fun q hq v hv => ?_) (fun i hi => ?_)
      fun r hr hopen => ?_
    · exact Or.inl (hkept.defaults q hq v hv)
    · exact Or.inl ⟨i, hkept.instances i hi, rfl, rfl⟩
    · rw [hkept.provisionings] at hr
      exact Or.inl ⟨r, hr, hopen, rfl, rfl⟩
  · obtain ⟨hproduct, hprovider⟩ := hbase.referenced p v (hlink.of_links hkept.links.symm)
    exact ⟨hkept.products p hproduct, hkept.providers v hprovider⟩
  · exact fun i hi j hj => hbase.names i (hkept.instances i hi) j (hkept.instances j hj)
  · exact fun i hi j hj => hbase.remoteIds i (hkept.instances i hi) j (hkept.instances j hj)

/-- Editing the providers, but not which they are, is beside the base. -/
theorem besideBase_modifyProviders {test : VpsProvider → Bool} {f : VpsProvider → VpsProvider}
    (hf : ∀ p, Keyed.key (f p) = Keyed.key p) :
    db.BesideBase { db with providers := db.providers.modify test f hf } where
  links := rfl
  provisionings := rfl
  instances i hi := hi
  consolidated := rfl
  defaults q hq v hv := ⟨q, hq, rfl, hv⟩
  products _ hfound := hfound
  providers k hfound := by
    rw [Table.find?_modify, ne_eq, Option.map_eq_none_iff]
    exact hfound

/-- Where no remote identity is ambiguous, no two instances have one. -/
theorem remoteIdsUnique_of_not_ambiguous (h : db.ambiguousRemoteIds = false) : db.RemoteIdsUnique :=
  fun _ hi _ hj _ hik hjk =>
    eq_of_nodup_filterMap (rows_nodup db.instances) (ambiguousRemoteIds_eq_false.mp h) hi hj hik hjk

/-- A consolidation that goes through leaves a consolidated base. -/
theorem consolidated_of_consolidate (hlinks : db.LinksReferenced) (hnames : db.InstanceNamesUnique)
    (hpending : db.PendingLinked) (h : consolidateEvolutionBase.run db = .ok ((), db')) : db'.Consolidated := by
  have hused := consolidate_linked h
  obtain ⟨hambiguous, -, heq⟩ := consolidate_ok.mp h
  obtain ⟨links, hbackfilled, -⟩ := @backfilled_eq db
  have hlink : ∀ p v, db'.HasLink p v ↔ db.backfilled.HasLink p v := fun p v => by
    cases heq
    exact Iff.rfl
  have hrest : db' = { db with links := links, baseConsolidated := true } := by
    rw [hbackfilled] at heq
    exact congrArg Prod.snd heq
  refine ⟨⟨fun q hq v hv => hused q.id v (Or.inl ⟨q, hq, rfl, hv⟩), fun i hi => hused _ _ (Or.inr ⟨i, hi, rfl, rfl⟩),
    fun r hr hopen => ?_⟩, fun p v hlinked => ?_, ?_, ?_, ?_⟩
  · rw [hrest] at hr
    exact (hlink _ _).mpr (hasLink_backfilled.mpr (Or.inl (hpending r hr hopen)))
  · have hfound : db.products.find? p ≠ none ∧ db.providers.find? v ≠ none := by
      rcases hasLink_backfilled.mp ((hlink p v).mp hlinked) with hold | hpair
      · exact hlinks p v hold
      · exact (mem_usedPairs.mp hpair).2
    rw [hrest]
    exact hfound
  · rw [hrest]
    exact hnames
  · rw [hrest]
    exact remoteIdsUnique_of_not_ambiguous hambiguous
  · rw [hrest]

/-- Every step keeps a consolidated base consolidated. -/
theorem Database.Consolidated.step {event : BaseEvent} (hbase : db.Consolidated) (h : BaseStep env db event db') :
    db'.Consolidated := by
  cases h with
  | provisioning hstep =>
    cases hstep with
    | committed op => exact commit_induction hbase fun outcome db' hrun => hbase.perform hrun
    | reordered hsame =>
      have hrest := hsame.rest
      have hreordered : LinkStep env db (.provisioning .reordered) db' := .provisioning (.reordered hsame)
      refine ⟨hbase.linked.step hreordered, ?_, fun i hi j hj => ?_, fun i hi j hj => ?_, ?_⟩
      · rw [← hrest]
        exact hbase.referenced
      · exact hbase.names i (hsame.instances.mem_iff.mpr hi) j (hsame.instances.mem_iff.mpr hj)
      · exact hbase.remoteIds i (hsame.instances.mem_iff.mpr hi) j (hsame.instances.mem_iff.mpr hj)
      · rw [← hrest]
        exact hbase.marked
  | administered op => exact commit_induction hbase fun _ db' hrun => hbase.administer hrun
  | consolidated =>
    exact commit_induction hbase fun _ db' hrun =>
      consolidated_of_consolidate hbase.referenced hbase.names hbase.linked.pending hrun
  | beside hkept => exact hbase.beside hkept

/-- A set without elements has none. -/
theorem ncard_eq_zero_of_forall {α : Type} {s : Set α} (h : ∀ a, a ∉ s) : s.ncard = 0 := by
  rw [Set.eq_empty_iff_forall_notMem.mpr h, Set.ncard_empty]

/-- The diagnosis of a consolidated base is clean. -/
theorem Database.Consolidated.clean (hbase : db.Consolidated) (env : Env) : (db.diagnosis env).Clean := by
  have hlinked : ∀ p v, db.Uses p v → db.HasLink p v := by
    rintro p v (⟨q, hq, rfl, hv⟩ | ⟨i, hi, rfl, rfl⟩)
    · exact hbase.linked.defaults q hq v hv
    · exact hbase.linked.instances i hi
  refine ⟨diagnosis_missingLinks_eq_zero.mpr hlinked,
    diagnosis_orphanReferences_eq_zero.mpr fun p v huses => hbase.referenced p v (hlinked p v huses), ?_, ?_, ?_⟩
  · rw [diagnosis_duplicateProductNames]
    refine ncard_eq_zero_of_forall ?_
    rintro key ⟨i, hi, j, hj, hne, hik, hjk⟩
    have hsame := Prod.mk.inj (hik.trans hjk.symm)
    exact hne (hbase.names i hi j hj ⟨hsame.2, Or.inr hsame.1⟩)
  · rw [diagnosis_duplicateProviderNames]
    refine ncard_eq_zero_of_forall ?_
    rintro key ⟨i, hi, j, hj, hne, hik, hjk⟩
    have hsame := Prod.mk.inj (hik.trans hjk.symm)
    exact hne (hbase.names i hi j hj ⟨hsame.2, Or.inl hsame.1⟩)
  · rw [(db.diagnosed env).duplicateRemoteIds]
    refine ncard_eq_zero_of_forall ?_
    rintro key ⟨i, hi, j, hj, hne, hik, hjk⟩
    exact hne (hbase.remoteIds i hi j hj key (remoteIdentity_eq_some.mpr hik) (remoteIdentity_eq_some.mpr hjk))

/-- The links that the consolidation makes: as many as the diagnosis finds missing, those of one product with
different priorities. -/
theorem consolidate_made (env : Env) (hlinks : db.LinksReferenced)
    (h : consolidateEvolutionBase.run db = .ok ((), db')) :
    ∃ made, db'.links.rows = db.links.rows ++ made ∧ made.length = (db.diagnosis env).missingLinks ∧
      made.Pairwise fun a b => a.productId = b.productId → a.allocationPriority ≠ b.allocationPriority := by
  have horphans := ((consolidate_isOk env hlinks).mp ⟨db', h⟩).1
  obtain ⟨links, hdb, hrows⟩ := consolidate_eq h
  refine ⟨db.linkedNew.map db.backfillLink, ?_, ?_, ?_⟩
  · rw [hdb]
    exact hrows
  · rw [List.length_map, linkedNew_length horphans]
  · have hnodup : db.linkedNew.Nodup := usedPairs_nodup.filter _
    rw [List.pairwise_map]
    refine hnodup.pairwise_of_forall_ne fun a ha b hb hne hproduct => ?_
    exact backfillLink_priority (List.mem_filter.mp ha).1 (List.mem_filter.mp hb).1 hproduct hne

/-- The report of the diagnosis is exact. The consolidation goes through exactly where the diagnosis finds neither
dangling references nor ambiguous remote identities; it then makes the links that were reported missing, and those
alone, with a priority of their own for each of a product's; it changes no other count, and repeated it changes
nothing. From then on, whatever creations, imports, removals, administration, consolidations and steps beside them do,
in any order, the diagnosis is clean. -/
theorem base_consolidated (env : Env) (db : Database) (hlinks : db.LinksReferenced) :
    db.Diagnosed env (db.diagnosis env) ∧
      ((∃ db', consolidateEvolutionBase.run db = .ok ((), db')) ↔
        (db.diagnosis env).orphanReferences = 0 ∧ (db.diagnosis env).duplicateRemoteIds = 0) ∧
      ∀ db', consolidateEvolutionBase.run db = .ok ((), db') →
        (db' = { db with links := db'.links, baseConsolidated := true } ∧
          (∃ made, db'.links.rows = db.links.rows ++ made ∧ made.length = (db.diagnosis env).missingLinks ∧
            made.Pairwise fun a b => a.productId = b.productId → a.allocationPriority ≠ b.allocationPriority) ∧
          db'.diagnosis env = { db.diagnosis env with missingLinks := 0 } ∧
          consolidateEvolutionBase.run db' = .ok ((), db')) ∧
        (db.InstanceNamesUnique → db.PendingLinked →
          ∀ es db'', Run (BaseStep env) db' es db'' → (db''.diagnosis env).Clean) := by
  refine ⟨db.diagnosed env, consolidate_isOk env hlinks, fun db' h =>
    ⟨⟨?_, consolidate_made env hlinks h, ?_, consolidate_again h⟩, fun hnames hpending es db'' hrun => ?_⟩⟩
  · obtain ⟨links, hdb, -⟩ := consolidate_eq h
    rw [hdb]
  · have hnone : (db'.diagnosis env).missingLinks = 0 := diagnosis_missingLinks_eq_zero.mpr (consolidate_linked h)
    obtain ⟨links, hdb, -⟩ := consolidate_eq h
    rw [hdb] at hnone ⊢
    rw [diagnosis_withLinks env db links true, hnone]
  · have hbase := consolidated_of_consolidate hlinks hnames hpending h
    exact (hrun.invariant (fun _ _ _ hbefore hstep => hbefore.step hstep) hbase).clean env

end Runs

/-- A small installation whose product has a default provider without a link. -/
def unlinkedDatabase : Database where
  products := ⟨[{ smallProduct with vpsProviderId := some smallProvider.id }], List.nodup_singleton _⟩
  providers := smallDatabase.providers

/-- It is consolidated by one link, and stays clean when its product is taken out of use and its provider stops
answering. -/
theorem base_consolidated_small :
    ∃ db' db'', consolidateEvolutionBase.run unlinkedDatabase = .ok ((), db') ∧
      db'.links.rows.length = (unlinkedDatabase.diagnosis smallEnv).missingLinks ∧
      Run (BaseStep smallEnv) db' [.administered (.deactivate smallProduct.id), .beside] db'' ∧
      (db''.diagnosis smallEnv).Clean := by
  have hlinks : unlinkedDatabase.LinksReferenced := fun p v ⟨l, hl, _⟩ => absurd hl List.not_mem_nil
  have hinstances : ∀ i, i ∉ unlinkedDatabase.instances := fun i => List.not_mem_nil
  obtain ⟨-, hiff, hruns⟩ := base_consolidated smallEnv unlinkedDatabase hlinks
  obtain ⟨db', h⟩ := hiff.mpr ⟨by decide, by decide⟩
  obtain ⟨⟨-, ⟨made, hrows, hlength, -⟩, -⟩, hclean⟩ := hruns db' h
  have hrun : Run (BaseStep smallEnv) db' [.administered (.deactivate smallProduct.id), .beside] _ :=
    Run.cons (.administered (.deactivate smallProduct.id)) (Run.cons (.beside (@besideBase_modifyProviders _
      (fun p => p.id = smallProvider.id) ({ · with isHealthy := false }) fun _ => rfl)) (Run.nil _))
  refine ⟨db', _, h, ?_, hrun, ?_⟩
  · rw [hrows, ← hlength]
    rfl
  · exact hclean (fun i hi => absurd hi (hinstances i)) (fun r hr => absurd hr List.not_mem_nil) _ _ hrun

end ConnectHub
