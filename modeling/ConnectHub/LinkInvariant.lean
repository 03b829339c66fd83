import ConnectHub.CapacityChanges
import ConnectHub.Evolutions
import ConnectHub.ProvisioningLifecycle

/-!
# Links that are in use

Nothing in the database ties a default provider, an instance or a pending creation to the link of its product
to its provider until the base is consolidated. The writers do: whoever sets a default or brings an instance
in makes the link or finds it, a creation is admitted through it, and it is given up only by a transaction
that counts what still uses it.
-/

namespace ConnectHub

open Store

/-- Whether a product has a link to a provider. -/
def Database.HasLink (db : Database) (productId vpsProviderId : Uuid) : Prop :=
  ∃ link ∈ db.links, link.productId = productId ∧ link.vpsProviderId = vpsProviderId

/-- Every default provider, every instance and every open creation has its link. -/
structure Database.Linked (db : Database) : Prop where
  defaults : ∀ p ∈ db.products, ∀ v, p.vpsProviderId = some v → db.HasLink p.id v
  instances : ∀ i ∈ db.instances, db.HasLink i.productId i.vpsProviderId
  pending : ∀ r ∈ db.provisionings, r.isOpen = true → db.HasLink r.productId r.vpsProviderId

section Links

variable {db db' : Database} {productId vpsProviderId p v : Uuid} {link : ProductEvolution}

/-- A link is there exactly where it is found. -/
theorem hasLink_iff : db.HasLink productId vpsProviderId ↔
    db.links.find? (productId, vpsProviderId) ≠ none := by
  constructor
  · intro h
    obtain ⟨link, hlink, hproduct, hprovider⟩ := h
    have hkey : Keyed.key link = (productId, vpsProviderId) := Prod.ext hproduct hprovider
    rw [← hkey, Table.find?_key hlink]
    exact Option.some_ne_none link
  · intro h
    obtain ⟨link, hlink⟩ := Option.ne_none_iff_exists'.mp h
    obtain ⟨hmem, hkey⟩ := Table.find?_eq_some.mp hlink
    exact ⟨link, hmem, congrArg Prod.fst hkey, congrArg Prod.snd hkey⟩

/-- Links stay where they are found again. -/
theorem Database.HasLink.of_links (hlinks : db'.links = db.links) (h : db.HasLink p v) : db'.HasLink p v := by
  unfold Database.HasLink
  rw [hlinks]
  exact h

/-- Making sure of a link keeps the others. -/
theorem Database.HasLink.ensureLink (h : db.HasLink p v) : (db.ensureLink link).HasLink p v := by
  unfold Database.ensureLink
  cases hinsert : db.links.insert? link with
  | none => exact h
  | some links =>
    obtain ⟨l, hl, hkey⟩ := h
    exact ⟨l, (Table.mem_insert? hinsert).mpr (Or.inl hl), hkey⟩

/-- A link is there once it was made sure of. -/
theorem hasLink_ensureLink : (db.ensureLink link).HasLink link.productId link.vpsProviderId := by
  unfold Database.ensureLink
  cases hinsert : db.links.insert? link with
  | none =>
    obtain ⟨l, hl, hkey⟩ := Table.insert?_eq_none hinsert
    exact ⟨l, hl, congrArg Prod.fst hkey, congrArg Prod.snd hkey⟩
  | some links => exact ⟨link, (Table.mem_insert? hinsert).mpr (Or.inr rfl), rfl, rfl⟩

/-- Editing links keeps them. -/
theorem Database.HasLink.modify {test : ProductEvolution → Bool} {f : ProductEvolution → ProductEvolution}
    (hf : ∀ l, Keyed.key (f l) = Keyed.key l) (hlinks : db'.links = db.links.modify test f hf)
    (h : db.HasLink p v) : db'.HasLink p v := by
  rw [hasLink_iff] at h ⊢
  rw [hlinks, Table.find?_modify]
  exact fun hnone => h (Option.map_eq_none_iff.mp hnone)

/-- The links left by giving one up are the others. -/
theorem hasLink_deleteLink : (db.deleteLink productId vpsProviderId).HasLink p v ↔
    db.HasLink p v ∧ ¬(p = productId ∧ v = vpsProviderId) := by
  constructor
  · intro h
    obtain ⟨l, hl, rfl, rfl⟩ := h
    obtain ⟨hmem, hother⟩ := Table.mem_remove.mp hl
    refine ⟨⟨l, hmem, rfl, rfl⟩, fun hsame => ?_⟩
    simp [hsame.1, hsame.2] at hother
  · intro h
    obtain ⟨⟨l, hl, rfl, rfl⟩, hother⟩ := h
    refine ⟨l, Table.mem_remove.mpr ⟨hl, ?_⟩, rfl, rfl⟩
    simpa using hother

/-- What is in use stays linked where no link is lost, and whatever comes into use is linked. -/
theorem Database.Linked.of_kept (h : db.Linked) (hlinks : ∀ p v, db.HasLink p v → db'.HasLink p v)
    (hproducts : ∀ q ∈ db'.products, ∀ v, q.vpsProviderId = some v →
      (∃ p ∈ db.products, p.id = q.id ∧ p.vpsProviderId = some v) ∨ db'.HasLink q.id v)
    (hinstances : ∀ i ∈ db'.instances, (∃ i₀ ∈ db.instances, i₀.productId = i.productId ∧
      i₀.vpsProviderId = i.vpsProviderId) ∨ db'.HasLink i.productId i.vpsProviderId)
    (hpending : ∀ r ∈ db'.provisionings, r.isOpen = true →
      (∃ r₀ ∈ db.provisionings, r₀.isOpen = true ∧ r₀.productId = r.productId ∧
        r₀.vpsProviderId = r.vpsProviderId) ∨ db'.HasLink r.productId r.vpsProviderId) : db'.Linked := by
  refine ⟨fun q hq v hv => ?_, fun i hi => ?_, fun r hr hopen => ?_⟩
  · rcases hproducts q hq v hv with ⟨p, hp, hid, hdefault⟩ | hlinked
    · rw [← hid]
      exact hlinks p.id v (h.defaults p hp v hdefault)
    · exact hlinked
  · rcases hinstances i hi with ⟨i₀, hi₀, hproduct, hprovider⟩ | hlinked
    · rw [← hproduct, ← hprovider]
      exact hlinks _ _ (h.instances i₀ hi₀)
    · exact hlinked
  · rcases hpending r hr hopen with ⟨r₀, hr₀, hopen₀, hproduct, hprovider⟩ | hlinked
    · rw [← hproduct, ← hprovider]
      exact hlinks _ _ (h.pending r₀ hr₀ hopen₀)
    · exact hlinked

/-- Editing a product without touching its default keeps the defaults. -/
theorem defaults_updateProduct {id : Uuid} {f : Product → Product} (hf : ∀ q, (f q).id = q.id)
    (hdefault : ∀ q, (f q).vpsProviderId = q.vpsProviderId) {q : Product}
    (hq : q ∈ (db.updateProduct id f hf).products) :
    ∃ q₀ ∈ db.products, q₀.id = q.id ∧ q₀.vpsProviderId = q.vpsProviderId := by
  obtain ⟨q₀, hq₀, rfl⟩ := mem_updateProduct.mp hq
  refine ⟨q₀, hq₀, ?_⟩
  split
  · exact ⟨(hf q₀).symm, (hdefault q₀).symm⟩
  · exact ⟨rfl, rfl⟩

end Links

section Operations

variable {env : Env} {db db' : Database} {op : Operation} {outcome : Outcome} {p v : Uuid}

/-- Remembering the first allocation keeps the default provider. -/
theorem Product.firstAllocated_vpsProviderId (now : Instant) (product : Product) :
    (product.firstAllocated now).vpsProviderId = product.vpsProviderId := by
  unfold Product.firstAllocated
  split <;> rfl

/-- No operation chooses another default provider. -/
theorem Effect.defaults (h : Effect env db op outcome db') {q : Product} (hq : q ∈ db'.products) :
    ∃ q₀ ∈ db.products, q₀.id = q.id ∧ q₀.vpsProviderId = q.vpsProviderId := by
  cases h with
  | @finished now =>
    exact defaults_updateProduct (Product.firstAllocated_id now)
      (Product.firstAllocated_vpsProviderId now) hq
  | prepared | sent =>
    refine ⟨q, ?_, rfl, rfl⟩
    rw [← admissionBase_products db]
    exact hq
  | idle | recordedAgain | recorded | webhookMarked | cleaning | abandoned | expired | taken | removedOwned
  | removed | linked | imported => exact ⟨q, hq, rfl, rfl⟩

/-- A creation is admitted through a link. -/
theorem Admits.hasLink {now : Instant} {product : Product} {provider : VpsProvider} {own : Bool}
    (h : Admits env now db product provider own) : db.HasLink product.id provider.id := by
  have haccepts := h.linkAccepts
  refine hasLink_iff.mpr fun hnone => ?_
  rw [hnone] at haccepts
  cases haccepts

/-- Admission gives up no link. -/
theorem Database.HasLink.admissionBase {product : Product} {providerId : Uuid} (h : db.HasLink p v) :
    (db.admissionBase product providerId).HasLink p v := by
  unfold Database.admissionBase
  split
  · exact h.ensureLink
  · exact h

/-- A link made by hand, and those that were there. -/
theorem createLinkedInstance_links {data : Instance} {r : Instance × Database}
    (h : (createLinkedInstance data).run db = .ok r) :
    r.2.HasLink data.productId data.vpsProviderId ∧ ∀ p v, db.HasLink p v → r.2.HasLink p v := by
  simp only [createLinkedInstance, lockProduct_bind_ok, lockProvider_bind_ok, get_bind_ok, throwWhen_bind_ok,
    ensureEvolutionLink, modify_bind_ok, createInstance_bind_ok, advanceOccupancy_bind_ok, pure_ok] at h
  obtain ⟨_, _, _, _, -, -, instances, -, -, rfl⟩ := h
  exact ⟨hasLink_ensureLink, fun p v hlink => hlink.ensureLink⟩

/-- A session is imported through a link that is there. -/
theorem importLinkedInstance_links {data : Instance} {source : ImportSource}
    {r : (ImportOutcome × Instance) × Database} (h : (importLinkedInstance data source).run db = .ok r) :
    db.HasLink data.productId data.vpsProviderId := by
  simp only [importLinkedInstance, lockProduct_bind_ok, lockProvider_bind_ok, get_bind_ok,
    throwWhen_bind_ok] at h
  obtain ⟨_, _, _, _, -, -, hlink, -⟩ := h
  exact hasLink_iff.mpr hlink

/-- No operation gives up a link. -/
theorem perform_links (h : (perform env op).run db = .ok (outcome, db')) (hlink : db.HasLink p v) :
    db'.HasLink p v := by
  by_cases hlinked : ∃ data, op = .createLinked data
  · obtain ⟨data, rfl⟩ := hlinked
    obtain ⟨item, db₁, hrun, hpure⟩ := bind_ok.mp h
    cases pure_ok.mp hpure
    exact (createLinkedInstance_links hrun).2 p v hlink
  · cases perform_effect h with
    | linked => exact absurd ⟨_, rfl⟩ hlinked
    | prepared | sent => exact hlink.admissionBase
    | idle | recordedAgain | recorded | webhookMarked | finished | cleaning | abandoned | expired | taken
    | removedOwned | removed | imported => exact hlink

/-- A session is brought in through a link. -/
theorem perform_instance_linked {data : Instance} (h : (perform env op).run db = .ok (outcome, db'))
    (hop : op = .createLinked data ∨ ∃ source, op = .importLinked data source) :
    db'.HasLink data.productId data.vpsProviderId := by
  rcases hop with rfl | ⟨source, rfl⟩
  · obtain ⟨item, db₁, hrun, hpure⟩ := bind_ok.mp h
    cases pure_ok.mp hpure
    exact (createLinkedInstance_links hrun).1
  · have hbefore : db.HasLink data.productId data.vpsProviderId := by
      obtain ⟨item, db₁, hrun, -⟩ := bind_ok.mp h
      exact importLinkedInstance_links hrun
    exact perform_links h hbefore

/-- A change of a row keeps its product, and opens none that had ended. -/
theorem RowChange.isOpen_productId {row row' : InstanceProvisioning} (h : RowChange env op db' row row')
    (hopen : row'.isOpen = true) : row.isOpen = true ∧ row.productId = row'.productId :=
  ⟨h.isOpen_before hopen, h.productId_eq.symm⟩

/-- A creation that is open after an operation was open before, or was admitted through its link. -/
theorem Effect.pending_linked (h : Effect env db op outcome db') {r : InstanceProvisioning}
    (hr : r ∈ db'.provisionings) (hopen : r.isOpen = true) :
    (∃ r₀ ∈ db.provisionings, r₀.isOpen = true ∧ r₀.productId = r.productId ∧
      r₀.vpsProviderId = r.vpsProviderId) ∨ db'.HasLink r.productId r.vpsProviderId := by
  have hkey := Table.find?_key hr
  cases hfound : db.provisionings.find? (Keyed.key r) with
  | some r₀ =>
    left
    obtain ⟨r', hr', hchange⟩ := h.row_change hfound
    obtain rfl : r = r' := Option.some.inj (hkey.symm.trans hr')
    obtain ⟨hopen₀, hproduct⟩ := hchange.isOpen_productId hopen
    exact ⟨r₀, (Table.find?_eq_some.mp hfound).1, hopen₀, hproduct, hchange.claim_eq.1.symm⟩
  | none =>
    right
    obtain ⟨now, execution, productId, providerId, seen, payload, name, owner, rfl, hnew⟩ :=
      h.row_created hfound hkey
    cases h with
    | idle hidles => cases hidles
    | prepared hproduct hprovider hadmits =>
      obtain ⟨-, rfl⟩ := Table.find?_eq_some.mp hproduct
      obtain ⟨-, rfl⟩ := Table.find?_eq_some.mp hprovider
      rw [hnew]
      exact hadmits.hasLink

/-- The provisioning transactions keep what is in use linked. -/
theorem Database.Linked.perform (hlinked : db.Linked) (h : (perform env op).run db = .ok (outcome, db')) :
    db'.Linked := by
  have heffect := perform_effect h
  refine hlinked.of_kept (fun p v => perform_links h) (fun q hq v hv => ?_) (fun i hi => ?_)
    fun r hr hopen => heffect.pending_linked hr hopen
  · obtain ⟨q₀, hq₀, hid, hdefault⟩ := heffect.defaults hq
    exact Or.inl ⟨q₀, hq₀, hid, hdefault.trans hv⟩
  · rcases heffect.instances with hold | ⟨row, item, hrecorded⟩ | ⟨item, hbrought, hop⟩
    · exact Or.inl ⟨i, hold i hi, rfl, rfl⟩
    · rcases (hrecorded.instances i).mp hi with hold | rfl
      · exact Or.inl ⟨i, hold, rfl, rfl⟩
      · -- the row that awaited the instance was open, so its link was there
        have hrow := hlinked.pending row hrecorded.row_mem hrecorded.isOpen
        rw [← hrecorded.productId_eq, ← hrecorded.vpsProviderId_eq] at hrow
        exact Or.inr (perform_links h hrow)
    · rcases (hbrought.instances i).mp hi with hold | rfl
      · exact Or.inl ⟨i, hold, rfl, rfl⟩
      · exact Or.inr (perform_instance_linked h hop)

end Operations

section Administration

variable {env : Env} {now : Instant} {db db' : Database} {product : Product} {id p v : Uuid}

/-- Where links and products are edited without losing a link or choosing another default, what is in use
stays linked. -/
theorem Database.Linked.edited (h : db.Linked) (hlinks : ∀ p v, db.HasLink p v → db'.HasLink p v)
    (hproducts : ∀ q ∈ db'.products, (∃ q₀ ∈ db.products, q₀.id = q.id ∧ q₀.vpsProviderId = q.vpsProviderId) ∨
      ∀ v, q.vpsProviderId = some v → db'.HasLink q.id v)
    (hinstances : db'.instances = db.instances) (hprovisionings : db'.provisionings = db.provisionings) :
    db'.Linked := by
  refine h.of_kept hlinks (fun q hq v hv => ?_) (fun i hi => ?_) fun r hr hopen => ?_
  · rcases hproducts q hq with ⟨q₀, hq₀, hid, hdefault⟩ | hlinked
    · exact Or.inl ⟨q₀, hq₀, hid, hdefault.trans hv⟩
    · exact Or.inr (hlinked v hv)
  · rw [hinstances] at hi
    exact Or.inl ⟨i, hi, rfl, rfl⟩
  · rw [hprovisionings] at hr
    exact Or.inl ⟨r, hr, hopen, rfl, rfl⟩

/-- Editing a product without touching its default. -/
theorem Database.Linked.updateProduct (h : db.Linked) {f : Product → Product} (hf : ∀ q, (f q).id = q.id)
    (hdefault : ∀ q, (f q).vpsProviderId = q.vpsProviderId) : (db.updateProduct id f hf).Linked :=
  h.edited (fun _ _ hlink => hlink) (fun _ hq => Or.inl (defaults_updateProduct hf hdefault hq)) rfl rfl

/-- Making sure of the link to a default provider. -/
theorem ensureDefaultLink_linked {acceptingNewInstances : Bool}
    (h : (ensureDefaultLink product acceptingNewInstances).run db = .ok ((), db')) :
    (∃ links, db' = { db with links := links }) ∧ (∀ p v, db.HasLink p v → db'.HasLink p v) ∧
      ∀ v, product.vpsProviderId = some v → db'.HasLink product.id v := by
  rcases ensureDefaultLink_ok h with ⟨hnone, rfl⟩ | ⟨v, hdefault, rfl⟩
  · refine ⟨⟨_, rfl⟩, fun _ _ hlink => hlink, fun v hv => ?_⟩
    rw [hnone] at hv
    cases hv
  · refine ⟨⟨_, rfl⟩, fun _ _ hlink => hlink.ensureLink, fun w hw => ?_⟩
    rw [hdefault] at hw
    cases hw
    exact hasLink_ensureLink

/-- A product is created with the link to its default. -/
theorem Database.Linked.createProduct {dto : CreateProductDto} {apiKeyHash : String} (hlinked : db.Linked)
    (h : (createProduct dto id apiKeyHash).run db = .ok (product, db')) : db'.Linked := by
  obtain ⟨products, hinserted, hensured⟩ := createProduct_ok h
  obtain ⟨⟨links, hdb⟩, hkept, hdefault⟩ := ensureDefaultLink_linked hensured
  subst hdb
  refine hlinked.edited hkept (fun q hq => ?_) rfl rfl
  rcases (Table.mem_insert? hinserted).mp hq with hold | rfl
  · exact Or.inl ⟨q, hold, rfl, rfl⟩
  · exact Or.inr hdefault

/-- A product is edited with the link to the default it is left with. -/
theorem Database.Linked.editProduct {dto : UpdateProductDto} (hlinked : db.Linked)
    (h : (ConnectHub.updateProduct id dto).run db = .ok (product, db')) : db'.Linked := by
  obtain ⟨current, hcurrent, hensured⟩ := updateProduct_ok h
  obtain ⟨⟨links, hdb⟩, hkept, hdefault⟩ := ensureDefaultLink_linked hensured
  subst hdb
  obtain ⟨hmem, hid⟩ := Table.find?_eq_some.mp hcurrent
  refine hlinked.edited hkept (fun q hq => ?_) rfl rfl
  have hedited : q ∈ (db.updateProduct id (·.edited dto)).products := hq
  obtain ⟨q₀, hq₀, rfl⟩ := mem_updateProduct.mp hedited
  by_cases hsame : q₀.id = id
  · obtain rfl : q₀ = current := Table.eq_of_key_eq hq₀ hmem (hsame.trans hid.symm)
    rw [if_pos hsame]
    exact Or.inr hdefault
  · rw [if_neg hsame]
    exact Or.inl ⟨q₀, hq₀, rfl, rfl⟩

/-- A provider is attached by one more link. -/
theorem Database.Linked.attach {expectedRevision : Nat} (hlinked : db.Linked)
    (h : (attach p v expectedRevision).run db = .ok ((), db')) : db'.Linked := by
  rcases attach_ok h with rfl | ⟨links, hinserted, rfl⟩
  · exact hlinked
  · have hattached : ({ db with links := links } : Database).Linked := by
      refine hlinked.edited (fun q w hlink => ?_) (fun q hq => Or.inl ⟨q, hq, rfl, rfl⟩) rfl rfl
      obtain ⟨l, hl, hkey⟩ := hlink
      exact ⟨l, (Table.mem_insert? hinserted).mpr (Or.inl hl), hkey⟩
    exact hattached.updateProduct (f := (·.revised)) (fun _ => rfl) fun _ => rfl

/-- A link is edited. -/
theorem Database.Linked.updateLink {dto : UpdateEvolutionLinkDto} (hlinked : db.Linked)
    (h : (updateLink p v dto).run db = .ok ((), db')) : db'.Linked := by
  rw [updateLink_ok h]
  refine Database.Linked.updateProduct (f := (·.revised)) ?_ (fun _ => rfl) fun _ => rfl
  exact hlinked.edited (fun _ _ hlink => hlink.modify (f := (·.updated dto)) (fun _ => rfl) rfl)
    (fun q hq => Or.inl ⟨q, hq, rfl, rfl⟩) rfl rfl

/-- A link that nothing uses is given up. -/
theorem Database.Linked.deleteLink (hlinked : db.Linked)
    (hproduct : db.products.find? product.id = some product)
    (hnone : db.detachBlockers product v = []) : (db.deleteLink product.id v).Linked := by
  simp only [Database.detachBlockers, List.append_eq_nil_iff, reportedWhen_eq_nil, not_not,
    List.countP_eq_zero, Bool.and_eq_true, decide_eq_true_eq, not_and] at hnone
  obtain ⟨⟨⟨hdefault, hinstances⟩, hpending⟩, -⟩ := hnone
  refine ⟨fun q hq w hw => ?_, fun i hi => ?_, fun r hr hopen => ?_⟩
  · refine hasLink_deleteLink.mpr ⟨hlinked.defaults q hq w hw, fun hsame => hdefault ?_⟩
    obtain rfl : q = product :=
      Table.eq_of_key_eq hq (Table.find?_eq_some.mp hproduct).1 hsame.1
    rw [hw, hsame.2]
  · exact hasLink_deleteLink.mpr ⟨hlinked.instances i hi, fun hsame => hinstances i hi hsame.1 hsame.2⟩
  · obtain ⟨r₀, hr₀, hunlinked⟩ := mem_deleteLink hr
    obtain ⟨hopen₀, hproductId, hproviderId⟩ : r₀.isOpen = true ∧ r₀.productId = r.productId ∧
        r₀.vpsProviderId = r.vpsProviderId := by
      rcases hunlinked with rfl | rfl <;> exact ⟨hopen, rfl, rfl⟩
    have hkept := hlinked.pending r₀ hr₀ hopen₀
    unfold Database.pendingProvisionings at hpending
    rw [List.countP_eq_zero] at hpending
    have hother : ¬(r₀.productId = product.id ∧ r₀.vpsProviderId = v) := by
      intro hsame
      refine hpending r₀ hr₀ ?_
      have hunended : r₀.isTerminal = false := by rw [isTerminal_eq_not_isOpen, hopen₀, Bool.not_true]
      simp [hsame, InstanceProvisioning.isPending, hunended]
    rw [← hproductId, ← hproviderId]
    exact hasLink_deleteLink.mpr ⟨hkept, hother⟩

/-- A link is detached. -/
theorem Database.Linked.detach {expectedRevision : Nat} (hlinked : db.Linked)
    (h : (detach p v expectedRevision).run db = .ok ((), db')) : db'.Linked := by
  obtain ⟨product, hproduct, hnone, rfl⟩ := detach_ok h
  obtain ⟨-, rfl⟩ := Table.find?_eq_some.mp hproduct
  have hleft := hlinked.deleteLink hproduct hnone
  exact hleft.updateProduct (f := (·.revised)) (fun _ => rfl) fun _ => rfl

/-- Another policy is chosen; the default provider stays. -/
theorem Database.Linked.setAllocation {dto : AllocationDto} (hlinked : db.Linked)
    (h : (setAllocation env now p dto).run db = .ok ((), db')) : db'.Linked := by
  rcases setAllocation_ok h with rfl | rfl
  · exact hlinked
  · exact hlinked.updateProduct (f := (·.redirected dto.mode)) (fun _ => rfl) fun _ => rfl

/-- A product is taken out of use; its default provider stays. -/
theorem Database.Linked.deactivate (hlinked : db.Linked)
    (h : (deactivate id).run db = .ok ((), db')) : db'.Linked := by
  rw [deactivate_ok h]
  exact hlinked.updateProduct (f := ({ · with isActive := false })) (fun _ => rfl) fun _ => rfl

end Administration

section Changes

variable {env : Env} {now : Instant} {db db' : Database} {product : Product} {draft : EvolutionChangeInput}
  {snapshot : ChangeSnapshot} {p v : Uuid}

/-- A product that can return to a destination is linked to it. -/
theorem hasLink_of_legacyBlockers (h : db.legacyBlockers product v = []) : db.HasLink product.id v := by
  simp only [Database.legacyBlockers, List.append_eq_nil_iff, reportedUnless_eq_nil, Bool.and_eq_true,
    List.any_eq_true, List.mem_filter, decide_eq_true_eq] at h
  obtain ⟨⟨⟨⟨-, link, ⟨hlink, hproduct⟩, hprovider⟩, -⟩, -⟩, -⟩ := h
  exact ⟨link, hlink, hproduct, hprovider⟩

/-- A return to the legacy policy is ready only with the link to its destination. -/
theorem evaluateChange_restores (haction : draft.action = .restoreLegacy) {diagnostics : ChangeDiagnostics}
    (h : (evaluateChange env now product draft snapshot).run db = .ok (diagnostics, db'))
    (hready : diagnostics.ready = true) : ∀ v, draft.targetProviderId = some v → db.HasLink product.id v := by
  intro v hv
  simp only [evaluateChange, changeSnapshot, evaluateAction, haction, evaluateReversal, hv, orThrow, bind_assoc,
    get_bind_ok, throwWhen_bind_ok, pure_bind, pure_ok, if_true] at h
  obtain ⟨-, h⟩ := h
  cases h
  dsimp only at hready
  rw [Bool.not_eq_true', List.any_eq_false] at hready
  have hnone : NoneBlocking ((db.legacyBlockers product v).map fun reason => check now reason (some v) true) :=
    fun c hc => Bool.eq_false_iff.mpr
      (hready c (List.mem_append_right _ (List.mem_append_left _ hc)))
  exact hasLink_of_legacyBlockers (noneBlocking_map.mp hnone)

/-- Writing a link of a draft gives up none. -/
theorem Database.HasLink.upsertLink {productId : Uuid} {item : DraftLink} (h : db.HasLink p v) :
    (db.upsertLink productId item).HasLink p v := by
  unfold Database.upsertLink
  split
  · next links hinserted =>
    obtain ⟨l, hl, hkey⟩ := h
    exact ⟨l, (Table.mem_insert? hinserted).mpr (Or.inl hl), hkey⟩
  · exact h.modify (f := (·.edited item)) (fun _ => rfl) rfl

/-- Writing a draft gives up no link. -/
theorem Database.HasLink.applyDraft {productId : Uuid} (h : db.HasLink p v) :
    (db.applyDraft env productId draft).HasLink p v := by
  unfold Database.applyDraft
  refine List.foldlRecOn (motive := fun db : Database => db.HasLink p v) _ _ ?_
    fun _ hlink _ _ => hlink.upsertLink
  refine List.foldlRecOn (motive := fun db : Database => db.HasLink p v) _ _ ?_ fun _ hlink _ _ => hlink
  exact List.foldlRecOn (motive := fun db : Database => db.HasLink p v) _ _ h fun _ hlink _ _ => hlink

/-- Writing a draft keeps what is in use linked. -/
theorem Database.Linked.applyDraft {productId : Uuid} (h : db.Linked) :
    (db.applyDraft env productId draft).Linked := by
  obtain ⟨providers, links, heq, -, -⟩ := applyDraft_eq env db productId draft
  refine h.edited (fun _ _ hlink => hlink.applyDraft) ?_ ?_ ?_
  · rw [heq]
    exact fun q hq => Or.inl ⟨q, hq, rfl, rfl⟩
  · rw [heq]
  · rw [heq]

/-- Accepting new instances on one provider alone gives up no link. -/
theorem Database.Linked.selectOnly {productId targetId : Uuid} (h : db.Linked) :
    (db.selectOnly productId targetId).Linked := by
  refine h.edited (fun q w hlink => ?_) (fun q hq => Or.inl ⟨q, hq, rfl, rfl⟩) rfl rfl
  have hclosed : ({ db with
      links := db.links.modify (fun l => l.productId = productId && l.vpsProviderId ≠ targetId)
        (·.switched false) } : Database).HasLink q w :=
    hlink.modify (f := (·.switched false)) (fun _ => rfl) rfl
  exact hclosed.modify (f := (·.switched true)) (fun _ => rfl) rfl

/-- The policy effects of a draft keep what is in use linked, if a product that returns to a destination is
linked to it. -/
theorem Database.Linked.applyEffects (hlinked : db.Linked)
    (hproduct : db.products.find? product.id = some product)
    (hrestores : draft.action = .restoreLegacy → ∀ v, draft.targetProviderId = some v → db.HasLink product.id v)
    (h : (applyEffects env product draft).run db = .ok ((), db')) : db'.Linked := by
  rw [ConnectHub.applyEffects, modify_bind_ok] at h
  obtain ⟨_, db₁, hselected, h⟩ := bind_ok.mp h
  obtain ⟨_, db₂, hdetached, h⟩ := bind_ok.mp h
  cases modify_ok.mp h
  have hdrafted : (db.applyDraft env product.id draft).Linked := hlinked.applyDraft
  have hfound : (db.applyDraft env product.id draft).products.find? product.id = some product := by
    obtain ⟨providers, links, heq, -, -⟩ := applyDraft_eq env db product.id draft
    rw [heq]
    exact hproduct
  by_cases haction : draft.action = .restoreLegacy
  · -- the product takes a destination it is linked to
    rw [haction] at hselected hdetached
    simp only [doWhen, reduceCtorEq, if_false, pure_ok] at hselected hdetached
    cases hselected
    cases hdetached
    refine hdrafted.edited (fun _ _ hlink => hlink) (fun q hq => ?_) rfl rfl
    obtain ⟨q₀, hq₀, rfl⟩ := mem_updateProduct.mp hq
    by_cases hid : q₀.id = product.id
    · right
      intro v hv
      rw [if_pos hid, Product.reallocated, if_pos haction] at hv
      rw [if_pos hid]
      have hlink : db.HasLink q₀.id v := by
        rw [hid]
        exact hrestores haction v hv
      exact hlink.applyDraft
    · rw [if_neg hid]
      exact Or.inl ⟨q₀, hq₀, rfl, rfl⟩
  · have hopened : db₁.Linked ∧ db₁.products = (db.applyDraft env product.id draft).products := by
      rcases doWhen_ok.mp hselected with ⟨-, hrun⟩ | ⟨-, hsame⟩
      · simp only [selectDestination, orThrow_bind_ok, get_bind_ok, throwWhen_bind_ok, set_ok] at hrun
        obtain ⟨targetId, -, -, hrun⟩ := hrun
        cases hrun
        exact ⟨hdrafted.selectOnly, rfl⟩
      · cases hsame
        exact ⟨hdrafted, rfl⟩
    have hleft : db₂.Linked := by
      rcases doWhen_ok.mp hdetached with ⟨-, hrun⟩ | ⟨-, hsame⟩
      · simp only [detachTarget, orThrow_bind_ok] at hrun
        obtain ⟨targetId, -, hrun⟩ := hrun
        obtain ⟨hnone, rfl⟩ := detachEmptyLink_ok hrun
        exact hopened.1.deleteLink (by rw [hopened.2]; exact hfound) hnone
      · cases hsame
        exact hopened.1
    exact hleft.updateProduct (f := (·.reallocated draft)) (fun _ => rfl) fun q => if_neg haction

/-- A change is applied. -/
theorem Database.Linked.apply {productId id : Uuid} {revision : Nat} {actor : String} {applied : Bool}
    (hlinked : db.Linked) (h : (apply env now productId id revision actor).run db = .ok (applied, db')) :
    db'.Linked := by
  rcases apply_cases h with ⟨-, rfl⟩ | ⟨-, plan, row, hplanned, hwritten⟩
  · exact hlinked
  · obtain ⟨db₁, audit, heffects, rfl⟩ := applyWrite_ok hwritten
    rw [hplanned.planned.2] at heffects
    have hproduct : db.products.find? plan.product.id = some plan.product :=
      Table.find?_key (Table.find?_eq_some.mp hplanned.product).1
    have happlied := hlinked.applyEffects hproduct
      (fun haction => evaluateChange_restores haction hplanned.evaluated hplanned.ready) heffects
    exact happlied.edited (fun _ _ hlink => hlink) (fun q hq => Or.inl ⟨q, hq, rfl, rfl⟩) rfl rfl

end Changes

section Runs

variable {env : Env} {db db' : Database}

/-- Every administrative operation keeps what is in use linked. -/
theorem Database.Linked.administer {op : AdminOperation} (hlinked : db.Linked)
    (h : (op.perform env).run db = .ok ((), db')) : db'.Linked := by
  cases op with
  | createProduct dto id apiKeyHash =>
    obtain ⟨product, db₁, hrun, hpure⟩ := bind_ok.mp h
    cases pure_ok.mp hpure
    exact hlinked.createProduct hrun
  | updateProduct id dto =>
    obtain ⟨product, db₁, hrun, hpure⟩ := bind_ok.mp h
    cases pure_ok.mp hpure
    exact hlinked.editProduct hrun
  | deactivate id => exact hlinked.deactivate h
  | attach productId vpsProviderId expectedRevision => exact hlinked.attach h
  | updateLink productId vpsProviderId dto => exact hlinked.updateLink h
  | detach productId vpsProviderId expectedRevision => exact hlinked.detach h
  | setAllocation now productId dto => exact hlinked.setAllocation h
  | apply now productId id revision actor =>
    obtain ⟨applied, db₁, hrun, hpure⟩ := bind_ok.mp h
    cases pure_ok.mp hpure
    exact hlinked.apply hrun

/-- What touches neither links nor creations, and leaves the defaults and the place of every instance as
they are. -/
structure Database.Beside (db db' : Database) : Prop where
  links : db'.links = db.links
  provisionings : db'.provisionings = db.provisionings
  products : ∀ q ∈ db'.products, ∃ q₀ ∈ db.products, q₀.id = q.id ∧ q₀.vpsProviderId = q.vpsProviderId
  instances : ∀ i ∈ db'.instances, ∃ i₀ ∈ db.instances, i₀.productId = i.productId ∧
    i₀.vpsProviderId = i.vpsProviderId

/-- What happens in one step. -/
inductive LinkEvent
  | provisioning (transition : Transition)
  | administered (op : AdminOperation)
  | beside
deriving DecidableEq, Repr

/-- One step: a provisioning transaction, an administrative one, or anything beside them. A transaction that
fails commits nothing. -/
inductive LinkStep (env : Env) (db : Database) : LinkEvent → Database → Prop
  | provisioning {transition : Transition} {db' : Database} (step : DatabaseStep env db transition db') :
      LinkStep env db (.provisioning transition) db'
  | administered (op : AdminOperation) :
      LinkStep env db (.administered op) (commit (op.perform env) db)
  | beside {db' : Database} (kept : db.Beside db') : LinkStep env db .beside db'

/-- Every step keeps what is in use linked. -/
theorem Database.Linked.step {event : LinkEvent} (hlinked : db.Linked) (h : LinkStep env db event db') :
    db'.Linked := by
  cases h with
  | provisioning hstep =>
    cases hstep with
    | committed op => exact commit_induction hlinked fun outcome db' hrun => hlinked.perform hrun
    | reordered hsame =>
      have hrest := hsame.rest
      have hlinks : db'.links = db.links := by rw [← hrest]
      have hproducts : db'.products = db.products := by rw [← hrest]
      refine hlinked.of_kept (fun _ _ hlink => hlink.of_links hlinks) (fun q hq v hv => ?_) (fun i hi => ?_)
        fun r hr hopen => ?_
      · rw [hproducts] at hq
        exact Or.inl ⟨q, hq, rfl, hv⟩
      · exact Or.inl ⟨i, hsame.instances.mem_iff.mpr hi, rfl, rfl⟩
      · exact Or.inl ⟨r, hsame.provisionings.mem_iff.mpr hr, hopen, rfl, rfl⟩
  | administered op => exact commit_induction hlinked fun _ db' hrun => hlinked.administer hrun
  | beside hkept =>
    refine hlinked.of_kept (fun _ _ hlink => hlink.of_links hkept.links) (fun q hq v hv => ?_)
      (fun i hi => Or.inl (hkept.instances i hi)) fun r hr hopen => ?_
    · obtain ⟨q₀, hq₀, hid, hdefault⟩ := hkept.products q hq
      exact Or.inl ⟨q₀, hq₀, hid, hdefault.trans hv⟩
    · rw [hkept.provisionings] at hr
      exact Or.inl ⟨r, hr, hopen, rfl, rfl⟩

/-- Wherever a run of provisioning and administration leads, in any order, every default provider, every
instance and every open creation has its link. -/
theorem linked_of_run {events : List LinkEvent} (hlinked : db.Linked)
    (h : Run (LinkStep env) db events db') : db'.Linked :=
  Run.invariant (fun _ _ _ hbefore hstep => hbefore.step hstep) h hlinked

end Runs

/-- The small installation is linked. -/
theorem linked_smallDatabase : smallDatabase.Linked := by
  refine ⟨fun q hq v hv => ?_, fun i hi => ?_, fun r hr => ?_⟩
  · cases List.mem_singleton.mp hq
    cases hv
  · cases hi
  · cases hr

/-- A creation is reserved, its provider becomes the default, and detaching it is refused: the link is still
there. -/
theorem linked_of_run_small :
    (commit ((AdminOperation.detach smallProduct.id smallProvider.id 0).perform smallEnv)
      (commit ((AdminOperation.updateProduct smallProduct.id
        { vpsProviderId := some (some smallProvider.id) }).perform smallEnv)
        (commit (perform smallEnv smallPrepare) smallDatabase))).Linked :=
  linked_of_run linked_smallDatabase (Run.cons (.provisioning (.committed smallPrepare))
    (Run.cons (.administered _) (Run.cons (.administered _) (Run.nil _))))

/-! ## The links made for what was in use before there were links -/

/-- A product and a provider it uses: as its default, or through an instance. -/
def Database.usedPairs (db : Database) : List (Uuid × Uuid) :=
  ((db.products.rows.filterMap fun p => p.vpsProviderId.map fun v => (p.id, v)) ++
    db.instances.rows.map fun i => (i.productId, i.vpsProviderId)).dedup.filter fun pair =>
      (db.products.find? pair.1).isSome && (db.providers.find? pair.2).isSome

/-- Whether a pair is that of a product and its default provider. -/
def Database.isDefaultPair (db : Database) (pair : Uuid × Uuid) : Bool :=
  (db.products.find? pair.1).any fun p => p.vpsProviderId = some pair.2

/-- The place of a pair among those of its product: the default comes first, the others follow by id. -/
def Database.pairRank (db : Database) (pair : Uuid × Uuid) : Nat :=
  db.usedPairs.countP fun other => other.1 = pair.1 &&
    ((db.isDefaultPair other && !db.isDefaultPair pair) ||
      (db.isDefaultPair other = db.isDefaultPair pair && decide (other.2.value ≤ pair.2.value)))

/-- The link a pair is given; only that of the default under the legacy policy is open. -/
def Database.backfillLink (db : Database) (pair : Uuid × Uuid) : ProductEvolution where
  productId := pair.1
  vpsProviderId := pair.2
  allocationPriority := if db.isDefaultPair pair then 0 else db.pairRank pair
  acceptingNewInstances := db.isDefaultPair pair &&
    (db.products.find? pair.1).any fun p => p.allocationMode = .legacy

/-- The database once every pair in use has a link; links that exist stay as they are. -/
def Database.backfilled (db : Database) : Database :=
  db.usedPairs.foldl (fun made pair => made.ensureLink (db.backfillLink pair)) db

end ConnectHub
