import ConnectHub.CreationTasks
import ConnectHub.NameClaims
import ConnectHub.ProvisioningLifecycle

/-!
# A creation names its own instance

A removal that finds no instance leaves its creation as it was, and a compensation is started without a look at
what it is to remove. That a compensation always has something to remove is no check of one operation: an open
creation that names an instance names one of its own product, provider and name, no other open creation names
it, and whoever removes an instance either found no open creation that names it or owns the one that does.
-/

namespace ConnectHub

open Store

/-- A creation names an instance, which is of its own product and provider and has its name. -/
structure InstanceProvisioning.NamesOwn (row : InstanceProvisioning) (item : Instance) : Prop where
  instanceId : row.instanceId = some item.id
  productId : item.productId = row.productId
  vpsProviderId : item.vpsProviderId = row.vpsProviderId
  instanceName : item.instanceName = row.instanceName

/-- What the executors of creations keep true of the database. -/
structure CleanupInvariant (db : Database) : Prop where
  names : NameInvariant db
  named : ∀ r ∈ db.provisionings, r.isOpen = true → r.instanceId ≠ none → ∃ i ∈ db.instances, r.NamesOwn i
  cleaning : ∀ r ∈ db.provisionings, r.state = .cleanupPending → r.instanceId ≠ none
  placed : ∀ r ∈ db.provisionings, r.isOpen = true →
    db.products.find? r.productId ≠ none ∧ db.providers.find? r.vpsProviderId ≠ none

/-- What an executor has to know before it compensates: the creation it owns names an instance, and it removes
that one. -/
def Operation.Informed (db : Database) : Operation → Prop
  | .markCleanup ticket => ∀ row, db.Owns ticket row → row.instanceId ≠ none
  | .removeConfirmed instanceId _ _ (some ticket) =>
    ∀ row, db.Owns ticket row → row.instanceId = some instanceId
  | _ => True

/-- A creation that is being compensated is open. -/
theorem isOpen_of_cleanupPending {row : InstanceProvisioning} (h : row.state = .cleanupPending) :
    row.isOpen = true := by
  unfold InstanceProvisioning.isOpen
  rw [h]
  rfl

section Effects

variable {env : Env} {db db' : Database} {op : Operation} {outcome : Outcome} {k : Uuid}
  {row row' : InstanceProvisioning} {item : Instance}

/-- An instance that an operation removed was named by no open creation, or the operation owned a creation,
which it closed. -/
theorem Effect.dropped (h : Effect env db op outcome db') (hitem : item ∈ db.instances)
    (hgone : item ∉ db'.instances) :
    (∀ r ∈ db.provisionings, r.instanceId = some item.id → r.isOpen = false) ∨
      ∃ productId providerId ticket row, op = .removeConfirmed item.id productId providerId (some ticket) ∧
        db.Owns ticket row ∧ ∀ r' ∈ db'.provisionings, r'.id = ticket.id → r'.isOpen = false := by
  cases h with
  | idle | recordedAgain | webhookMarked | finished | cleaning | abandoned | expired | taken =>
    exact absurd hitem hgone
  | prepared | sent =>
    refine absurd ?_ hgone
    have hkept := hitem
    rw [← admissionBase_instances db] at hkept
    exact hkept
  | recorded _ _ _ _ _ hinserted =>
    exact absurd ((Table.mem_insert? hinserted).mpr (Or.inl hitem)) hgone
  | linked _ _ hinserted => exact absurd ((Table.mem_insert? hinserted).mpr (Or.inl hitem)) hgone
  | imported _ _ hinserted => exact absurd ((Table.mem_insert? hinserted).mpr (Or.inl hitem)) hgone
  | @removedOwned instanceId productId providerId ticket row dropped howns hfound =>
    right
    obtain ⟨hmem, hid⟩ := Table.find?_eq_some.mp hfound
    have hsame : item.id = dropped.id := by
      by_contra hother
      exact hgone (mem_dropInstance_instances.mpr ⟨hitem, hother⟩)
    have hinstanceId : item.id = instanceId := hsame.trans hid
    refine ⟨productId, providerId, ticket, row, by rw [hinstanceId], howns, fun r' hr' hrid => ?_⟩
    rw [advanceOccupancy_provisionings] at hr'
    obtain ⟨r, -, hr⟩ := mem_updateProvisioning.mp hr'
    by_cases htarget : r.id = ticket.id
    · rw [if_pos htarget] at hr
      rw [← hr]
      rfl
    · rw [if_neg htarget] at hr
      rw [hr] at htarget
      exact absurd hrid htarget
  | @removed instanceId _ _ dropped hsettled hfound =>
    left
    obtain ⟨hmem, hid⟩ := Table.find?_eq_some.mp hfound
    have hsame : item.id = dropped.id := by
      by_contra hother
      exact hgone (mem_dropInstance_instances.mpr ⟨hitem, hother⟩)
    intro r hr hnamed
    refine hsettled r hr ?_
    rw [hnamed, hsame]
    exact congrArg some hid

/-- What a creation names after an operation it named before, or it was recorded just now. -/
theorem Effect.instance_before (h : Effect env db op outcome db') {x : Uuid}
    (hrow' : db'.provisionings.find? k = some row') (hnamed : row'.instanceId = some x) :
    ∃ row, db.provisionings.find? k = some row ∧ RowChange env op db' row row' ∧ (row.instanceId = some x ∨
      ∃ item ∈ db'.instances, row'.NamesOwn item) := by
  rcases h.row_before hrow' with ⟨-, hnone⟩ | ⟨row, hrow, hchange⟩
  · cases hnone.symm.trans hnamed
  · refine ⟨row, hrow, hchange, ?_⟩
    rcases hchange.instanceId with hsame | hnone | ⟨hunnamed, now, ticket, result, instanceId, hop, -⟩
    · exact Or.inl (hsame.symm.trans hnamed)
    · cases hnone.symm.trans hnamed
    · subst hop
      cases h with
      | idle hidles => cases hidles
      | recordedAgain =>
        have hsame : row = row' := Option.some.inj (hrow.symm.trans hrow')
        rw [← hsame, hunnamed] at hnamed
        cases hnamed
      | @recorded _ _ _ _ owned payload _ howns _ _ _ _ hinserted =>
        rw [advanceOccupancy_provisionings] at hrow'
        have hcases := find?_update (f := (·.recorded instanceId result.instanceId)) (fun _ => rfl)
          howns.found hrow
        rcases hcases with hkept | ⟨hsame, hnew⟩
        · have hunchanged : row = row' := Option.some.inj (hkept.symm.trans hrow')
          rw [← hunchanged, hunnamed] at hnamed
          cases hnamed
        · have hrecorded : row.recorded instanceId result.instanceId = row' :=
            Option.some.inj (hnew.symm.trans hrow')
          rw [← hrecorded, hsame]
          exact Or.inr ⟨_, (Table.mem_insert? hinserted).mpr (Or.inr rfl), ⟨rfl, rfl, rfl, rfl⟩⟩

/-- After one row is updated, a row that is being compensated was so before if the update starts no
compensation. -/
theorem cleanupPending_update (f : InstanceProvisioning → InstanceProvisioning) {id : Uuid}
    (hf : ∀ r, (f r).id = r.id) (hstate : ∀ r, (f r).state = .cleanupPending → r.state = .cleanupPending)
    (h : db'.provisionings = db.provisionings.modify (fun r => r.id = id) f hf)
    (hrow' : db'.provisionings.find? k = some row') (hcleaning : row'.state = .cleanupPending) :
    ∃ row, db.provisionings.find? k = some row ∧ row.state = .cleanupPending := by
  rw [h, Table.find?_modify] at hrow'
  obtain ⟨row, hrow, hchanged⟩ := Option.map_eq_some_iff.mp hrow'
  refine ⟨row, hrow, ?_⟩
  split at hchanged
  · rw [← hchanged] at hcleaning
    exact hstate row hcleaning
  · rw [hchanged]
    exact hcleaning

/-- So it was after an instance was dropped. -/
theorem cleanupPending_dropInstance (hrow' : (db.dropInstance item).provisionings.find? k = some row')
    (hcleaning : row'.state = .cleanupPending) :
    ∃ row, db.provisionings.find? k = some row ∧ row.state = .cleanupPending := by
  simp only [Database.dropInstance, Database.deleteInstance_provisionings,
    Database.deleteInventoryNamed_provisionings, Table.find?_modify] at hrow'
  obtain ⟨row, hrow, hchanged⟩ := Option.map_eq_some_iff.mp hrow'
  refine ⟨row, hrow, ?_⟩
  rw [← hchanged] at hcleaning
  split at hcleaning <;> exact hcleaning

/-- A creation that is being compensated after an operation was so before, or the operation owned it and started
its compensation. -/
theorem Effect.cleaning_before (h : Effect env db op outcome db')
    (hrow' : db'.provisionings.find? k = some row') (hcleaning : row'.state = .cleanupPending) :
    ∃ row, db.provisionings.find? k = some row ∧ (row.state = .cleanupPending ∨
      ∃ ticket, op = .markCleanup ticket ∧ db.Owns ticket row) := by
  have hbefore : (∃ row, db.provisionings.find? k = some row ∧ row.state = .cleanupPending) →
      ∃ row, db.provisionings.find? k = some row ∧ (row.state = .cleanupPending ∨
        ∃ ticket, op = .markCleanup ticket ∧ db.Owns ticket row) := by
    intro hrow
    obtain ⟨row, hfound, hstate⟩ := hrow
    exact ⟨row, hfound, Or.inl hstate⟩
  cases h with
  | idle | recordedAgain | linked | imported => exact ⟨row', hrow', Or.inl hcleaning⟩
  | @prepared _ _ _ _ _ _ _ _ _ _ _ _ _ _ _ _ _ _ hinserted =>
    obtain ⟨hmem, hk⟩ := Table.find?_eq_some.mp hrow'
    rcases (Table.mem_insert? hinserted).mp hmem with hold | hnew
    · exact ⟨row', Table.find?_eq_some.mpr ⟨hold, hk⟩, Or.inl hcleaning⟩
    · rw [hnew] at hcleaning
      cases hcleaning
  | @sent _ _ ticket product =>
    obtain ⟨links, hlinks⟩ := admissionBase_eq db product ticket.vpsProviderId
    rw [hlinks] at hrow'
    exact hbefore (cleanupPending_update (·.sent) (fun _ => rfl) (fun _ hsent => absurd hsent (by simp
      [InstanceProvisioning.sent])) rfl hrow' hcleaning)
  | @recorded _ _ result instanceId =>
    exact hbefore (cleanupPending_update (·.recorded instanceId result.instanceId) (fun _ => rfl)
      (fun _ hstate => hstate) rfl hrow' hcleaning)
  | @webhookMarked _ _ payload =>
    exact hbefore (cleanupPending_update (·.webhookMarked payload) (fun _ => rfl) (fun _ hstate => hstate) rfl
      hrow' hcleaning)
  | finished =>
    exact hbefore (cleanupPending_update (·.finished) (fun _ => rfl) (fun _ hended => absurd hended (by simp
      [InstanceProvisioning.finished])) rfl hrow' hcleaning)
  | @cleaning ticket owned howns =>
    rw [find?_updateProvisioning] at hrow'
    obtain ⟨row, hrow, hchanged⟩ := Option.map_eq_some_iff.mp hrow'
    refine ⟨row, hrow, ?_⟩
    split at hchanged
    · next hid =>
      have hsame : row = owned := Table.eq_of_key_eq (Table.find?_eq_some.mp hrow).1
        (Table.find?_eq_some.mp howns.found).1 (hid.trans howns.id_eq.symm)
      exact Or.inr ⟨ticket, rfl, hsame ▸ howns⟩
    · left
      rw [hchanged]
      exact hcleaning
  | @abandoned now =>
    refine hbefore (cleanupPending_update (·.abandoned env now) (InstanceProvisioning.abandoned_id env now)
      (fun r hstate => ?_) rfl hrow' hcleaning)
    unfold InstanceProvisioning.abandoned at hstate
    split at hstate
    · cases hstate
    · dsimp only at hstate
      split at hstate
      · next hpending => exact hpending
      · cases hstate
  | expired =>
    exact hbefore (cleanupPending_update (·.expired) (fun _ => rfl) (fun _ hended => absurd hended (by simp
      [InstanceProvisioning.expired])) rfl hrow' hcleaning)
  | @taken now execution _ leaseOwner =>
    exact hbefore (cleanupPending_update (·.taken now execution leaseOwner) (fun _ => rfl)
      (fun _ hstate => hstate) rfl hrow' hcleaning)
  | @removedOwned _ _ _ ticket _ dropped =>
    have hkept : ∃ row, (db.dropInstance dropped).provisionings.find? k = some row ∧
        row.state = .cleanupPending :=
      cleanupPending_update (·.cleaned) (fun _ => rfl) (fun _ hended => absurd hended (by simp
        [InstanceProvisioning.cleaned])) rfl hrow' hcleaning
    obtain ⟨row, hrow, hstate⟩ := hkept
    exact hbefore (cleanupPending_dropInstance hrow hstate)
  | removed => exact hbefore (cleanupPending_dropInstance hrow' hcleaning)

/-- No operation removes a product. -/
theorem Effect.product_found (h : Effect env db op outcome db') (hfound : db.products.find? k ≠ none) :
    db'.products.find? k ≠ none := by
  cases h with
  | idle | recordedAgain | recorded | webhookMarked | cleaning | abandoned | expired | taken | removedOwned
  | removed | linked | imported => exact hfound
  | prepared | sent =>
    have hkept := hfound
    rw [← admissionBase_products db] at hkept
    exact hkept
  | @finished now ticket row =>
    change (db.products.modify (fun p => p.id = row.productId) (·.firstAllocated now)
      (Product.firstAllocated_id now)).find? k ≠ none
    rw [Table.find?_modify, ne_eq, Option.map_eq_none_iff]
    exact hfound

/-- No operation removes a provider. -/
theorem Effect.provider_found (h : Effect env db op outcome db') (hfound : db.providers.find? k ≠ none) :
    db'.providers.find? k ≠ none := by
  rcases h.providers with hsame | ⟨providerId, hsame⟩
  · rw [hsame]
    exact hfound
  · rw [hsame, find?_advanceOccupancy, ne_eq, Option.map_eq_none_iff]
    exact hfound

end Effects

section Invariant

variable {env : Env} {db db' : Database} {op : Operation} {outcome : Outcome} {k : Uuid}
  {row row' r s : InstanceProvisioning} {item : Instance}

/-- Open creations that name one instance are one creation. -/
theorem CleanupInvariant.single (h : CleanupInvariant db) (hr : r ∈ db.provisionings) (hro : r.isOpen = true)
    (hs : s ∈ db.provisionings) (hso : s.isOpen = true) (hrnames : r.NamesOwn item)
    (hsnames : s.NamesOwn item) : r = s := by
  have hname : r.instanceName = s.instanceName := hrnames.instanceName.symm.trans hsnames.instanceName
  have hprovider : r.vpsProviderId = s.vpsProviderId :=
    hrnames.vpsProviderId.symm.trans hsnames.vpsProviderId
  exact h.names.rows r hr hro s hs hso ⟨hname, Or.inl hprovider⟩

/-- The instance that a creation names stays for as long as the creation is open. -/
theorem CleanupInvariant.keeps_instance (h : CleanupInvariant db) (hinformed : op.Informed db)
    (heffect : Effect env db op outcome db') (hr : r ∈ db.provisionings) (hopen : r.isOpen = true)
    (hnames : r.NamesOwn item) (hitem : item ∈ db.instances) (hrow' : row' ∈ db'.provisionings)
    (hid : row'.id = r.id) (hopen' : row'.isOpen = true) : item ∈ db'.instances := by
  by_contra hgone
  rcases heffect.dropped hitem hgone with hsettled | ⟨productId, providerId, ticket, owned, hop, howns, hclosed⟩
  · have hended := hsettled r hr hnames.instanceId
    rw [hopen] at hended
    cases hended
  · -- Whoever removes the instance owns a creation that names it, and there is only one.
    subst hop
    have hnamed : owned.instanceId = some item.id := hinformed owned howns
    have howned : owned ∈ db.provisionings := (Table.find?_eq_some.mp howns.found).1
    obtain ⟨other, hother, hown⟩ := h.named owned howned howns.isOpen (by simp [hnamed])
    have hsame : other = item :=
      Table.eq_of_key_eq hother hitem (Option.some.inj (hown.instanceId.symm.trans hnamed))
    have hrow : r = owned := h.single hr hopen howned howns.isOpen hnames (hsame ▸ hown)
    have hended := hclosed row' hrow' (hid.trans (by rw [hrow, howns.id_eq]))
    rw [hopen'] at hended
    cases hended

/-- A creation that stays open keeps naming its instance, which stays. -/
theorem CleanupInvariant.keeps_name (h : CleanupInvariant db) (hinformed : op.Informed db)
    (heffect : Effect env db op outcome db') (hrow : db.provisionings.find? k = some row)
    (hrow' : db'.provisionings.find? k = some row') (hchange : RowChange env op db' row row')
    (hopen' : row'.isOpen = true) (hnamed : row.instanceId ≠ none) :
    row'.instanceId = row.instanceId ∧ ∃ item ∈ db'.instances, row'.NamesOwn item := by
  obtain ⟨hmem, -⟩ := Table.find?_eq_some.mp hrow
  obtain ⟨hmem', -⟩ := Table.find?_eq_some.mp hrow'
  have hopen : row.isOpen = true := hchange.isOpen_before hopen'
  obtain ⟨item, hitem, hnames⟩ := h.named row hmem hopen hnamed
  have hkept : item ∈ db'.instances :=
    h.keeps_instance hinformed heffect hmem hopen hnames hitem hmem' hchange.id_eq hopen'
  have hsame : row'.instanceId = some item.id := by
    rcases hchange.instanceId_or_bereft hnames.instanceId with hsame | hbereft
    · exact hsame
    · exact absurd hnames.instanceId (hbereft item hkept)
  refine ⟨hsame.trans hnames.instanceId.symm, item, hkept, hsame, ?_, ?_, ?_⟩
  · exact hnames.productId.trans hchange.productId_eq.symm
  · exact hnames.vpsProviderId.trans hchange.claim_eq.1.symm
  · exact hnames.instanceName.trans hchange.claim_eq.2.symm

/-- After an operation of an informed executor, an open creation that names an instance names one of its own. -/
theorem CleanupInvariant.named_effect (h : CleanupInvariant db) (hinformed : op.Informed db)
    (heffect : Effect env db op outcome db') (hr : r ∈ db'.provisionings) (hopen : r.isOpen = true)
    (hnamed : r.instanceId ≠ none) : ∃ i ∈ db'.instances, r.NamesOwn i := by
  obtain ⟨x, hx⟩ := Option.ne_none_iff_exists'.mp hnamed
  have hfound := Table.find?_key hr
  obtain ⟨row, hrow, hchange, hbefore | hrecorded⟩ := heffect.instance_before hfound hx
  · exact (h.keeps_name hinformed heffect hrow hfound hchange hopen (by simp [hbefore])).2
  · exact hrecorded

/-- And a creation that is being compensated names one. -/
theorem CleanupInvariant.cleaning_effect (h : CleanupInvariant db) (hinformed : op.Informed db)
    (heffect : Effect env db op outcome db') (hr : r ∈ db'.provisionings) (hstate : r.state = .cleanupPending) :
    r.instanceId ≠ none := by
  have hfound := Table.find?_key hr
  obtain ⟨row, hrow, hbefore⟩ := heffect.cleaning_before hfound hstate
  have hnamed : row.instanceId ≠ none := by
    rcases hbefore with hcleaning | ⟨ticket, hop, howns⟩
    · exact h.cleaning row (Table.find?_eq_some.mp hrow).1 hcleaning
    · subst hop
      exact hinformed row howns
  obtain ⟨changed, hchanged, hchange⟩ := heffect.row_change hrow
  have hsame : changed = r := Option.some.inj (hchanged.symm.trans hfound)
  subst hsame
  rw [(h.keeps_name hinformed heffect hrow hfound hchange (isOpen_of_cleanupPending hstate) hnamed).1]
  exact hnamed

/-- An open creation is for a product and on a provider that are there. -/
theorem CleanupInvariant.placed_effect (h : CleanupInvariant db) (heffect : Effect env db op outcome db')
    (hr : r ∈ db'.provisionings) (hopen : r.isOpen = true) :
    db'.products.find? r.productId ≠ none ∧ db'.providers.find? r.vpsProviderId ≠ none := by
  have hfound := Table.find?_key hr
  have hplaced : db.products.find? r.productId ≠ none ∧ db.providers.find? r.vpsProviderId ≠ none := by
    cases hbefore : db.provisionings.find? (Keyed.key r) with
    | none =>
      obtain ⟨_, _, _, _, _, _, _, _, hop, hreserved⟩ := heffect.row_created hbefore hfound
      subst hop
      rw [hreserved]
      cases heffect with
      | idle hidles => cases hidles
      | prepared hproduct hprovider => exact ⟨by simp [hproduct, reservation], by simp [hprovider, reservation]⟩
    | some row =>
      obtain ⟨changed, hchanged, hchange⟩ := heffect.row_change hbefore
      have hsame : changed = r := Option.some.inj (hchanged.symm.trans hfound)
      subst hsame
      rw [hchange.productId_eq, hchange.claim_eq.1]
      exact h.placed row (Table.find?_eq_some.mp hbefore).1 (hchange.isOpen_before hopen)
  exact ⟨heffect.product_found hplaced.1, heffect.provider_found hplaced.2⟩

/-- Operations of informed executors keep the invariant. -/
theorem CleanupInvariant.effect (h : CleanupInvariant db) (hinformed : op.Informed db)
    (heffect : Effect env db op outcome db') : CleanupInvariant db' where
  names := h.names.effect heffect
  named _ hr hopen hnamed := h.named_effect hinformed heffect hr hopen hnamed
  cleaning _ hr hstate := h.cleaning_effect hinformed heffect hr hstate
  placed _ hr hopen := h.placed_effect heffect hr hopen

/-- What happens besides turns a creation into one of the same columns. -/
theorem Database.LeavesCreations.row_before (h : db.LeavesCreations db') (hr : r ∈ db'.provisionings) :
    ∃ row ∈ db.provisionings, row.id = r.id ∧ row.productId = r.productId ∧
      row.vpsProviderId = r.vpsProviderId ∧ row.instanceName = r.instanceName ∧ row.state = r.state ∧
      row.instanceId = r.instanceId := by
  have hrows := h.rows (Keyed.key r)
  rw [Table.find?_key hr, Option.map_some] at hrows
  obtain ⟨row, hrow, hcolumns⟩ := Option.map_eq_some_iff.mp hrows.symm
  obtain ⟨hmem, hid⟩ := Table.find?_eq_some.mp hrow
  simp only [Prod.mk.injEq] at hcolumns
  exact ⟨row, hmem, hid, hcolumns⟩

/-- What happens besides keeps the invariant. -/
theorem CleanupInvariant.beside (h : CleanupInvariant db) (hbeside : db.LeavesCreations db') :
    CleanupInvariant db' := by
  have hbefore : ∀ r ∈ db'.provisionings, r.isOpen = true → ∃ row ∈ db.provisionings, row.isOpen = true ∧
      row.id = r.id ∧ row.productId = r.productId ∧ row.vpsProviderId = r.vpsProviderId ∧
        row.instanceName = r.instanceName ∧ row.instanceId = r.instanceId := by
    intro r hr hopen
    obtain ⟨row, hrow, hid, hproduct, hprovider, hname, hstate, hinstance⟩ := hbeside.row_before hr
    refine ⟨row, hrow, ?_, hid, hproduct, hprovider, hname, hinstance⟩
    unfold InstanceProvisioning.isOpen at hopen ⊢
    rw [hstate]
    exact hopen
  refine ⟨⟨?_, ?_, ?_⟩, ?_, ?_, ?_⟩
  · intro i hi j hj
    exact h.names.instances i ((hbeside.instances i).mp hi) j ((hbeside.instances j).mp hj)
  · intro r hr hro s hs hso hshares
    obtain ⟨row, hrow, hopen, hid, hproduct, hprovider, hname, -⟩ := hbefore r hr hro
    obtain ⟨other, hother, hopen', hid', hproduct', hprovider', hname', -⟩ := hbefore s hs hso
    have hshares₀ : (Claimant.pending row).Shares (.pending other) := by
      simp only [Claimant.Shares, Claimant.instanceName, Claimant.vpsProviderId,
        Claimant.productId] at hshares ⊢
      rw [hname, hname', hproduct, hproduct', hprovider, hprovider']
      exact hshares
    have hsame : row = other := h.names.rows row hrow hopen other hother hopen' hshares₀
    refine Table.eq_of_key_eq hr hs ?_
    exact hid.symm.trans ((congrArg InstanceProvisioning.id hsame).trans hid')
  · intro r hr hro i hi hshares
    obtain ⟨row, hrow, hopen, -, hproduct, hprovider, hname, hinstance⟩ := hbefore r hr hro
    rw [← hinstance]
    refine h.names.recorded row hrow hopen i ((hbeside.instances i).mp hi) ?_
    simp only [Claimant.Shares, Claimant.instanceName, Claimant.vpsProviderId, Claimant.productId] at hshares ⊢
    rw [hname, hproduct, hprovider]
    exact hshares
  · intro r hr hro hnamed
    obtain ⟨row, hrow, hopen, -, hproduct, hprovider, hname, hinstance⟩ := hbefore r hr hro
    obtain ⟨i, hi, hnames⟩ := h.named row hrow hopen (by rw [hinstance]; exact hnamed)
    refine ⟨i, (hbeside.instances i).mpr hi, ?_⟩
    exact ⟨hinstance.symm.trans hnames.instanceId, hnames.productId.trans hproduct,
      hnames.vpsProviderId.trans hprovider, hnames.instanceName.trans hname⟩
  · intro r hr hstate
    obtain ⟨row, hrow, -, -, -, -, hsame, hinstance⟩ := hbeside.row_before hr
    rw [← hinstance]
    exact h.cleaning row hrow (hsame.trans hstate)
  · intro r hr hro
    obtain ⟨row, hrow, hopen, -, hproduct, hprovider, -, -⟩ := hbefore r hr hro
    have hplaced := h.placed row hrow hopen
    rw [hproduct, hprovider] at hplaced
    exact ⟨hbeside.products _ hplaced.1, hbeside.providers _ hplaced.2⟩

end Invariant

end ConnectHub
