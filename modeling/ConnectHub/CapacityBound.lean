import ConnectHub.ProvisioningRuns

/-!
# The limit of a provider holds

The count of sessions on a provider groups rows first match first, so it is not monotone in the
tables. The invariant is on the distinct names that occupy the provider: they never exceed its
limit. A reservation adds one name where the unambiguous count left room for it, a recorded
instance carries the name of its own open row, and every other operation only drops names.
-/

namespace ConnectHub

open Store

/-- The operations of a creation: all but those that bring an existing session in. -/
def Operation.isCreation : Operation → Bool
  | .createLinked _ | .importLinked _ _ => false
  | _ => true

/-- The steps that carry creations on: their operations, and scans in another order. -/
def Transition.isCreation : Transition → Bool
  | .committed op => op.isCreation
  | .reordered => true

section Names

variable {env : Env} {db db' : Database} {op : Operation} {outcome : Outcome} {providerId : Uuid}

/-- Names that occupy a provider after a change are bounded by the sources they come from. -/
theorem occupiedNames_subset {names : Finset String} (hnames : db.occupiedNames providerId ⊆ names)
    (hinventory : ∀ e ∈ db'.inventory, e ∈ db.inventory)
    (hinstances : ∀ i ∈ db'.instances, i.vpsProviderId = providerId →
      i ∈ db.instances ∨ i.instanceName ∈ names)
    (hrows : ∀ r ∈ db'.provisionings, r.isOpen = true → r.vpsProviderId = providerId →
      r.instanceName ∈ names)
    (habsent : ∀ i, db'.provedAbsent providerId i = db.provedAbsent providerId i) :
    db'.occupiedNames providerId ⊆ names := by
  intro name hname
  rcases mem_occupiedNames.mp hname with ⟨e, he, hv, rfl⟩ | ⟨i, hi, hv, habs, rfl⟩ | ⟨r, hr, hv, hopen, rfl⟩
  · exact hnames (mem_occupiedNames.mpr (Or.inl ⟨e, hinventory e he, hv, rfl⟩))
  · rcases hinstances i hi hv with hold | hin
    · exact hnames (mem_occupiedNames.mpr (Or.inr (Or.inl ⟨i, hold, hv, habsent i ▸ habs, rfl⟩)))
    · exact hin
  · exact hrows r hr hopen hv

/-- An open row's name occupies its provider. -/
theorem instanceName_mem_occupiedNames {row : InstanceProvisioning} (hrow : row ∈ db.provisionings)
    (hopen : row.isOpen = true) : row.instanceName ∈ db.occupiedNames row.vpsProviderId :=
  mem_occupiedNames.mpr (Or.inr (Or.inr ⟨row, hrow, rfl, hopen, rfl⟩))

/-- No operation changes what was proved absent. -/
theorem Effect.provedAbsent (h : Effect env db op outcome db') (item : Instance) :
    db'.provedAbsent providerId item = db.provedAbsent providerId item :=
  provedAbsent_congr (h.provider_column _ (fun _ _ => rfl) providerId) h.reconciliations

/-- An operation that claims nothing new adds no name. -/
theorem Effect.occupiedNames_of_openWithin (h : Effect env db op outcome db') (hop : op.isCreation = true)
    (hopen : OpenWithin db' db) :
    db'.occupiedNames providerId ⊆ db.occupiedNames providerId := by
  refine occupiedNames_subset (Finset.Subset.refl _) h.inventory (fun i hi hv => ?_) (fun r hr ho hv => ?_)
    h.provedAbsent
  · rcases h.instances with hsame | ⟨row, item, hrecorded⟩ | ⟨item, -, rfl | ⟨_, rfl⟩⟩
    · exact Or.inl (hsame i hi)
    · rcases (hrecorded.instances i).mp hi with hold | rfl
      · exact Or.inl hold
      · right
        rw [hrecorded.instanceName_eq, ← hv, hrecorded.vpsProviderId_eq]
        exact instanceName_mem_occupiedNames hrecorded.row_mem hrecorded.isOpen
    · cases hop
    · cases hop
  · obtain ⟨r₀, hr₀, ho₀, hslot, -⟩ := hopen r hr ho
    simp only [InstanceProvisioning.slot, Prod.mk.injEq] at hslot
    obtain ⟨-, -, hprovider, hname⟩ := hslot
    rw [← hname, ← hv, ← hprovider]
    exact instanceName_mem_occupiedNames hr₀ ho₀

/-- Another scan order finds the same names. -/
theorem occupiedNames_reordered (h : db.SameRows db') :
    db'.occupiedNames providerId ⊆ db.occupiedNames providerId := by
  have hproviders : db'.providers = db.providers := (congrArg Database.providers h.rest).symm
  refine occupiedNames_subset (Finset.Subset.refl _) (fun e he => h.inventory.mem_iff.mpr he)
    (fun i hi _ => Or.inl (h.instances.mem_iff.mpr hi)) (fun r hr ho hv => ?_) fun i => ?_
  · rw [← hv]
    exact instanceName_mem_occupiedNames (h.provisionings.mem_iff.mpr hr) ho
  · exact provedAbsent_congr (by rw [hproviders])
      (congrArg Database.reconciliations h.rest).symm

end Names

/-- A provider with a limit, occupied by no more names than that. -/
structure WithinLimit (providerId : Uuid) (maxInstances : Nat) (db : Database) : Prop where
  limit : (db.providers.find? providerId).map (·.maxInstances) = some (some maxInstances)
  names : (db.occupiedNames providerId).card ≤ maxInstances

section Limit

variable {env : Env} {db db' : Database} {providerId : Uuid} {maxInstances : Nat}

/-- Where admission left room for one more, the names were fewer than the limit. -/
theorem WithinLimit.room {now : Instant} {product : Product} {provider : VpsProvider}
    (h : WithinLimit providerId maxInstances db) (hfound : db.providers.find? providerId = some provider)
    (hadmits : Admits env now (db.admissionBase product providerId) product provider false) :
    (db.occupiedNames providerId).card + 1 ≤ maxInstances := by
  have hid : provider.id = providerId := (Table.find?_eq_some.mp hfound).2
  have hmax : provider.maxInstances = some maxInstances := by simpa [hfound] using h.limit
  have hctl := hadmits.controlled (Or.inr (by simp [hmax]))
  have hunambiguous := hctl.unambiguous
  have hroom := hctl.room maxInstances hmax
  obtain ⟨links, hlinks⟩ := admissionBase_eq db product providerId
  rw [hlinks, hid] at hunambiguous hroom
  -- Admission judged the tables as they stand: links are no part of an occupancy.
  have hcount : (db.readOccupancy providerId).effective = (db.occupiedNames providerId).card :=
    effective_eq_names db providerId hunambiguous
  rw [← hcount]
  exact hroom

/-- A reservation adds at most its own name. -/
theorem Reserved.occupiedNames_subset {op : Operation} {outcome : Outcome} {row : InstanceProvisioning}
    (h : Reserved env db row db') (heffect : Effect env db op outcome db') :
    db'.occupiedNames providerId ⊆ insert row.instanceName (db.occupiedNames providerId) := by
  refine ConnectHub.occupiedNames_subset (Finset.subset_insert _ _) heffect.inventory (fun i hi _ => ?_)
    (fun r hr ho hv => ?_) heffect.provedAbsent
  · rw [h.instances] at hi
    exact Or.inl hi
  · rcases (h.rows r).mp hr with hold | rfl
    · exact Finset.mem_insert_of_mem (hv ▸ instanceName_mem_occupiedNames hold ho)
    · exact Finset.mem_insert_self _ _

/-- A reservation on another provider adds no name. -/
theorem Reserved.occupiedNames_subset_of_ne {op : Operation} {outcome : Outcome}
    {row : InstanceProvisioning} (h : Reserved env db row db') (heffect : Effect env db op outcome db')
    (hne : row.vpsProviderId ≠ providerId) :
    db'.occupiedNames providerId ⊆ db.occupiedNames providerId := by
  refine ConnectHub.occupiedNames_subset (Finset.Subset.refl _) heffect.inventory (fun i hi _ => ?_)
    (fun r hr ho hv => ?_) heffect.provedAbsent
  · rw [h.instances] at hi
    exact Or.inl hi
  · rcases (h.rows r).mp hr with hold | rfl
    · exact hv ▸ instanceName_mem_occupiedNames hold ho
    · exact absurd hv hne

/-- An operation of a creation keeps a provider within its limit. -/
theorem WithinLimit.effect {op : Operation} {outcome : Outcome} (h : WithinLimit providerId maxInstances db)
    (heffect : Effect env db op outcome db') (hop : op.isCreation = true) :
    WithinLimit providerId maxInstances db' := by
  have hlimit : (db'.providers.find? providerId).map (·.maxInstances) = some (some maxInstances) := by
    rw [heffect.provider_column _ (fun _ _ => rfl), h.limit]
  refine ⟨hlimit, ?_⟩
  rcases heffect.open_rows with hopen | ⟨row, hreserved⟩
  · exact (Finset.card_le_card (heffect.occupiedNames_of_openWithin hop hopen)).trans h.names
  · by_cases hv : row.vpsProviderId = providerId
    · obtain ⟨now, product, provider, hfound, hadmits⟩ := hreserved.admitted
      rw [hv] at hfound hadmits
      calc (db'.occupiedNames providerId).card
          ≤ (insert row.instanceName (db.occupiedNames providerId)).card :=
            Finset.card_le_card (hreserved.occupiedNames_subset heffect)
        _ ≤ (db.occupiedNames providerId).card + 1 := Finset.card_insert_le _ _
        _ ≤ maxInstances := h.room hfound hadmits
    · exact (Finset.card_le_card (hreserved.occupiedNames_subset_of_ne heffect hv)).trans h.names

/-- A step that carries creations on keeps a provider within its limit. -/
theorem WithinLimit.step {e : Transition} (h : WithinLimit providerId maxInstances db)
    (hstep : DatabaseStep env db e db') (he : e.isCreation = true) :
    WithinLimit providerId maxInstances db' := by
  cases hstep with
  | committed op =>
    rcases commit_effect env db op with hsame | ⟨outcome, heffect⟩
    · rwa [hsame]
    · exact h.effect heffect he
  | reordered hsame =>
    have hproviders : db'.providers = db.providers := (congrArg Database.providers hsame.rest).symm
    refine ⟨hproviders ▸ h.limit, ?_⟩
    exact (Finset.card_le_card (occupiedNames_reordered hsame)).trans h.names

end Limit

/-- However the transactions of any creations interleave, the sessions counted on a provider never
exceed its limit. -/
theorem effective_le_maxInstances {env : Env} {providerId : Uuid} {maxInstances : Nat}
    {provider : VpsProvider} {db db' : Database} {es : List Transition}
    (hfound : db.providers.find? providerId = some provider)
    (hmax : provider.maxInstances = some maxInstances)
    (hunambiguous : (db.readOccupancy providerId).ambiguous = false)
    (hwithin : (db.readOccupancy providerId).effective ≤ maxInstances)
    (hrun : Run (DatabaseStep env) db es db') (hes : ∀ e ∈ es, e.isCreation = true) :
    (db'.readOccupancy providerId).effective ≤ maxInstances := by
  have hstart : WithinLimit providerId maxInstances db :=
    ⟨by simp [hfound, hmax], effective_eq_names db providerId hunambiguous ▸ hwithin⟩
  have hend : WithinLimit providerId maxInstances db' :=
    (hrun.restrict hes).invariant (fun _ _ _ h hstep => h.step hstep.1 hstep.2) hstart
  exact (effective_le_names db' providerId).trans hend.names

/-- A reservation fills the small installation, and no more than that. -/
theorem effective_le_maxInstances_small :
    ((commit (perform smallEnv smallPrepare) smallDatabase).readOccupancy smallProvider.id).effective = 1 ∧
      ((commit (perform smallEnv smallPrepare) smallDatabase).readOccupancy smallProvider.id).effective ≤ 1 :=
  ⟨by decide, effective_le_maxInstances
    (show smallDatabase.providers.find? smallProvider.id = some smallProvider by decide) (by decide)
    (by decide) (by decide) (Run.single (.committed smallPrepare)) (by decide)⟩

end ConnectHub
