import ConnectHub.ProvisioningRuns

/-!
# A name has one claimant

An instance and an open creation both claim a name, for their product and on their provider. No
two of them claim the same one, but for a creation and the instance it recorded. The writers check
different tables under different locks, and each check is what keeps one part of the invariant:
two instances, two creations, or one of each.
-/

namespace ConnectHub

open Store

/-- Who claims a name: an instance, or a creation that is still open. -/
inductive Claimant
  | recorded (item : Instance)
  | pending (row : InstanceProvisioning)
deriving DecidableEq, Repr

namespace Claimant

/-- The product for which a name is claimed. -/
def productId : Claimant → Uuid
  | recorded item => item.productId
  | pending row => row.productId

/-- The provider on which a name is claimed. -/
def vpsProviderId : Claimant → Uuid
  | recorded item => item.vpsProviderId
  | pending row => row.vpsProviderId

/-- The name that is claimed. -/
def instanceName : Claimant → String
  | recorded item => item.instanceName
  | pending row => row.instanceName

/-- The claimants of a database. -/
def Present (db : Database) : Claimant → Prop
  | recorded item => item ∈ db.instances
  | pending row => row ∈ db.provisionings ∧ row.isOpen = true

/-- Two claimants share a name on one provider or for one product. -/
def Shares (a b : Claimant) : Prop :=
  a.instanceName = b.instanceName ∧ (a.vpsProviderId = b.vpsProviderId ∨ a.productId = b.productId)

/-- One claimant is a creation and the other the very instance it recorded. -/
def SameCreation : Claimant → Claimant → Prop
  | pending row, recorded item => row.instanceId = some item.id
  | recorded item, pending row => row.instanceId = some item.id
  | _, _ => False

/-- Sharing a name is symmetric. -/
theorem Shares.symm {a b : Claimant} (h : a.Shares b) : b.Shares a :=
  ⟨h.1.symm, h.2.imp Eq.symm Eq.symm⟩

/-- A creation keeps sharing the names of its slot. -/
theorem shares_of_slot {r r' : InstanceProvisioning} (h : r.slot = r'.slot) {b : Claimant}
    (hshares : (pending r').Shares b) : (pending r).Shares b := by
  simp only [InstanceProvisioning.slot, Prod.mk.injEq] at h
  obtain ⟨-, hproduct, hprovider, hname⟩ := h
  simp only [Shares, productId, vpsProviderId, instanceName] at hshares ⊢
  rwa [hname, hprovider, hproduct]

end Claimant

/-- Distinct claimants of one name are a creation and the instance it recorded. -/
def Database.NamesClaimedOnce (db : Database) : Prop :=
  ∀ a b : Claimant, a.Present db → b.Present db → a ≠ b → a.Shares b → a.SameCreation b

/-- The unique indexes on the names of instances hold. -/
def Database.InstanceNamesUnique (db : Database) : Prop :=
  ∀ i ∈ db.instances, ∀ j ∈ db.instances, (Claimant.recorded i).Shares (.recorded j) → i = j

/-- The three parts of claiming a name once: between instances, between open creations, and between
the two. -/
structure NameInvariant (db : Database) : Prop where
  instances : db.InstanceNamesUnique
  rows : ∀ r ∈ db.provisionings, r.isOpen = true → ∀ s ∈ db.provisionings, s.isOpen = true →
    (Claimant.pending r).Shares (.pending s) → r = s
  recorded : ∀ r ∈ db.provisionings, r.isOpen = true → ∀ i ∈ db.instances,
    (Claimant.pending r).Shares (.recorded i) → r.instanceId = some i.id

section Steps

variable {env : Env} {db db' : Database} {op : Operation} {outcome : Outcome}

/-- Instances that do not collide share no name. -/
theorem not_shares_of_not_collides {consolidated : Bool} {i j : Instance}
    (h : ¬i.collides consolidated j = true) : ¬(Claimant.recorded i).Shares (.recorded j) := by
  rintro ⟨hname, hprovider | hproduct⟩
  · exact h (by simp_all [Instance.collides, Claimant.instanceName, Claimant.vpsProviderId])
  · exact h (by simp_all [Instance.collides, Claimant.instanceName, Claimant.productId])

/-- Where no open creation has a name, none shares it. -/
theorem not_shares_of_openNameFree {productId providerId : Uuid} {name : String}
    (h : db.OpenNameFree productId providerId name) {r : InstanceProvisioning} (hr : r ∈ db.provisionings)
    (hopen : r.isOpen = true) {b : Claimant} (hb : b.productId = productId ∧ b.vpsProviderId = providerId ∧
      b.instanceName = name) : ¬(Claimant.pending r).Shares b := by
  obtain ⟨rfl, rfl, rfl⟩ := hb
  rintro ⟨hname, hprovider | hproduct⟩
  · exact (h r hr hopen hname).2 hprovider
  · exact (h r hr hopen hname).1 hproduct

/-- One more instance that collides with none keeps the names of instances unique. -/
theorem Added.instanceNamesUnique {item : Instance} (h : Added db item db')
    (hunique : db.InstanceNamesUnique) : db'.InstanceNamesUnique := by
  intro i hi j hj hshares
  rcases (h.instances i).mp hi with hi | rfl <;> rcases (h.instances j).mp hj with hj | rfl
  · exact hunique i hi j hj hshares
  · exact absurd hshares.symm (not_shares_of_not_collides (h.distinct i hi))
  · exact absurd hshares (not_shares_of_not_collides (h.distinct j hj))
  · rfl

/-- Instances stay unique under every operation. -/
theorem NameInvariant.instances_effect (h : NameInvariant db) (heffect : Effect env db op outcome db') :
    db'.InstanceNamesUnique := by
  rcases heffect.instances with hsame | ⟨row, item, hrecorded⟩ | ⟨item, hbrought, -⟩
  · exact fun i hi j hj => h.instances i (hsame i hi) j (hsame j hj)
  · exact hrecorded.toAdded.instanceNamesUnique h.instances
  · exact hbrought.toAdded.instanceNamesUnique h.instances

/-- Open creations that claim nothing new still claim apart. -/
theorem NameInvariant.rows_of_openWithin (h : NameInvariant db) (hopen : OpenWithin db' db) :
    ∀ r ∈ db'.provisionings, r.isOpen = true → ∀ s ∈ db'.provisionings, s.isOpen = true →
      (Claimant.pending r).Shares (.pending s) → r = s := by
  intro r hr hro s hs hso hshares
  obtain ⟨r₀, hr₀, hro₀, hrslot, -⟩ := hopen r hr hro
  obtain ⟨s₀, hs₀, hso₀, hsslot, -⟩ := hopen s hs hso
  have hsame : r₀ = s₀ := h.rows r₀ hr₀ hro₀ s₀ hs₀ hso₀
    (Claimant.shares_of_slot hsslot (Claimant.shares_of_slot hrslot hshares).symm).symm
  have hid : r.id = s.id := by
    have hslots : r.slot = s.slot := hrslot.symm.trans (hsame ▸ hsslot)
    exact congrArg Prod.fst hslots
  exact Table.eq_of_key_eq hr hs hid

/-- A reservation claims a name that no open creation claimed. -/
theorem NameInvariant.rows_of_reserved {row : InstanceProvisioning} (h : NameInvariant db)
    (hreserved : Reserved env db row db') :
    ∀ r ∈ db'.provisionings, r.isOpen = true → ∀ s ∈ db'.provisionings, s.isOpen = true →
      (Claimant.pending r).Shares (.pending s) → r = s := by
  intro r hr hro s hs hso hshares
  rcases (hreserved.rows r).mp hr with hr | rfl <;> rcases (hreserved.rows s).mp hs with hs | rfl
  · exact h.rows r hr hro s hs hso hshares
  · exact absurd hshares (not_shares_of_openNameFree hreserved.open_free hr hro ⟨rfl, rfl, rfl⟩)
  · exact absurd hshares.symm (not_shares_of_openNameFree hreserved.open_free hs hso ⟨rfl, rfl, rfl⟩)
  · rfl

/-- Creations that claim nothing new share names with their own instances only. -/
theorem NameInvariant.recorded_of_openWithin (h : NameInvariant db) (heffect : Effect env db op outcome db')
    (hopen : OpenWithin db' db) :
    ∀ r ∈ db'.provisionings, r.isOpen = true → ∀ i ∈ db'.instances,
      (Claimant.pending r).Shares (.recorded i) → r.instanceId = some i.id := by
  intro r hr hro i hi hshares
  obtain ⟨r₀, hr₀, hro₀, hslot, hkeeps⟩ := hopen r hr hro
  have hshares₀ : (Claimant.pending r₀).Shares (.recorded i) := Claimant.shares_of_slot hslot hshares
  have hknown : i ∈ db.instances → r.instanceId = some i.id := fun hold =>
    hkeeps i hi (h.recorded r₀ hr₀ hro₀ i hold hshares₀)
  rcases heffect.instances with hsame | ⟨row, item, hrecorded⟩ | ⟨item, hbrought, -⟩
  · exact hknown (hsame i hi)
  · rcases (hrecorded.instances i).mp hi with hold | rfl
    · exact hknown hold
    · -- The new instance has the names of its own row, so the row that shares them is that one.
      have hrow : r₀ = row := by
        refine h.rows r₀ hr₀ hro₀ row hrecorded.row_mem hrecorded.isOpen ?_
        simpa only [Claimant.Shares, Claimant.instanceName, Claimant.vpsProviderId, Claimant.productId,
          hrecorded.instanceName_eq, hrecorded.vpsProviderId_eq, hrecorded.productId_eq] using hshares₀
      refine hrecorded.record r hr ?_
      rw [← hrow]
      exact (congrArg Prod.fst hslot).symm
  · rcases (hbrought.instances i).mp hi with hold | rfl
    · exact hknown hold
    · exact absurd hshares₀ (not_shares_of_openNameFree hbrought.open_free hr₀ hro₀ ⟨rfl, rfl, rfl⟩)

/-- A reservation claims a name that no instance claimed. -/
theorem NameInvariant.recorded_of_reserved {row : InstanceProvisioning} (h : NameInvariant db)
    (hreserved : Reserved env db row db') :
    ∀ r ∈ db'.provisionings, r.isOpen = true → ∀ i ∈ db'.instances,
      (Claimant.pending r).Shares (.recorded i) → r.instanceId = some i.id := by
  intro r hr hro i hi hshares
  rw [hreserved.instances] at hi
  rcases (hreserved.rows r).mp hr with hr | rfl
  · exact h.recorded r hr hro i hi hshares
  · obtain ⟨hproduct, hprovider⟩ := hreserved.instances_free i hi hshares.1.symm
    rcases hshares.2 with hv | hp
    · exact absurd hv.symm hprovider
    · exact absurd hp.symm hproduct

/-- Every operation keeps names claimed once. -/
theorem NameInvariant.effect (h : NameInvariant db) (heffect : Effect env db op outcome db') :
    NameInvariant db' := by
  rcases heffect.open_rows with hopen | ⟨row, hreserved⟩
  · exact ⟨h.instances_effect heffect, h.rows_of_openWithin hopen, h.recorded_of_openWithin heffect hopen⟩
  · exact ⟨h.instances_effect heffect, h.rows_of_reserved hreserved, h.recorded_of_reserved hreserved⟩

/-- Every step keeps names claimed once. -/
theorem NameInvariant.step {e : Transition} (h : NameInvariant db) (hstep : DatabaseStep env db e db') :
    NameInvariant db' := by
  cases hstep with
  | committed op =>
    rcases commit_effect env db op with hsame | ⟨outcome, heffect⟩
    · rwa [hsame]
    · exact h.effect heffect
  | reordered hsame =>
    refine ⟨fun i hi j hj => ?_, fun r hr hro s hs => ?_, fun r hr hro i hi => ?_⟩
    · exact h.instances i (hsame.instances.mem_iff.mpr hi) j (hsame.instances.mem_iff.mpr hj)
    · exact h.rows r (hsame.provisionings.mem_iff.mpr hr) hro s (hsame.provisionings.mem_iff.mpr hs)
    · exact h.recorded r (hsame.provisionings.mem_iff.mpr hr) hro i (hsame.instances.mem_iff.mpr hi)

/-- The invariant says that distinct claimants of one name are one creation. -/
theorem NameInvariant.namesClaimedOnce (h : NameInvariant db) : db.NamesClaimedOnce := by
  intro a b ha hb hne hshares
  cases a with
  | recorded i =>
    cases b with
    | recorded j => exact hne (congrArg Claimant.recorded (h.instances i ha j hb hshares))
    | pending r => exact h.recorded r hb.1 hb.2 i ha hshares.symm
  | pending r =>
    cases b with
    | recorded i => exact h.recorded r ha.1 ha.2 i hb hshares
    | pending s => exact hne (congrArg Claimant.pending (h.rows r ha.1 ha.2 s hb.1 hb.2 hshares))

/-- An instance about to be recorded shares its names with no other instance. -/
theorem NameInvariant.created_not_shares {row : InstanceProvisioning} (h : NameInvariant db)
    (hrow : row ∈ db.provisionings) (hopen : row.isOpen = true) (hunrecorded : row.instanceId = none)
    {created : Instance} (hcreated : created.productId = row.productId ∧
      created.vpsProviderId = row.vpsProviderId ∧ created.instanceName = row.instanceName) :
    ∀ i ∈ db.instances, ¬(Claimant.recorded created).Shares (.recorded i) := by
  intro i hi hshares
  have hrecorded := h.recorded row hrow hopen i hi (by
    simpa only [Claimant.Shares, Claimant.instanceName, Claimant.vpsProviderId, Claimant.productId,
      hcreated.1, hcreated.2.1, hcreated.2.2] using hshares)
  rw [hunrecorded] at hrecorded
  cases hrecorded

end Steps

/-- However creations, links, imports and removals interleave, a name has one claimant, and the
instance of a confirmed create is inserted without colliding on either of its names. -/
theorem names_claimed_once {env : Env} {db db' : Database} {es : List Transition}
    (hunique : db.InstanceNamesUnique) (hstart : ∀ r ∈ db.provisionings, r.isOpen = false)
    (hrun : Run (DatabaseStep env) db es db') :
    db'.NamesClaimedOnce ∧
      ∀ ticket row now payload result instanceId, db'.Owns ticket row → row.instanceId = none →
        ∀ i ∈ db'.instances,
          ¬(Claimant.recorded (row.created now payload result instanceId)).Shares (.recorded i) := by
  have hbegin : NameInvariant db :=
    ⟨hunique, fun r hr hro => absurd hro (by simp [hstart r hr]),
      fun r hr hro => absurd hro (by simp [hstart r hr])⟩
  have hend : NameInvariant db' := hrun.invariant (fun _ _ _ h hstep => h.step hstep) hbegin
  refine ⟨hend.namesClaimedOnce, fun ticket row now payload result instanceId howns hunrecorded => ?_⟩
  exact hend.created_not_shares (Table.find?_eq_some.mp howns.found).1 howns.isOpen hunrecorded
    ⟨rfl, rfl, rfl⟩

/-- In the small installation the recorded instance and its open creation claim the one name. -/
theorem names_claimed_once_small :
    (commits smallEnv [smallPrepare, smallMarkCreating, smallRecordCreated] smallDatabase).NamesClaimedOnce ∧
      (commits smallEnv [smallPrepare, smallMarkCreating, smallRecordCreated]
        smallDatabase).instances.rows.map (·.instanceName) = ["alice"] :=
  ⟨(names_claimed_once (fun _ hi => absurd hi List.not_mem_nil) (fun _ hr => absurd hr List.not_mem_nil)
    (commits_run smallEnv [smallPrepare, smallMarkCreating, smallRecordCreated] smallDatabase)).1,
    by decide⟩

end ConnectHub
