import ConnectHub.ProvisioningRows
import ConnectHub.Reversal

/-!
# Leases of ended creations

A creation that ended should hold no lease, so that the reversal checks count it no more. Every
operation that ends a row clears both lease columns but one: giving up a row that was never sent
releases it with a fresh expiry. Runs without that step keep the columns clear; the step itself
leaves a row that counts as pending for good.
-/

namespace ConnectHub

open Store

/-- No creation that ended holds a lease. -/
def Database.LeasesReleased (db : Database) : Prop :=
  ∀ r ∈ db.provisionings, r.isTerminal = true → r.leaseOwner = none ∧ r.leaseExpiresAt = none

/-- A step that does not give up a row still reserved, under the ticket that owns it. -/
def Transition.SparesReserved (db : Database) (e : Transition) : Prop :=
  ∀ now ticket row, e = .committed (.abandon now ticket) → db.Owns ticket row → row.state ≠ .reserved

section Steps

variable {env : Env} {db db' : Database} {op : Operation} {row row' : InstanceProvisioning}

/-- Every change but giving up a reserved row keeps the leases of ended creations clear. -/
theorem RowChange.leasesReleased (h : RowChange env op db' row row')
    (hclear : row.isTerminal = true → row.leaseOwner = none ∧ row.leaseExpiresAt = none)
    (hspares : ∀ now ticket, op = .abandon now ticket → ticket.id = row.id →
      row.leaseOwner = ticket.leaseOwner → row.isOpen = true → row.state ≠ .reserved)
    (hterminal : row'.isTerminal = true) : row'.leaseOwner = none ∧ row'.leaseExpiresAt = none := by
  cases h with
  | kept | detached | recorded | webhookMarked => exact hclear hterminal
  | finished | expired | cleaned | cleanedDetached => exact ⟨rfl, rfl⟩
  | sent | cleaning => cases hterminal
  | taken _ hopen =>
    have hclosed : row.isTerminal = true := hterminal
    simp [isTerminal_eq_not_isOpen, hopen] at hclosed
  | abandoned hop hid howner hopen =>
    have hsent := hspares _ _ hop hid howner hopen
    unfold InstanceProvisioning.abandoned at hterminal
    rw [if_neg hsent] at hterminal
    dsimp only [InstanceProvisioning.isTerminal] at hterminal
    split at hterminal <;> cases hterminal

/-- A step that spares reserved rows keeps the leases of ended creations clear. -/
theorem DatabaseStep.leasesReleased {e : Transition} (h : DatabaseStep env db e db')
    (hspares : e.SparesReserved db) (hclear : db.LeasesReleased) : db'.LeasesReleased := by
  intro row' hrow' hterminal
  have hfound' : db'.provisionings.find? row'.id = some row' := Table.find?_key hrow'
  cases h with
  | committed op =>
    rcases commit_effect env db op with hsame | ⟨outcome, heffect⟩
    · rw [hsame] at hrow'
      exact hclear row' hrow' hterminal
    · cases hfound : db.provisionings.find? row'.id with
      | none =>
        obtain ⟨_, _, _, _, _, _, _, _, -, hnew⟩ := heffect.row_created hfound hfound'
        rw [hnew] at hterminal
        cases hterminal
      | some row =>
        obtain ⟨row'', hrow'', hchange⟩ := heffect.row_change hfound
        obtain rfl : row'' = row' := Option.some.inj (hrow''.symm.trans hfound')
        refine hchange.leasesReleased (hclear row (Table.find?_eq_some.mp hfound).1) ?_ hterminal
        intro now ticket hop hid howner hopen
        refine hspares now ticket row (by rw [hop]) ⟨?_, howner, hopen⟩
        rw [hid, hchange.id_eq.symm]
        exact hfound
  | reordered hsame => exact hclear row' (hsame.provisionings.mem_iff.mpr hrow') hterminal

/-- Giving up a reserved row leaves an ended creation that counts as pending. -/
theorem abandon_reserved_isPending {now : Instant} (hreserved : row.state = .reserved) :
    (row.abandoned env now).isTerminal = true ∧ (row.abandoned env now).isPending = true := by
  unfold InstanceProvisioning.abandoned
  rw [if_pos hreserved]
  exact ⟨rfl, rfl⟩

/-- A product without open creations is reported as pending by no check, once leases are clear. -/
theorem pendingProvisionings_eq_zero (hclear : db.LeasesReleased) {productId vpsProviderId : Option Uuid}
    (hended : ∀ r ∈ db.provisionings, productId.all (· = r.productId) = true →
      vpsProviderId.all (· = r.vpsProviderId) = true → r.isOpen = false) :
    db.pendingProvisionings productId vpsProviderId = 0 := by
  rw [pendingProvisionings_eq hclear, List.countP_eq_zero]
  intro r hr hcounted
  simp only [Bool.and_eq_true] at hcounted
  have hclosed := hended r hr hcounted.1.1 hcounted.1.2
  rw [hclosed] at hcounted
  exact absurd hcounted.2 (by decide)

end Steps

/-- In every run that gives up no row still reserved, ended creations hold no lease; so the pending
creations are the open ones, and a product, a link or a provider without open creations is never
reported as having a pending one. -/
theorem leases_released_of_reserved_spared {env : Env} {db db' : Database} {es : List Transition}
    (hstart : db.LeasesReleased)
    (hrun : Run (fun db e db' => DatabaseStep env db e db' ∧ e.SparesReserved db) db es db') :
    db'.LeasesReleased ∧
    (∀ productId vpsProviderId, db'.pendingProvisionings productId vpsProviderId =
      db'.provisionings.rows.countP fun row => productId.all (· = row.productId) &&
        vpsProviderId.all (· = row.vpsProviderId) && row.isOpen) ∧
    (∀ product : Product, (∀ r ∈ db'.provisionings, r.productId = product.id → r.isOpen = false) →
      ∀ providerId, .provisioningPending ∉ db'.legacyBlockers product providerId ∧
        .provisioningPending ∉ db'.detachBlockers product providerId) ∧
    (∀ provider : VpsProvider, (∀ r ∈ db'.provisionings, r.vpsProviderId = provider.id → r.isOpen = false) →
      ∀ now, .pendingPresent ∉ db'.removalBlockers env now provider) := by
  have hclear : db'.LeasesReleased :=
    hrun.invariant (I := Database.LeasesReleased) (fun _ _ _ hc h => h.1.leasesReleased h.2 hc) hstart
  refine ⟨hclear, pendingProvisionings_eq hclear, fun product hended providerId => ⟨?_, ?_⟩,
    fun provider hended now => ?_⟩
  · rw [provisioningPending_mem_legacyBlockers, not_not]
    exact pendingProvisionings_eq_zero hclear fun r hr hp _ => hended r hr (Eq.symm (by simpa using hp))
  · rw [provisioningPending_mem_detachBlockers, not_not]
    exact pendingProvisionings_eq_zero hclear fun r hr hp _ => hended r hr (Eq.symm (by simpa using hp))
  · rw [pendingPresent_mem_removalBlockers, not_not]
    exact pendingProvisionings_eq_zero hclear fun r hr _ hv => hended r hr (Eq.symm (by simpa using hv))

/-- The reservation of the small installation is given up before it is sent. -/
def smallAbandon : Operation := .abandon 500 smallTicket

/-- Its database once the reservation was given up. -/
def smallGivenUp : Database := commits smallEnv [smallPrepare, smallAbandon] smallDatabase

/-- Given up before it is sent, a creation ends with a lease: no creation is open any more, yet every
check reports a pending one. -/
theorem abandoned_reservation_keeps_lease :
    Run (DatabaseStep smallEnv) smallDatabase
        [.committed smallPrepare, .committed smallAbandon] smallGivenUp ∧
      ¬smallGivenUp.LeasesReleased ∧ (∀ r ∈ smallGivenUp.provisionings.rows, r.isOpen = false) ∧
      smallGivenUp.pendingProvisionings (some smallProduct.id) none = 1 ∧
      .provisioningPending ∈ smallGivenUp.legacyBlockers smallProduct smallProvider.id ∧
      .provisioningPending ∈ smallGivenUp.detachBlockers smallProduct smallProvider.id ∧
      .pendingPresent ∈ smallGivenUp.removalBlockers smallEnv 500 smallProvider := by
  refine ⟨commits_run smallEnv [smallPrepare, smallAbandon] smallDatabase, ?_, by decide, by decide,
    by decide, by decide, by decide⟩
  intro hclear
  have hrow : ∃ r ∈ smallGivenUp.provisionings.rows, r.isTerminal = true ∧ r.leaseExpiresAt ≠ none := by
    decide
  obtain ⟨r, hr, hterminal, hexpires⟩ := hrow
  exact hexpires (hclear r hr hterminal).2

/-- The creation of the small installation ends with its instance recorded. -/
def smallFinish : Operation := .finish 20 smallTicket

/-- The operations of that creation, from its reservation to its end. -/
def smallCreation : List Operation := [smallPrepare, smallMarkCreating, smallRecordCreated, smallFinish]

/-- Along a creation that is sent and finished, every step spares reserved rows: it ends, holds no lease, and is
counted as pending by no check. -/
theorem leases_released_of_reserved_spared_small :
    let db := commits smallEnv smallCreation smallDatabase
    db.provisionings.rows.map (fun r => (r.state, r.isTerminal)) = [(.committed, true)] ∧
      db.LeasesReleased ∧ db.pendingProvisionings (some smallProduct.id) none = 0 ∧
      .provisioningPending ∉ db.legacyBlockers smallProduct smallProvider.id ∧
      .provisioningPending ∉ db.detachBlockers smallProduct smallProvider.id := by
  intro db
  have hended : db.provisionings.rows.map (fun r => (r.state, r.isTerminal)) = [(.committed, true)] := by decide
  have hclosed : ∀ r ∈ db.provisionings.rows, r.isOpen = false := by decide
  have hstart : smallDatabase.LeasesReleased := fun _ hr => absurd hr List.not_mem_nil
  have hsteps := commits_run smallEnv smallCreation smallDatabase
  have hspares : ∀ e ∈ smallCreation.map Transition.committed, ∀ db, e.SparesReserved db := by
    intro e he db now ticket row habandon
    simp [habandon, smallCreation, smallPrepare, smallMarkCreating, smallRecordCreated, smallFinish] at he
  obtain ⟨hreleased, hcount, hproduct, -⟩ := leases_released_of_reserved_spared hstart
    ((hsteps.restrict hspares).mono fun _ _ _ h => ⟨h.1, h.2 _⟩)
  have hchecks := hproduct smallProduct (fun r hr _ => hclosed r hr) smallProvider.id
  refine ⟨hended, hreleased, ?_, hchecks.1, hchecks.2⟩
  rw [hcount, List.countP_eq_zero]
  intro r hr hpending
  rw [hclosed r hr, Bool.and_false] at hpending
  cases hpending

end ConnectHub
