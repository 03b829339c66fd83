import ConnectHub.CleanupInvariant
import ConnectHub.Occupancy

/-!
# A compensation comes to its end

Executors carry tickets, claimed rows and instances from one statement to the next while others move. What they
carry stays true of the creation for as long as it is open, and that is all a removal needs: when it owns its
creation, it finds the creation's instance, and one transaction ends the creation, removes the instance, and
leaves nothing that holds the name or the slot.
-/

namespace ConnectHub

open Store

/-- What executors rely on while others move: creations stay, and one that is open was open, with the same
columns, and names what it named. -/
structure Database.Follows (db db' : Database) : Prop where
  kept : ∀ k, db.provisionings.find? k ≠ none → db'.provisionings.find? k ≠ none
  openRow : ∀ k row', db.provisionings.find? k ≠ none → db'.provisionings.find? k = some row' →
    row'.isOpen = true → ∃ row, db.provisionings.find? k = some row ∧ row.isOpen = true ∧
      row.productId = row'.productId ∧ row.vpsProviderId = row'.vpsProviderId ∧
        ∀ x, row.instanceId = some x → row'.instanceId = some x

/-- A ticket was issued for a creation which, for as long as it is open, is of the ticket's product and provider
and names the instance that its executor knows of. -/
structure Database.Issued (db : Database) (ticket : ProvisioningTicket) (known : Option Uuid) : Prop where
  present : db.provisionings.find? ticket.id ≠ none
  right : ∀ row, db.provisionings.find? ticket.id = some row → row.isOpen = true →
    row.productId = ticket.productId ∧ row.vpsProviderId = ticket.vpsProviderId ∧
      ∀ x, known = some x → row.instanceId = some x

/-- What an executor knows at a statement. -/
def CreationTask.Knows (db : Database) : CreationTask → Prop
  | .markCreating ticket _ | .create ticket _ | .recordCreated ticket _ _ => db.Issued ticket none
  | .settle ticket _ x | .applyDefaults ticket x | .markWebhookApplied ticket x | .markCleanup ticket x
  | .revert ticket x | .removeConfirmed ticket x => db.Issued ticket (some x)
  | .fetch row => db.Issued row.ticket row.instanceId ∧ (row.state = .cleanupPending → row.instanceId ≠ none)
  | .ownBeforeDelete row | .deleteRecovered row => db.Issued row.ticket row.instanceId ∧ row.instanceId ≠ none
  | .recordRecovered row _ _ => db.Issued row.ticket none
  | .ownBeforeDefaults row | .applyRecovered row | .cleanRecovered row => ∃ x, db.Issued row.ticket (some x)
  | .prepare _ _ | .finish _ | .abandon _ | .claim _ | .markRecovered _ | .lookup _ _ | .assertDeletable _
  | .deleteConfirmed _ | .removeDeleted _ => True

section Knowledge

variable {env : Env} {db db' : Database} {op : Operation} {outcome : Outcome} {ticket : ProvisioningTicket}
  {known : Option Uuid} {x : Uuid} {row : InstanceProvisioning} {task : CreationTask} {input : CreationInput}

/-- Nothing is what everything follows. -/
theorem Database.Follows.refl (db : Database) : db.Follows db :=
  ⟨fun _ h => h, fun _ row' _ h hopen => ⟨row', h, hopen, rfl, rfl, fun _ hx => hx⟩⟩

/-- Operations of informed executors keep what the others rely on. -/
theorem CleanupInvariant.follows (h : CleanupInvariant db) (hinformed : op.Informed db)
    (heffect : Effect env db op outcome db') : db.Follows db' := by
  refine ⟨fun k hpresent => ?_, fun k row' hpresent hrow' hopen => ?_⟩
  · obtain ⟨row, hrow⟩ := Option.ne_none_iff_exists'.mp hpresent
    obtain ⟨row', hrow', -⟩ := heffect.row_change hrow
    simp [hrow']
  · obtain ⟨row, hrow⟩ := Option.ne_none_iff_exists'.mp hpresent
    obtain ⟨changed, hchanged, hchange⟩ := heffect.row_change hrow
    have hsame : changed = row' := Option.some.inj (hchanged.symm.trans hrow')
    subst hsame
    refine ⟨row, hrow, hchange.isOpen_before hopen, hchange.productId_eq.symm, hchange.claim_eq.1.symm,
      fun x hx => ?_⟩
    rw [(h.keeps_name hinformed heffect hrow hrow' hchange hopen (by simp [hx])).1]
    exact hx

/-- So does what happens besides. -/
theorem Database.LeavesCreations.follows (h : db.LeavesCreations db') : db.Follows db' := by
  refine ⟨fun k hpresent hgone => ?_, fun k row' _ hrow' hopen => ?_⟩
  · have hrows := h.rows k
    rw [hgone, Option.map_none, eq_comm, Option.map_eq_none_iff] at hrows
    exact hpresent hrows
  · have hrows := h.rows k
    rw [hrow', Option.map_some] at hrows
    obtain ⟨row, hrow, hcolumns⟩ := Option.map_eq_some_iff.mp hrows.symm
    simp only [Prod.mk.injEq] at hcolumns
    obtain ⟨hproduct, hprovider, -, hstate, hinstance⟩ := hcolumns
    refine ⟨row, hrow, ?_, hproduct, hprovider, fun x hx => hinstance.symm.trans hx⟩
    unfold InstanceProvisioning.isOpen at hopen ⊢
    rw [hstate]
    exact hopen

/-- What a ticket was issued for stays so. -/
theorem Database.Issued.follows (h : db.Issued ticket known) (hfollows : db.Follows db') :
    db'.Issued ticket known := by
  refine ⟨hfollows.kept _ h.present, fun row' hrow' hopen' => ?_⟩
  obtain ⟨row, hrow, hopen, hproduct, hprovider, hnamed⟩ := hfollows.openRow _ row' h.present hrow' hopen'
  have hright := h.right row hrow hopen
  rw [hproduct, hprovider] at hright
  exact ⟨hright.1, hright.2.1, fun x hx => hnamed x (hright.2.2 x hx)⟩

/-- Who knows the instance knows the creation. -/
theorem Database.Issued.forget (h : db.Issued ticket known) : db.Issued ticket none := by
  refine ⟨h.present, fun row hrow hopen => ?_⟩
  have hright := h.right row hrow hopen
  exact ⟨hright.1, hright.2.1, fun x hx => by cases hx⟩

/-- What an executor knows survives what others do. -/
theorem CreationTask.Knows.follows (h : task.Knows db) (hfollows : db.Follows db') : task.Knows db' := by
  cases task with
  | markCreating | create | recordCreated | settle | applyDefaults | markWebhookApplied | markCleanup | revert
  | removeConfirmed | recordRecovered => exact Database.Issued.follows h hfollows
  | fetch | ownBeforeDelete | deleteRecovered => exact ⟨h.1.follows hfollows, h.2⟩
  | ownBeforeDefaults | applyRecovered | cleanRecovered =>
    obtain ⟨x, hissued⟩ := h
    exact ⟨x, hissued.follows hfollows⟩
  | prepare | finish | abandon | claim | markRecovered | lookup | assertDeletable | deleteConfirmed
  | removeDeleted => trivial

/-- A reservation issues its ticket. -/
theorem Effect.prepare_issued {now : Instant} {execution : QrRequestContext} {productId providerId : Uuid}
    {seen : Preflight} {payload : ProvisioningPayload} {instanceName : String} {ticketId leaseOwner : Uuid}
    (h : Effect env db
      (.prepare now execution productId providerId seen payload instanceName ticketId leaseOwner)
      { ticket := some ticket } db') : db'.Issued ticket none := by
  cases h with
  | prepared _ _ _ _ _ _ hinserted =>
    have hreserved := Table.find?_key ((Table.mem_insert? hinserted).mpr (Or.inr rfl))
    refine ⟨fun hnone => ?_, fun row hrow _ => ?_⟩
    · cases hnone.symm.trans hreserved
    · rw [Option.some.inj (hrow.symm.trans hreserved)]
      exact ⟨rfl, rfl, fun x hx => by cases hx⟩

/-- Recording a create teaches the instance of the creation. -/
theorem Effect.record_issued {now : Instant} {result : InstanceCreatedDto} {instanceId : Uuid}
    (h : Effect env db (.recordCreated now ticket result instanceId) { instanceId := some x } db')
    (hissued : db'.Issued ticket none) : db'.Issued ticket (some x) := by
  refine ⟨hissued.present, fun row' hrow' hopen' => ?_⟩
  have hright := hissued.right row' hrow' hopen'
  refine ⟨hright.1, hright.2.1, fun y hy => ?_⟩
  rw [← Option.some.inj hy]
  cases h with
  | recordedAgain howns hrecorded =>
    rw [← Option.some.inj (howns.found.symm.trans hrow')]
    exact hrecorded
  | recorded howns =>
    have hid : row'.id = ticket.id := (Table.find?_eq_some.mp hrow').2
    rw [advanceOccupancy_provisionings, find?_updateProvisioning] at hrow'
    obtain ⟨row, -, hchanged⟩ := Option.map_eq_some_iff.mp hrow'
    by_cases htarget : row.id = ticket.id
    · rw [if_pos htarget] at hchanged
      rw [← hchanged]
      rfl
    · rw [if_neg htarget] at hchanged
      rw [hchanged] at htarget
      exact absurd hid htarget

/-- A claim returns the row as it took it over. -/
theorem claim_found {now : Instant} {execution : QrRequestContext} {id leaseOwner : Uuid}
    (h : (claim now execution id leaseOwner).run db = .ok (some row, db')) :
    db'.provisionings.find? row.id = some row := by
  simp only [claim, get_bind_ok] at h
  cases hfound : db.provisionings.find? id with
  | none =>
    simp only [hfound, pure_ok] at h
    cases h
  | some before =>
    simp only [hfound, lockProvider_bind_ok] at h
    obtain ⟨_, _, h⟩ := h
    split at h
    · cases pure_ok.mp h
    · simp only [assertActive_bind_ok, get_bind_ok] at h
      obtain ⟨-, h⟩ := h
      split at h
      · simp only [set_bind_ok, advanceOccupancy_bind_ok] at h
        cases pure_ok.mp h.2
      · simp only [set_bind_ok] at h
        cases pure_ok.mp h
        have hid : before.id = id := (Table.find?_eq_some.mp hfound).2
        change (db.updateProvisioning id (·.taken now execution leaseOwner)).provisionings.find? before.id = _
        rw [find?_updateProvisioning, hid, hfound, Option.map_some, if_pos hid]

/-- Confirming a lease changes nothing. -/
theorem assertOwned_ok {now : Instant} {owned : InstanceProvisioning}
    (h : (assertOwned now ticket).run db = .ok (owned, db')) : db' = db := by
  simp only [assertOwned, lockProvider_bind_ok, owned_bind_ok, throwWhen_bind_ok] at h
  obtain ⟨_, _, _, _, _, h⟩ := h
  cases pure_ok.mp h
  rfl

end Knowledge

/-- What a statement leaves: the invariant, what the others rely on, and what the executor knows next. -/
structure CreationKeeps (db : Database) (r : Database × Option CreationTask) : Prop where
  holds : CleanupInvariant r.1
  follows : db.Follows r.1
  knows : ∀ task ∈ r.2, task.Knows r.1

section Statements

variable {env : Env} {db db' : Database} {ticket : ProvisioningTicket} {x : Uuid}
  {row : InstanceProvisioning} {task : CreationTask} {next : Option CreationTask} {input : CreationInput}
  {payload : ProvisioningPayload}

/-- A statement that changes nothing keeps what its executor knows next. -/
theorem creationKeeps_read (h : CleanupInvariant db) (hnext : ∀ task ∈ next, task.Knows db) :
    CreationKeeps db (db, next) :=
  ⟨h, .refl db, hnext⟩

/-- So does one that goes on with one statement. -/
theorem creationKeeps_goOn (h : CleanupInvariant db) (hnext : task.Knows db) :
    CreationKeeps db (db, some task) := by
  refine creationKeeps_read h fun other hother => ?_
  rw [← Option.some.inj hother]
  exact hnext

/-- The transaction of an operation whose executor is informed. -/
theorem creationKeeps_transact {α : Type} {tx : Tx α} {ok : α → Option CreationTask}
    {fail : HubError → Option CreationTask} (env : Env) (op : Operation) (f : α → Outcome)
    (h : CleanupInvariant db)
    (hperform : perform env op = tx >>= fun a => pure (f a)) (hinformed : op.Informed db)
    (hok : ∀ a db', tx.run db = .ok (a, db') → Effect env db op (f a) db' → CleanupInvariant db' →
      db.Follows db' → ∀ task ∈ ok a, task.Knows db')
    (hfail : ∀ e, ∀ task ∈ fail e, task.Knows db) : CreationKeeps db (transact db tx ok fail) := by
  unfold transact
  cases hrun : tx.run db with
  | error e => exact creationKeeps_read h (hfail e)
  | ok r =>
    obtain ⟨a, db'⟩ := r
    have heffect : Effect env db op (f a) db' := by
      refine perform_effect ?_
      rw [hperform]
      exact bind_ok.mpr ⟨a, db', hrun, pure_ok.mpr rfl⟩
    have hholds := h.effect hinformed heffect
    have hfollows := h.follows hinformed heffect
    exact ⟨hholds, hfollows, hok a db' hrun heffect hholds hfollows⟩

/-- A transaction after which the executor need know nothing. -/
theorem creationKeeps_end {α : Type} {tx : Tx α} {ok : α → Option CreationTask}
    {fail : HubError → Option CreationTask} (env : Env) (op : Operation) (f : α → Outcome)
    (h : CleanupInvariant db)
    (hperform : perform env op = tx >>= fun a => pure (f a)) (hinformed : op.Informed db)
    (hok : ∀ a db', ∀ task ∈ ok a, task.Knows db') (hfail : ∀ e db', ∀ task ∈ fail e, task.Knows db') :
    CreationKeeps db (transact db tx ok fail) :=
  creationKeeps_transact env op f h hperform hinformed (fun a db' _ _ _ _ => hok a db') fun e => hfail e db

/-- Confirming a lease keeps what is known. -/
theorem creationKeeps_assertOwned {now : Instant} {ok : InstanceProvisioning → Option CreationTask}
    {fail : HubError → Option CreationTask} (h : CleanupInvariant db)
    (hok : ∀ a, ∀ task ∈ ok a, task.Knows db) (hfail : ∀ e, ∀ task ∈ fail e, task.Knows db) :
    CreationKeeps db (transact db (assertOwned now ticket) ok fail) := by
  unfold transact
  cases hrun : (assertOwned now ticket).run db with
  | error e => exact creationKeeps_read h (hfail e)
  | ok r =>
    obtain ⟨a, db'⟩ := r
    have hsame : db' = db := assertOwned_ok hrun
    subst hsame
    exact creationKeeps_read h (hok a)

/-- An executor that knows the instance of its creation may start a compensation. -/
theorem Database.Issued.informed_cleanup (h : db.Issued ticket (some x)) :
    (Operation.markCleanup ticket).Informed db := by
  intro row howns
  rw [(h.right row howns.found howns.isOpen).2.2 x rfl]
  simp

/-- And it may remove that instance. -/
theorem Database.Issued.informed_remove (h : db.Issued ticket (some x)) (productId providerId : Uuid) :
    (Operation.removeConfirmed x productId providerId (some ticket)).Informed db :=
  fun row howns => (h.right row howns.found howns.isOpen).2.2 x rfl

/-- What follows a required default that failed. -/
theorem afterDefaults_knows {failure : Failure} (h : db.Issued ticket (some x)) :
    (afterDefaults input ticket x failure).Knows db := by
  unfold afterDefaults
  split
  · trivial
  · exact h

/-- What follows the remote delete of a compensation. -/
theorem afterRevert_knows {answer : Except Failure Unit} (h : db.Issued ticket (some x)) :
    (afterRevert input ticket x answer).Knows db := by
  unfold afterRevert
  split
  · exact h
  · split
    · trivial
    · split
      · exact h
      · trivial

/-- What follows the record of a create. -/
theorem settle_knows (h : db.Issued ticket (some x)) : (settle input ticket payload x).Knows db := by
  unfold settle
  split
  · trivial
  · split
    · trivial
    · split
      · trivial
      · split
        · exact h
        · trivial

/-- A removal of the instance a claimed row names knows it. -/
theorem removeNamed_knows (h : db.Issued row.ticket row.instanceId) : (removeNamed row).Knows db := by
  unfold removeNamed
  split
  · next x hnamed =>
    rw [hnamed] at h
    exact h
  · trivial

/-- What recovery does with the sessions it read. -/
theorem afterFetch_knows {listed : List (InstanceDto × RemoteSession)}
    (h : (CreationTask.fetch row).Knows db) : (afterFetch input row payload listed).Knows db := by
  obtain ⟨hissued, hnamed⟩ := h
  unfold afterFetch
  split
  · split
    · exact removeNamed_knows hissued
    · trivial
  · split
    · trivial
    · split
      · next hstate => exact ⟨hissued, hnamed hstate⟩
      · exact hissued.forget

/-- Every statement keeps the invariant and what the others rely on, and goes on knowing enough. -/
theorem CreationTask.run_keeps (input : CreationInput) (h : CleanupInvariant db) (hknows : task.Knows db) :
    CreationKeeps db (task.run env input db) := by
  have hsome : ∀ {other : CreationTask} {db' : Database}, other.Knows db' → ∀ t ∈ some other, t.Knows db' := by
    intro other db' hother t ht
    rw [← Option.some.inj ht]
    exact hother
  have hnone : ∀ {db' : Database}, ∀ t ∈ (none : Option CreationTask), t.Knows db' := by
    intro db' t ht
    cases ht
  cases task with
  | prepare productId instanceName =>
    simp only [CreationTask.run]
    split
    · exact creationKeeps_read h hnone
    · next existing _ =>
      exact creationKeeps_end env (.removeConfirmed existing.id productId existing.vpsProviderId none)
        (fun _ => {}) h rfl trivial (fun _ _ => hsome trivial) fun _ _ => hnone
    · next providerId seen payload _ =>
      refine creationKeeps_transact env (.prepare input.now input.execution productId providerId seen payload
        instanceName input.id input.leaseOwner) (fun result => { ticket := some result.1 }) h rfl trivial
        (fun result db' _ heffect _ _ => hsome heffect.prepare_issued) fun e t ht => ?_
      split at ht
      · rw [← Option.some.inj ht]
        trivial
      · cases ht
  | markCreating ticket payload =>
    refine creationKeeps_transact env (.markCreating input.now input.execution ticket) (fun _ => {}) h rfl
      trivial (fun _ db' _ _ _ hfollows => hsome ?_) fun _ => hsome trivial
    exact Database.Issued.follows hknows hfollows
  | create ticket payload =>
    simp only [CreationTask.run]
    split
    · exact creationKeeps_goOn h hknows
    · exact creationKeeps_goOn h trivial
  | recordCreated ticket payload result =>
    refine creationKeeps_transact env (.recordCreated input.now ticket result input.id)
      (fun item => { instanceId := some item.id }) h rfl trivial
      (fun item db' _ heffect _ hfollows => hsome ?_) fun _ => hsome trivial
    exact heffect.record_issued (Database.Issued.follows hknows hfollows)
  | settle ticket payload x => exact creationKeeps_goOn h (settle_knows hknows)
  | applyDefaults ticket x =>
    simp only [CreationTask.run]
    split
    · exact creationKeeps_goOn h hknows
    · exact creationKeeps_goOn h (afterDefaults_knows hknows)
  | markWebhookApplied ticket x =>
    exact creationKeeps_transact env (.markWebhookApplied ticket) (fun _ => {}) h rfl trivial
      (fun _ _ _ _ _ _ => hsome trivial) fun _ => hsome (afterDefaults_knows hknows)
  | markCleanup ticket x =>
    refine creationKeeps_transact env (.markCleanup ticket) (fun _ => {}) h rfl
      (Database.Issued.informed_cleanup hknows) (fun _ db' _ _ _ hfollows => hsome ?_) fun _ => hsome trivial
    exact Database.Issued.follows hknows hfollows
  | revert ticket x => exact creationKeeps_goOn h (afterRevert_knows hknows)
  | removeConfirmed ticket x =>
    exact creationKeeps_end env (.removeConfirmed x ticket.productId ticket.vpsProviderId (some ticket))
      (fun _ => {}) h rfl (Database.Issued.informed_remove hknows _ _) (fun _ _ => hsome trivial)
      fun _ _ => hsome trivial
  | finish ticket =>
    exact creationKeeps_end env (.finish input.now ticket) (fun _ => {}) h rfl trivial
      (fun _ _ => hsome trivial) fun _ _ => hsome trivial
  | abandon ticket =>
    exact creationKeeps_end env (.abandon input.now ticket) (fun _ => {}) h rfl trivial (fun _ _ => hnone)
      fun _ _ => hnone
  | claim id =>
    refine creationKeeps_transact env (.claim input.now input.execution id input.leaseOwner)
      (fun row => { ticket := row.map (·.ticket), instanceId := row.bind (·.instanceId) }) h rfl trivial
      (fun claimed db' hrun _ hholds _ t ht => ?_) fun _ => hnone
    obtain ⟨row, hclaimed, hrow⟩ := Option.map_eq_some_iff.mp ht
    rw [hclaimed] at hrun
    have hfound : db'.provisionings.find? row.id = some row := claim_found hrun
    rw [← hrow]
    refine ⟨⟨?_, fun other hother _ => ?_⟩, fun hstate => ?_⟩
    · intro hgone
      cases hgone.symm.trans hfound
    · rw [Option.some.inj (hother.symm.trans hfound)]
      exact ⟨rfl, rfl, fun x hx => hx⟩
    · exact hholds.cleaning row (Table.find?_eq_some.mp hfound).1 hstate
  | fetch row =>
    simp only [CreationTask.run]
    split
    · exact creationKeeps_goOn h (afterFetch_knows hknows)
    · exact creationKeeps_goOn h trivial
  | ownBeforeDelete row => exact creationKeeps_assertOwned h (fun _ => hsome hknows) fun _ => hsome trivial
  | deleteRecovered row =>
    simp only [CreationTask.run]
    split
    · exact creationKeeps_goOn h (removeNamed_knows hknows.1)
    · exact creationKeeps_goOn h trivial
  | recordRecovered row payload result =>
    refine creationKeeps_transact env (.recordCreated input.now row.ticket result input.id)
      (fun item => { instanceId := some item.id }) h rfl trivial
      (fun item db' _ heffect _ hfollows => hsome ?_) fun _ => hsome trivial
    have hissued := heffect.record_issued (Database.Issued.follows hknows hfollows)
    unfold afterRecovered
    split
    · trivial
    · split
      · exact ⟨item.id, hissued⟩
      · trivial
  | ownBeforeDefaults row => exact creationKeeps_assertOwned h (fun _ => hsome hknows) fun _ => hsome trivial
  | applyRecovered row =>
    refine creationKeeps_goOn h ?_
    unfold afterApplied
    split
    · trivial
    · split
      · exact hknows
      · trivial
  | cleanRecovered row =>
    obtain ⟨x, hissued⟩ := hknows
    exact creationKeeps_end env (.markCleanup row.ticket) (fun _ => {}) h rfl hissued.informed_cleanup
      (fun _ _ => hsome trivial) fun _ _ => hsome trivial
  | markRecovered row =>
    exact creationKeeps_end env (.markWebhookApplied row.ticket) (fun _ => {}) h rfl trivial
      (fun _ _ => hsome trivial) fun _ _ => hsome trivial
  | lookup productId instanceId =>
    simp only [CreationTask.run]
    split
    · exact creationKeeps_goOn h trivial
    · exact creationKeeps_read h hnone
  | assertDeletable item =>
    simp only [CreationTask.run]
    split
    · exact creationKeeps_read h hnone
    · exact creationKeeps_goOn h trivial
  | deleteConfirmed item =>
    simp only [CreationTask.run, afterDelete]
    split
    · exact creationKeeps_goOn h trivial
    · split
      · exact creationKeeps_goOn h trivial
      · exact creationKeeps_read h hnone
  | removeDeleted item =>
    exact creationKeeps_end env (.removeConfirmed item.id item.productId item.vpsProviderId none) (fun _ => {})
      h rfl trivial (fun _ _ => hnone) fun _ _ => hnone

end Statements

/-- A compensation that came to its end: its creation is closed as failed, its instance is gone and so is what
the last inventory listed under its name, the change of occupancy is counted, and of all names that occupied
the provider exactly this one is free again, so that a new creation may reserve it. -/
structure Released (db : Database) (row : InstanceProvisioning) (item : Instance) (db' : Database) : Prop where
  closed : db'.provisionings.find? row.id = some row.detached.cleaned
  instances : ∀ i, i ∈ db'.instances ↔ i ∈ db.instances ∧ i ≠ item
  inventory : ∀ e, e ∈ db'.inventory ↔ e ∈ db.inventory ∧
    ¬(e.vpsProviderId = row.vpsProviderId ∧ e.instanceName = row.instanceName)
  counted : (db'.providers.find? row.vpsProviderId).map (·.occupancyRevision) =
    (db.providers.find? row.vpsProviderId).map (·.occupancyRevision + 1)
  occupied : db'.occupiedNames row.vpsProviderId = (db.occupiedNames row.vpsProviderId).erase row.instanceName
  instances_free : db'.InstanceNameFree row.productId row.vpsProviderId row.instanceName
  open_free : db'.OpenNameFree row.productId row.vpsProviderId row.instanceName
  inventory_free : db'.InventoryNameFree row.vpsProviderId row.instanceName

/-- The database after a compensation removed its instance. -/
def Database.compensated (db : Database) (ticket : ProvisioningTicket) (item : Instance) : Database :=
  ((db.dropInstance item).updateProvisioning ticket.id (·.cleaned)
    InstanceProvisioning.cleaned_id).advanceOccupancy ticket.vpsProviderId

section Removal

variable {env : Env} {db db' : Database} {ticket : ProvisioningTicket} {row r : InstanceProvisioning}
  {item i : Instance} {x : Uuid}

/-- The instances after a compensation are the others. -/
theorem mem_compensated_instances (hitem : item ∈ db.instances) :
    i ∈ (db.compensated ticket item).instances ↔ i ∈ db.instances ∧ i ≠ item := by
  change i ∈ (db.dropInstance item).instances ↔ _
  rw [mem_dropInstance_instances]
  refine and_congr_right fun hi => not_congr ⟨fun hid => ?_, fun hsame => ?_⟩
  · exact Table.eq_of_key_eq hi hitem hid
  · rw [hsame]

/-- So is the inventory but for what it listed under the name. -/
theorem mem_compensated_inventory {e : EvolutionInventoryEntry} :
    e ∈ (db.compensated ticket item).inventory ↔ e ∈ db.inventory ∧
      ¬(e.vpsProviderId = item.vpsProviderId ∧ e.instanceName = item.instanceName) := by
  change e ∈ db.inventory.remove _ ↔ _
  simp only [Table.mem_remove, Bool.and_eq_false_iff, decide_eq_false_iff_not, not_and_or]

/-- The creations are those there were, one of them closed. -/
theorem mem_compensated_provisionings : r ∈ (db.compensated ticket item).provisionings ↔
    ∃ s ∈ (db.dropInstance item).provisionings, (if s.id = ticket.id then s.cleaned else s) = r := by
  change r ∈ ((db.dropInstance item).updateProvisioning ticket.id (·.cleaned)).provisionings ↔ _
  exact mem_updateProvisioning

/-- A creation that is open after a compensation was open, and is another one. -/
theorem open_before_compensated (hr : r ∈ (db.compensated ticket item).provisionings)
    (hopen : r.isOpen = true) :
    ∃ s ∈ db.provisionings, s.isOpen = true ∧ s.slot = r.slot ∧ s.id ≠ ticket.id := by
  obtain ⟨dropped, hdropped, hchanged⟩ := mem_compensated_provisionings.mp hr
  obtain ⟨s, hs, hdetached⟩ := mem_dropInstance_provisionings.mp hdropped
  by_cases htarget : dropped.id = ticket.id
  · rw [if_pos htarget] at hchanged
    rw [← hchanged] at hopen
    cases hopen
  · rw [if_neg htarget] at hchanged
    rw [← hchanged, ← hdetached] at hopen ⊢
    rw [← hdetached] at htarget
    refine ⟨s, hs, ?_⟩
    by_cases hnamed : s.instanceId = some item.id
    · rw [if_pos hnamed] at hopen htarget ⊢
      exact ⟨hopen, rfl, htarget⟩
    · rw [if_neg hnamed] at hopen htarget ⊢
      exact ⟨hopen, rfl, htarget⟩

/-- Another creation that was open is open after it. -/
theorem open_after_compensated (item : Instance) (hr : r ∈ db.provisionings) (hopen : r.isOpen = true)
    (hid : r.id ≠ ticket.id) : ∃ s ∈ (db.compensated ticket item).provisionings, s.isOpen = true ∧ s.slot = r.slot := by
  by_cases hnamed : r.instanceId = some item.id
  · have hdropped : r.detached ∈ (db.dropInstance item).provisionings :=
      mem_dropInstance_provisionings.mpr ⟨r, hr, if_pos hnamed⟩
    exact ⟨r.detached, mem_compensated_provisionings.mpr ⟨_, hdropped, if_neg hid⟩, hopen, rfl⟩
  · have hdropped : r ∈ (db.dropInstance item).provisionings :=
      mem_dropInstance_provisionings.mpr ⟨r, hr, if_neg hnamed⟩
    exact ⟨r, mem_compensated_provisionings.mpr ⟨_, hdropped, if_neg hid⟩, hopen, rfl⟩

/-- A compensation changes no column of a provider but its occupancy revision. -/
theorem provider_compensated (db : Database) (ticket : ProvisioningTicket) (item : Instance) (id : Uuid) :
    (db.compensated ticket item).providers.find? id = (db.providers.find? id).map fun p =>
      if p.id = ticket.vpsProviderId then { p with occupancyRevision := p.occupancyRevision + 1 } else p :=
  find?_advanceOccupancy _ _ _

/-- What was proved absent on a provider stays so. -/
theorem provedAbsent_compensated (db : Database) (ticket : ProvisioningTicket) (item i : Instance) (id : Uuid) :
    (db.compensated ticket item).provedAbsent id i = db.provedAbsent id i := by
  refine provedAbsent_congr ?_ rfl
  rw [provider_compensated, Option.map_map]
  congr 1
  funext p
  rw [Function.comp_apply]
  split <;> rfl

/-- Of the names that occupy its provider, a compensation frees that of its instance. -/
theorem CleanupInvariant.occupied_compensated (h : CleanupInvariant db) (howns : db.Owns ticket row)
    (hitem : item ∈ db.instances) (hnames : row.NamesOwn item) :
    (db.compensated ticket item).occupiedNames row.vpsProviderId =
      (db.occupiedNames row.vpsProviderId).erase row.instanceName := by
  have hmem : row ∈ db.provisionings := (Table.find?_eq_some.mp howns.found).1
  ext name
  rw [Finset.mem_erase, mem_occupiedNames, mem_occupiedNames]
  constructor
  · intro hafter
    rcases hafter with ⟨e, he, hprovider, hname⟩ | ⟨i, hi, hprovider, habsent, hname⟩ |
      ⟨r, hr, hprovider, hopen, hname⟩
    · obtain ⟨hmem', hother⟩ := mem_compensated_inventory.mp he
      rw [hnames.vpsProviderId, hnames.instanceName] at hother
      refine ⟨fun hsame => hother ⟨hprovider, hname.trans hsame⟩, Or.inl ⟨e, hmem', hprovider, hname⟩⟩
    · obtain ⟨hmem', hother⟩ := (mem_compensated_instances hitem).mp hi
      rw [provedAbsent_compensated] at habsent
      refine ⟨fun hsame => hother ?_, Or.inr (Or.inl ⟨i, hmem', hprovider, habsent, hname⟩)⟩
      refine h.names.instances i hmem' item hitem ⟨?_, Or.inl ?_⟩
      · exact (hname.trans hsame).trans hnames.instanceName.symm
      · exact hprovider.trans hnames.vpsProviderId.symm
    · obtain ⟨s, hs, hopen', hslot, hid⟩ := open_before_compensated hr hopen
      simp only [InstanceProvisioning.slot, Prod.mk.injEq] at hslot
      obtain ⟨-, -, hprovider', hname'⟩ := hslot
      refine ⟨fun hsame => hid ?_,
        Or.inr (Or.inr ⟨s, hs, hprovider'.trans hprovider, hopen', hname'.trans hname⟩)⟩
      have hone : s = row := h.names.rows s hs hopen' row hmem howns.isOpen
        ⟨(hname'.trans hname).trans hsame, Or.inl (hprovider'.trans hprovider)⟩
      rw [hone, howns.id_eq]
  · intro hbefore
    obtain ⟨hne, hbefore⟩ := hbefore
    rcases hbefore with ⟨e, he, hprovider, hname⟩ | ⟨i, hi, hprovider, habsent, hname⟩ |
      ⟨r, hr, hprovider, hopen, hname⟩
    · refine Or.inl ⟨e, mem_compensated_inventory.mpr ⟨he, fun hsame => hne ?_⟩, hprovider, hname⟩
      exact hname.symm.trans (hsame.2.trans hnames.instanceName)
    · refine Or.inr (Or.inl ⟨i, (mem_compensated_instances hitem).mpr ⟨hi, fun hsame => hne ?_⟩, hprovider, ?_,
        hname⟩)
      · rw [← hname, hsame, hnames.instanceName]
      · rw [provedAbsent_compensated]
        exact habsent
    · have hid : r.id ≠ ticket.id := by
        intro hsame
        have hone : r = row := Table.eq_of_key_eq hr hmem (hsame.trans howns.id_eq.symm)
        exact hne (hname.symm.trans (congrArg InstanceProvisioning.instanceName hone))
      obtain ⟨s, hs, hopen', hslot⟩ := open_after_compensated item hr hopen hid
      simp only [InstanceProvisioning.slot, Prod.mk.injEq] at hslot
      obtain ⟨-, -, hprovider', hname'⟩ := hslot
      exact Or.inr (Or.inr ⟨s, hs, hprovider'.trans hprovider, hopen', hname'.trans hname⟩)

/-- A compensation that owns its creation comes to its end. -/
theorem CleanupInvariant.released (h : CleanupInvariant db) (howns : db.Owns ticket row)
    (hitem : item ∈ db.instances) (hnames : row.NamesOwn item)
    (hproviderId : row.vpsProviderId = ticket.vpsProviderId) :
    Released db row item (db.compensated ticket item) := by
  have hmem : row ∈ db.provisionings := (Table.find?_eq_some.mp howns.found).1
  refine ⟨?_, fun i => mem_compensated_instances hitem, fun e => ?_, ?_,
    h.occupied_compensated howns hitem hnames, fun i hi hname => ?_, fun r hr hopen hname => ?_,
    fun e he hprovider hname => ?_⟩
  · change ((db.dropInstance item).updateProvisioning ticket.id (·.cleaned)).provisionings.find? row.id = _
    rw [find?_updateProvisioning, find?_dropInstance item (howns.id_eq ▸ howns.found), if_pos hnames.instanceId,
      Option.map_some]
    exact congrArg some (if_pos howns.id_eq)
  · rw [mem_compensated_inventory, hnames.vpsProviderId, hnames.instanceName]
  · rw [provider_compensated, Option.map_map]
    cases hfound : db.providers.find? row.vpsProviderId with
    | none => rfl
    | some p =>
      have hid : p.id = ticket.vpsProviderId := (Table.find?_eq_some.mp hfound).2.trans hproviderId
      rw [Option.map_some, Option.map_some, Function.comp_apply, if_pos hid]
  · obtain ⟨hmem', hother⟩ := (mem_compensated_instances hitem).mp hi
    have hname' : i.instanceName = item.instanceName := hname.trans hnames.instanceName.symm
    refine ⟨fun hp => hother ?_, fun hv => hother ?_⟩
    · exact h.names.instances i hmem' item hitem ⟨hname', Or.inr (hp.trans hnames.productId.symm)⟩
    · exact h.names.instances i hmem' item hitem ⟨hname', Or.inl (hv.trans hnames.vpsProviderId.symm)⟩
  · obtain ⟨s, hs, hopen', hslot, hid⟩ := open_before_compensated hr hopen
    simp only [InstanceProvisioning.slot, Prod.mk.injEq] at hslot
    obtain ⟨-, hproduct', hprovider', hname'⟩ := hslot
    have hapart : ¬(Claimant.pending s).Shares (.pending row) := by
      intro hshares
      rw [h.names.rows s hs hopen' row hmem howns.isOpen hshares, howns.id_eq] at hid
      exact hid rfl
    refine ⟨fun hp => hapart ⟨hname'.trans hname, Or.inr (hproduct'.trans hp)⟩,
      fun hv => hapart ⟨hname'.trans hname, Or.inl (hprovider'.trans hv)⟩⟩
  · have hother := (mem_compensated_inventory.mp he).2
    rw [hnames.vpsProviderId, hnames.instanceName] at hother
    exact hother ⟨hprovider, hname⟩

/-- A removal that owns its creation and knows its instance finds it. -/
theorem CleanupInvariant.removes (h : CleanupInvariant db) (howns : db.Owns ticket row)
    (hissued : db.Issued ticket (some x)) :
    ∃ item ∈ db.instances, row.NamesOwn item ∧ row.instanceId = some x ∧
      (removeConfirmed x ticket.productId ticket.vpsProviderId (some ticket)).run db =
        .ok (some item, db.compensated ticket item) ∧ Released db row item (db.compensated ticket item) := by
  obtain ⟨hproduct, hprovider, hknown⟩ := hissued.right row howns.found howns.isOpen
  have hmem : row ∈ db.provisionings := (Table.find?_eq_some.mp howns.found).1
  have hnamed : row.instanceId = some x := hknown x rfl
  obtain ⟨item, hitem, hnames⟩ := h.named row hmem howns.isOpen (by simp [hnamed])
  refine ⟨item, hitem, hnames, hnamed, ?_, h.released howns hitem hnames hprovider⟩
  obtain ⟨hproductFound, hproviderFound⟩ := h.placed row hmem howns.isOpen
  rw [hproduct] at hproductFound
  rw [hprovider] at hproviderFound
  obtain ⟨product, hproductRow⟩ := Option.ne_none_iff_exists'.mp hproductFound
  obtain ⟨provider, hproviderRow⟩ := Option.ne_none_iff_exists'.mp hproviderFound
  have hfound : (db.instances.find? x).filter (fun i =>
      i.productId = ticket.productId && i.vpsProviderId = ticket.vpsProviderId) = some item := by
    rw [Option.some.inj (hnamed.symm.trans hnames.instanceId), show db.instances.find? item.id = some item from
      Table.find?_key hitem, Option.filter_some]
    rw [if_pos]
    simp [hnames.productId, hnames.vpsProviderId, hproduct, hprovider]
  simp only [removeConfirmed, lockProduct_bind_ok, lockProvider_bind_ok, owned_bind_ok, get_bind_ok]
  refine ⟨product, hproductRow, provider, hproviderRow, row, howns, ?_⟩
  simp only [hfound, set_bind_ok, advanceOccupancy_bind_ok, pure_ok]
  exact ⟨hproviderFound, rfl⟩

end Removal

/-- Nothing is under way: no executor, and no open creation. -/
structure CreationsIdle (p : Pool Database CreationTask) : Prop where
  tasks : p.tasks = []
  rows : ∀ r ∈ p.shared.provisionings, r.isOpen = false
  names : p.shared.InstanceNamesUnique

/-- A recovery of a creation that reads the sessions of its provider, and finds none of its name. -/
structure FindsNone (row : InstanceProvisioning) (input : CreationInput) : Prop where
  isActive : input.execution.isActive = true
  request : ∃ payload, row.encryptedRequest = some ⟨some payload⟩ ∧ payload.token ≠ "" ∧
    payload.request.instanceName ≠ ""
  sessions : ∃ rows sessions, input.listed = .ok rows ∧ normalizeRows [] [] rows = some sessions ∧
    ∀ session ∈ sessions, session.instanceName ≠ row.instanceName

/-- One executor runs on its own, with what decides its statements one after the other. -/
def CreationTask.follow (env : Env) : List CreationInput → Database × Option CreationTask →
    Database × Option CreationTask
  | input :: inputs, (db, some task) => CreationTask.follow env inputs (task.run env input db)
  | [], s | _ :: _, s => s

section Runs

variable {env : Env} {db : Database} {p q : Pool Database CreationTask} {es : List Unit}
  {row : InstanceProvisioning} {input claiming : CreationInput} {ticket : ProvisioningTicket} {x : Uuid}

/-- What the executors of creations guarantee each other. -/
theorem creation_discipline (env : Env) : Discipline (CreationStatement env) (CreationMove env) ()
    (fun _ db => CleanupInvariant db) (fun _ db task => task.Knows db) (fun _ db _ db' => db.Follows db') where
  statement_ok := by
    intro _ db task _ db' next h hknows hrun
    obtain ⟨input, hresult⟩ := hrun
    have hkeeps : CreationKeeps db (task.run env input db) := CreationTask.run_keeps input h hknows
    rw [hresult] at hkeeps
    exact ⟨hkeeps.holds, hkeeps.follows, hkeeps.knows⟩
  environment_ok := by
    intro _ db _ db' new h hmove
    have hcommit : ∀ op : Operation, op.Informed db → CleanupInvariant (commit (perform env op) db) ∧
        db.Follows (commit (perform env op) db) := by
      intro op hinformed
      rcases commit_effect env db op with hsame | ⟨outcome, heffect⟩
      · rw [hsame]
        exact ⟨h, .refl db⟩
      · exact ⟨h.effect hinformed heffect, h.follows hinformed heffect⟩
    have hstarts : ∀ task : CreationTask, task.Knows db → ∀ t ∈ [task], t.Knows db := by
      intro task hknows t ht
      rw [List.mem_singleton.mp ht]
      exact hknows
    have hnone : ∀ {db' : Database}, ∀ t ∈ ([] : List CreationTask), t.Knows db' := by
      intro db' t ht
      cases ht
    cases hmove with
    | createInstance | recover | deleteInstance => exact ⟨h, .refl db, hstarts _ trivial⟩
    | linked data =>
      obtain ⟨hholds, hfollows⟩ := hcommit (.createLinked data) trivial
      exact ⟨hholds, hfollows, hnone⟩
    | imported data source =>
      obtain ⟨hholds, hfollows⟩ := hcommit (.importLinked data source) trivial
      exact ⟨hholds, hfollows, hnone⟩
    | beside hbeside => exact ⟨h.beside hbeside, hbeside.follows, hnone⟩
  lost_ok h := ⟨h, .refl _⟩
  stable hknows hfollows := hknows.follows hfollows

/-- In every run from rest the invariant holds, and every executor knows what it should. -/
theorem creationsRight (hidle : CreationsIdle p) (hrun : Run (CreationStep env) p es q) :
    CleanupInvariant q.shared ∧ ∀ task ∈ q.tasks, task.Knows q.shared := by
  have hclosed : ∀ r ∈ p.shared.provisionings, ¬r.isOpen = true := by
    intro r hr
    rw [hidle.rows r hr]
    exact Bool.false_ne_true
  have hbegin : CleanupInvariant p.shared := by
    refine ⟨⟨hidle.names, fun r hr hro => absurd hro (hclosed r hr), fun r hr hro => absurd hro (hclosed r hr)⟩,
      fun r hr hro => absurd hro (hclosed r hr), fun r hr hstate => ?_,
      fun r hr hro => absurd hro (hclosed r hr)⟩
    exact absurd (isOpen_of_cleanupPending hstate) (hclosed r hr)
  have hstart : p.Right (fun (_ : List Unit) db => CleanupInvariant db) (fun _ db task => task.Knows db)
      [] := by
    refine ⟨hbegin, fun task htask => ?_⟩
    rw [hidle.tasks] at htask
    cases htask
  exact hrun.right (creation_discipline env) hstart

/-- A compensation for which recovery found no session goes on to the removal of its instance. -/
theorem fetch_removes (env : Env) (hknows : (CreationTask.fetch row).Knows db)
    (hstate : row.state = .cleanupPending) {payload : ProvisioningPayload} {listed : List (InstanceDto × RemoteSession)}
    (hfetched : (fetchSessions input row).run db = .ok ((payload, listed), db))
    (hnone : ∀ found ∈ listed, found.2.instanceName ≠ row.instanceName) :
    ∃ x, row.instanceId = some x ∧
      (CreationTask.fetch row).run env input db = (db, some (.removeConfirmed row.ticket x)) := by
  obtain ⟨x, hx⟩ := Option.ne_none_iff_exists'.mp (hknows.2 hstate)
  refine ⟨x, hx, ?_⟩
  have hmissing : listed.find? (fun found => found.2.instanceName = row.instanceName) = none := by
    rw [List.find?_eq_none]
    intro found hfound hsame
    exact hnone found hfound (of_decide_eq_true hsame)
  simp only [CreationTask.run, hfetched, afterFetch, hmissing, hstate, if_true, removeNamed, hx]

/-- So does one whose remote delete succeeded. -/
theorem deleteRecovered_removes (env : Env) (hknows : (CreationTask.deleteRecovered row).Knows db)
    (hdone : input.answered = .ok ()) : ∃ x, row.instanceId = some x ∧
      (CreationTask.deleteRecovered row).run env input db = (db, some (.removeConfirmed row.ticket x)) := by
  obtain ⟨x, hx⟩ := Option.ne_none_iff_exists'.mp hknows.2
  refine ⟨x, hx, ?_⟩
  simp only [CreationTask.run, hdone, removeNamed, hx]

/-- The removal succeeds if the executor owns the creation. -/
theorem CleanupInvariant.removal (env : Env) (h : CleanupInvariant db)
    (hknows : (CreationTask.removeConfirmed ticket x).Knows db) (howns : db.Owns ticket row)
    (input : CreationInput) : ∃ item ∈ db.instances, row.NamesOwn item ∧ item.id = x ∧ ∃ db',
      (CreationTask.removeConfirmed ticket x).run env input db = (db', some (.abandon ticket)) ∧
        Released db row item db' := by
  obtain ⟨item, hitem, hnames, hnamed, hremoved, hreleased⟩ := h.removes howns hknows
  refine ⟨item, hitem, hnames, Option.some.inj (hnames.instanceId.symm.trans hnamed), _, ?_, hreleased⟩
  simp only [CreationTask.run, transact, hremoved]

/-- A lapsed compensation can be claimed. -/
theorem claim_due (h : CleanupInvariant db) (hrow : row ∈ db.provisionings)
    (hstate : row.state = .cleanupPending) (hlapsed : leaseRunning claiming.now row.leaseExpiresAt = false)
    (hactive : claiming.execution.isActive = true) :
    (claim claiming.now claiming.execution row.id claiming.leaseOwner).run db =
      .ok (some (row.taken claiming.now claiming.execution claiming.leaseOwner),
        db.updateProvisioning row.id (·.taken claiming.now claiming.execution claiming.leaseOwner)) := by
  have hopen := isOpen_of_cleanupPending hstate
  obtain ⟨provider, hprovider⟩ := Option.ne_none_iff_exists'.mp (h.placed row hrow hopen).2
  simp only [QrRequestContext.isActive, Bool.and_eq_true, Option.isNone_iff_eq_none,
    decide_eq_true_eq] at hactive
  have hreserved : row.state ≠ .reserved := by simp [hstate]
  simp only [claim, get_bind_ok, show db.provisionings.find? row.id = some row from Table.find?_key hrow,
    lockProvider_bind_ok]
  refine ⟨provider, hprovider, ?_⟩
  rw [if_neg (by simp [hopen, hlapsed]), assertActive_bind_ok, get_bind_ok, if_neg hreserved, set_bind_ok,
    pure_ok]
  exact ⟨hactive, rfl⟩

/-- A recovery that claimed it reads the sessions. -/
theorem fetchSessions_ok {claimed : InstanceProvisioning} (h : CleanupInvariant db)
    (hclaimed : claimed ∈ db.provisionings) (hopen : claimed.isOpen = true)
    (hfinds : FindsNone claimed input) :
    ∃ payload listed, (fetchSessions input claimed).run db = .ok ((payload, listed), db) ∧
      ∀ found ∈ listed, found.2.instanceName ≠ claimed.instanceName := by
  obtain ⟨payload, hrequest, hnonempty⟩ := hfinds.request
  obtain ⟨rows, sessions, hlisted, hnormal, hnone⟩ := hfinds.sessions
  obtain ⟨provider, hprovider⟩ := Option.ne_none_iff_exists'.mp (h.placed claimed hclaimed hopen).2
  have hactive := hfinds.isActive
  simp only [QrRequestContext.isActive, Bool.and_eq_true, Option.isNone_iff_eq_none,
    decide_eq_true_eq] at hactive
  refine ⟨payload, rows.zip sessions, ?_, fun found hfound => hnone _ (List.of_mem_zip hfound).2⟩
  simp only [fetchSessions, get_bind_ok, orThrow_bind_ok, decodePayload_bind_ok, assertActive_bind_ok, hlisted,
    normalizeInventory_bind_ok, pure_ok]
  exact ⟨provider, hprovider, payload, hrequest, hnonempty, hactive, sessions, hnormal, rfl⟩

/-- An executor on its own is a run, whatever else is under way. -/
theorem CreationTask.follow_run (env : Env) (inputs : List CreationInput) (s : Database × Option CreationTask)
    (rest : List CreationTask) : ∃ es, Run (CreationStep env) ⟨s.1, s.2.toList ++ rest⟩ es
      ⟨(CreationTask.follow env inputs s).1, (CreationTask.follow env inputs s).2.toList ++ rest⟩ := by
  induction inputs generalizing s with
  | nil => exact ⟨[], .nil _⟩
  | cons input inputs ih =>
    obtain ⟨db, task⟩ := s
    cases task with
    | none => exact ⟨[], .nil _⟩
    | some task =>
      obtain ⟨es, hrest⟩ := ih (task.run env input db)
      have hstep : CreationStep env ⟨db, task :: rest⟩ () ⟨(task.run env input db).1,
          (task.run env input db).2.toList ++ rest⟩ := PoolStep.first rfl ⟨input, rfl⟩
      exact ⟨() :: es, .cons hstep hrest⟩

/-- A recovery that nothing interrupts releases a compensation whose lease lapsed, if the session is gone. -/
theorem CleanupInvariant.recovers (env : Env) (h : CleanupInvariant db) (hrow : row ∈ db.provisionings)
    (hstate : row.state = .cleanupPending) (hlapsed : leaseRunning claiming.now row.leaseExpiresAt = false)
    (hactive : claiming.execution.isActive = true) (hfinds : FindsNone row input) :
    ∃ claimed item, claimed.slot = row.slot ∧ Released
      (db.updateProvisioning row.id (·.taken claiming.now claiming.execution claiming.leaseOwner)) claimed item
      (CreationTask.follow env [claiming, input, input] (db, some (.claim row.id))).1 := by
  have hclaim : (CreationTask.claim row.id).run env claiming db =
      (db.updateProvisioning row.id (·.taken claiming.now claiming.execution claiming.leaseOwner),
        some (.fetch (row.taken claiming.now claiming.execution claiming.leaseOwner))) := by
    simp only [CreationTask.run, transact, claim_due h hrow hstate hlapsed hactive, Option.map_some]
  have hclaimed : CreationKeeps db ((CreationTask.claim row.id).run env claiming db) :=
    CreationTask.run_keeps claiming h trivial
  rw [hclaim] at hclaimed
  have hholds := hclaimed.holds
  have hfound : (db.updateProvisioning row.id
      (·.taken claiming.now claiming.execution claiming.leaseOwner)).provisionings.find? row.id =
        some (row.taken claiming.now claiming.execution claiming.leaseOwner) := by
    rw [find?_updateProvisioning, show db.provisionings.find? row.id = some row from Table.find?_key hrow,
      Option.map_some, if_pos rfl]
  have hopen : (row.taken claiming.now claiming.execution claiming.leaseOwner).isOpen = true :=
    isOpen_of_cleanupPending hstate
  have hfindsClaimed : FindsNone (row.taken claiming.now claiming.execution claiming.leaseOwner) input :=
    ⟨hfinds.isActive, hfinds.request, hfinds.sessions⟩
  obtain ⟨payload, listed, hfetched, hnone⟩ :=
    fetchSessions_ok hholds (Table.find?_eq_some.mp hfound).1 hopen hfindsClaimed
  have hknows := hclaimed.knows _ rfl
  obtain ⟨x, hx, hfetch⟩ := fetch_removes env hknows hstate hfetched hnone
  have hissued := hknows.1
  rw [hx] at hissued
  obtain ⟨item, hitem, hnames, hid, db', hremoved, hreleased⟩ :=
    hholds.removal env hissued ⟨hfound, rfl, hopen⟩ input
  refine ⟨row.taken claiming.now claiming.execution claiming.leaseOwner, item, rfl, ?_⟩
  simp only [CreationTask.follow, hclaim, hfetch, hremoved]
  exact hreleased

end Runs

/-- In every state that creations, recoveries and removals reach together, next to imports and whatever else
keeps creations and instances, a creation that is being compensated names an existing instance of its own. Hence
a recovery that finds its session gone, or deletes it, goes on to the removal, and a removal that owns its
creation ends it, removes the instance, and frees the name and the slot, all at once. Such a recovery is possible
as soon as the lease of the compensation lapsed. -/
theorem compensation_released {env : Env} {p q : Pool Database CreationTask} {es : List Unit}
    (hidle : CreationsIdle p) (hrun : Run (CreationStep env) p es q) :
    (∀ row ∈ q.shared.provisionings, row.state = .cleanupPending →
      ∃ item ∈ q.shared.instances, row.NamesOwn item) ∧
    (∀ row, CreationTask.fetch row ∈ q.tasks → row.state = .cleanupPending → ∀ input payload listed,
      (fetchSessions input row).run q.shared = .ok ((payload, listed), q.shared) →
      (∀ found ∈ listed, found.2.instanceName ≠ row.instanceName) → ∃ x, row.instanceId = some x ∧
        (CreationTask.fetch row).run env input q.shared = (q.shared, some (.removeConfirmed row.ticket x))) ∧
    (∀ row, CreationTask.deleteRecovered row ∈ q.tasks → ∀ input, input.answered = .ok () →
      ∃ x, row.instanceId = some x ∧ (CreationTask.deleteRecovered row).run env input q.shared =
        (q.shared, some (.removeConfirmed row.ticket x))) ∧
    (∀ ticket x, CreationTask.removeConfirmed ticket x ∈ q.tasks → ∀ row, q.shared.Owns ticket row →
      ∀ input, ∃ item ∈ q.shared.instances, row.NamesOwn item ∧ item.id = x ∧ ∃ db',
        (CreationTask.removeConfirmed ticket x).run env input q.shared = (db', some (.abandon ticket)) ∧
          Released q.shared row item db') ∧
    (∀ row ∈ q.shared.provisionings, row.state = .cleanupPending → ∀ claiming input : CreationInput,
      leaseRunning claiming.now row.leaseExpiresAt = false → claiming.execution.isActive = true →
      FindsNone row input → ∃ claimed item es' q', claimed.slot = row.slot ∧ Run (CreationStep env) q es' q' ∧
        Released (q.shared.updateProvisioning row.id
          (·.taken claiming.now claiming.execution claiming.leaseOwner)) claimed item q'.shared) := by
  obtain ⟨hholds, hknows⟩ := creationsRight hidle hrun
  refine ⟨fun row hrow hstate => ?_, fun row htask hstate input payload listed hfetched hnone => ?_,
    fun row htask input hdone => ?_, fun ticket x htask row howns input => ?_,
    fun row hrow hstate claiming input hlapsed hactive hfinds => ?_⟩
  · exact hholds.named row hrow (isOpen_of_cleanupPending hstate) (hholds.cleaning row hrow hstate)
  · exact fetch_removes env (hknows _ htask) hstate hfetched hnone
  · exact deleteRecovered_removes env (hknows _ htask) hdone
  · exact hholds.removal env (hknows _ htask) howns input
  · obtain ⟨claimed, item, hslot, hreleased⟩ :=
      hholds.recovers env hrow hstate hlapsed hactive hfinds
    obtain ⟨es', hfollow⟩ := CreationTask.follow_run env [claiming, input, input]
      (q.shared, some (.claim row.id)) q.tasks
    have hstarted : CreationStep env q () ⟨q.shared, .claim row.id :: q.tasks⟩ :=
      .came (CreationMove.recover row.id)
    exact ⟨claimed, item, _, _, hslot, .cons hstarted hfollow, hreleased⟩

/-- A create whose required webhook fails, up to the remote delete of its compensation. -/
def smallFailing : List CreationInput :=
  let input : CreationInput :=
    { now := 0, execution := { remainingMs := 1000 }, id := smallTicket.id, leaseOwner := smallServer.id }
  [{ input with preparation := .chosen smallProvider.id ⟨smallProduct, smallProvider, [smallProvider.id]⟩
                  { smallPayload with webhook := some { url := "https://hub.test" },
                                      webhookApplied := false } },
   input,
   { input with created := .ok { instanceName := "alice", instanceId := some "remote" } },
   input,
   input,
   { input with answered := .error (.http 400 "bad request") },
   input]

/-- In the small installation that create leaves a compensation, which names its instance. -/
theorem compensation_released_small :
    (CreationTask.follow smallEnv smallFailing
        (smallDatabase, some (.prepare smallProduct.id "alice"))).1.provisionings.rows.map (·.state) =
      [.cleanupPending] ∧
    ∀ row ∈ (CreationTask.follow smallEnv smallFailing
        (smallDatabase, some (.prepare smallProduct.id "alice"))).1.provisionings, row.state = .cleanupPending →
      ∃ item ∈ (CreationTask.follow smallEnv smallFailing
        (smallDatabase, some (.prepare smallProduct.id "alice"))).1.instances, row.NamesOwn item := by
  refine ⟨by decide, ?_⟩
  have hidle : CreationsIdle ⟨smallDatabase, []⟩ :=
    ⟨rfl, fun r hr => absurd hr List.not_mem_nil, fun i hi => absurd hi List.not_mem_nil⟩
  obtain ⟨es, hfollow⟩ := CreationTask.follow_run smallEnv smallFailing
    (smallDatabase, some (.prepare smallProduct.id "alice")) []
  have hstarted : CreationStep smallEnv ⟨smallDatabase, []⟩ ()
      ⟨smallDatabase, [.prepare smallProduct.id "alice"]⟩ :=
    .came (CreationMove.createInstance smallProduct.id "alice")
  exact (compensation_released hidle (.cons hstarted hfollow)).1

end ConnectHub
