import ConnectHub.ProvisioningRows

/-!
# The life of a creation

Executors on any number of replicas hold the tickets that were issued to them and the instances
they learnt of; they may act in any order, stop at any point, and overlap once a lease ran out.
Identifiers are drawn fresh. Over every such run a creation is sent at most once, ends in one state
for good, and obeys no executor whose ticket a recovery claim has replaced.
-/

namespace ConnectHub

open Store

section States

variable {env : Env} {op : Operation} {db' : Database} {row row' : InstanceProvisioning}

/-- A creation that ended stays in the state it ended in. -/
theorem RowChange.state_of_terminal (h : RowChange env op db' row row') (hterminal : row.isTerminal = true) :
    row'.state = row.state := by
  have hclosed : row.isOpen = false := by simpa [isTerminal_eq_not_isOpen] using hterminal
  have hnot : ∀ s, row.state = s → s ∉ openProvisioningStates := by
    rintro s rfl hmem
    simp [InstanceProvisioning.isOpen, hmem] at hclosed
  cases h with
  | kept | detached => rfl
  | sent _ _ hreserved | expired hreserved => exact absurd (by decide) (hnot _ hreserved)
  | recorded | webhookMarked | taken => rfl
  | finished hawaiting =>
    rcases hawaiting with h | h <;> exact absurd (by decide) (hnot _ h)
  | cleaning hopen | abandoned _ _ _ hopen | cleaned _ _ hopen | cleanedDetached _ _ hopen =>
    simp [hclosed] at hopen

/-- A creation that is open after a change was open before it. -/
theorem RowChange.isOpen_before (h : RowChange env op db' row row') (hopen : row'.isOpen = true) :
    row.isOpen = true := by
  by_contra hended
  have hterminal : row.isTerminal = true := by
    rw [isTerminal_eq_not_isOpen, Bool.not_eq_true', ← Bool.not_eq_true]
    exact hended
  have hstate := h.state_of_terminal hterminal
  unfold InstanceProvisioning.isOpen at hopen hended
  rw [hstate] at hopen
  exact hended hopen

/-- A creation becomes committed only with its instance recorded and its webhook applied. -/
theorem RowChange.committed (h : RowChange env op db' row row') (hstate : row'.state = .committed) :
    row.state = .committed ∨ row.Confirmed := by
  cases h with
  | kept | detached | recorded | webhookMarked | taken => exact Or.inl hstate
  | finished _ hconfirmed => exact Or.inr hconfirmed
  | sent | cleaning | expired | cleaned | cleanedDetached => cases hstate
  | abandoned =>
    unfold InstanceProvisioning.abandoned at hstate
    split at hstate
    · cases hstate
    · dsimp only at hstate
      split at hstate <;> cases hstate

/-- A creation becomes failed only through a ticketed removal. -/
theorem RowChange.failed (h : RowChange env op db' row row') (hstate : row'.state = .failed) :
    row.state = .failed ∨ ∃ instanceId productId providerId ticket,
      op = .removeConfirmed instanceId productId providerId (some ticket) ∧ ticket.id = row.id := by
  cases h with
  | kept | detached | recorded | webhookMarked | taken => exact Or.inl hstate
  | cleaned hop hid | cleanedDetached hop hid => exact Or.inr ⟨_, _, _, _, hop, hid⟩
  | sent | finished | cleaning | expired => cases hstate
  | abandoned =>
    unfold InstanceProvisioning.abandoned at hstate
    split at hstate
    · cases hstate
    · dsimp only at hstate
      split at hstate <;> cases hstate

/-- A creation past its reservation, and not released, stays so. -/
theorem RowChange.sent_lasts (h : RowChange env op db' row row')
    (hsent : row.state ≠ .reserved ∧ row.state ≠ .released) :
    row'.state ≠ .reserved ∧ row'.state ≠ .released := by
  cases h with
  | kept | detached | recorded | webhookMarked | taken => exact hsent
  | sent | finished | cleaning | cleaned | cleanedDetached => exact ⟨nofun, nofun⟩
  | expired hreserved => exact absurd hreserved hsent.1
  | abandoned =>
    unfold InstanceProvisioning.abandoned
    rw [if_neg hsent.1]
    dsimp only
    split <;> exact ⟨nofun, nofun⟩

/-- The lease of a creation changes hands only to nobody, or to the owner a claim drew. -/
theorem RowChange.leaseOwner (h : RowChange env op db' row row') :
    row'.leaseOwner = row.leaseOwner ∨ row'.leaseOwner = none ∨
      ∃ now execution leaseOwner, op = .claim now execution row.id leaseOwner ∧
        row'.leaseOwner = some leaseOwner := by
  cases h with
  | kept | detached | sent | recorded | webhookMarked | cleaning => exact Or.inl rfl
  | finished | expired | cleaned | cleanedDetached => exact Or.inr (Or.inl rfl)
  | taken hop => exact Or.inr (Or.inr ⟨_, _, _, hop, rfl⟩)
  | abandoned =>
    right
    left
    unfold InstanceProvisioning.abandoned
    split <;> rfl

/-- A creation names the instance it named, none, or the one just recorded for it. -/
theorem RowChange.instanceId (h : RowChange env op db' row row') :
    row'.instanceId = row.instanceId ∨ row'.instanceId = none ∨
      (row.instanceId = none ∧ ∃ now ticket result instanceId,
        op = .recordCreated now ticket result instanceId ∧ row'.instanceId = some instanceId) := by
  cases h with
  | kept | sent | webhookMarked | finished | cleaning | expired | taken | cleaned => exact Or.inl rfl
  | detached | cleanedDetached => exact Or.inr (Or.inl rfl)
  | recorded hop _ hunrecorded => exact Or.inr (Or.inr ⟨hunrecorded, _, _, _, _, hop, rfl⟩)
  | abandoned =>
    left
    unfold InstanceProvisioning.abandoned
    split <;> rfl

/-- A creation keeps naming the instance it named, unless that instance is gone. -/
theorem RowChange.instanceId_or_bereft (h : RowChange env op db' row row') {x : Uuid}
    (hnamed : row.instanceId = some x) : row'.instanceId = some x ∨ row.Bereft db' := by
  cases h with
  | kept | sent | webhookMarked | finished | cleaning | expired | taken | cleaned => exact Or.inl hnamed
  | detached hbereft | cleanedDetached _ _ _ hbereft => exact Or.inr hbereft
  | recorded _ _ hunrecorded => cases hnamed.symm.trans hunrecorded
  | abandoned =>
    left
    unfold InstanceProvisioning.abandoned
    split <;> exact hnamed

end States

/-- The ticket an operation presents. -/
def Operation.ticket? : Operation → Option ProvisioningTicket
  | .markCreating _ _ ticket | .recordCreated _ ticket _ _ | .markWebhookApplied ticket
  | .finish _ ticket | .markCleanup ticket | .abandon _ ticket => some ticket
  | .removeConfirmed _ _ _ ticket => ticket
  | .prepare .. | .claim .. | .createLinked _ | .importLinked _ _ => none

/-- The identifiers an operation draws. -/
def Operation.draws : Operation → List Uuid
  | .prepare _ _ _ _ _ _ _ ticketId leaseOwner => [ticketId, leaseOwner]
  | .claim _ _ _ leaseOwner => [leaseOwner]
  | .recordCreated _ _ _ instanceId => [instanceId]
  | .createLinked data | .importLinked data _ => [data.id]
  | _ => []

/-- The database together with what its executors hold: the tickets issued to them, the instances
learnt under a ticket, and the identifiers drawn so far. -/
structure System where
  db : Database
  tickets : List ProvisioningTicket
  known : List (ProvisioningTicket × Uuid)
  drawn : List Uuid

/-- What an executor may do: present a ticket it was issued, compensate an instance it learnt of under
that ticket, and draw identifiers nobody drew. -/
structure System.Permits (s : System) (op : Operation) : Prop where
  fresh : ∀ id ∈ op.draws, id ∉ s.drawn
  issued : ∀ ticket, op.ticket? = some ticket → ticket ∈ s.tickets
  learnt : ∀ instanceId productId providerId ticket,
    op = .removeConfirmed instanceId productId providerId (some ticket) → (ticket, instanceId) ∈ s.known

/-- What an operation taught its executor: an instance, under the ticket it presented or was issued. -/
def Outcome.learnt (outcome : Outcome) (op : Operation) : List (ProvisioningTicket × Uuid) :=
  match outcome.instanceId, outcome.ticket, op.ticket? with
  | some instanceId, some ticket, _ => [(ticket, instanceId)]
  | some instanceId, none, some ticket => [(ticket, instanceId)]
  | _, _, _ => []

/-- The system after an operation succeeded. -/
def System.after (s : System) (op : Operation) (outcome : Outcome) (db' : Database) : System where
  db := db'
  tickets := outcome.ticket.toList ++ s.tickets
  known := outcome.learnt op ++ s.known
  drawn := op.draws ++ s.drawn

/-- What happens in one step of the system. -/
inductive SystemEvent
  | succeeded (op : Operation)
  | failed (op : Operation)
  | reordered
deriving DecidableEq, Repr

/-- One step of the system: an executor's operation commits or is rolled back, or the rows are scanned
in another order. An executor that stopped just takes no step. -/
inductive SystemStep (env : Env) (s : System) : SystemEvent → System → Prop
  | succeeded {op outcome db'} (permits : s.Permits op)
      (run : (perform env op).run s.db = .ok (outcome, db')) :
      SystemStep env s (.succeeded op) (s.after op outcome db')
  | failed {op e} (permits : s.Permits op) (run : (perform env op).run s.db = .error e) :
      SystemStep env s (.failed op) { s with drawn := op.draws ++ s.drawn }
  | reordered {db'} (h : s.db.SameRows db') : SystemStep env s .reordered { s with db := db' }

/-- Whether an event authorised the remote create of a creation. -/
def SystemEvent.authorises (k : Uuid) : SystemEvent → Bool
  | .succeeded (.markCreating _ _ ticket) => ticket.id = k
  | _ => false

/-- The system before any creation; identifiers in use count as drawn. -/
structure System.Initial (s : System) : Prop where
  provisionings : ∀ k, s.db.provisionings.find? k = none
  tickets : s.tickets = []
  known : s.known = []
  drawn : ∀ i ∈ s.db.instances, i.id ∈ s.drawn

section Steps

variable {env : Env} {s s' : System} {e : SystemEvent} {k : Uuid} {row : InstanceProvisioning}

/-- Another scan order finds the same rows. -/
theorem find?_reordered {db db' : Database} (h : db.SameRows db') (k : Uuid) :
    db'.provisionings.find? k = db.provisionings.find? k := by
  cases hfound : db.provisionings.find? k with
  | none =>
    rw [Table.find?_eq_none] at hfound ⊢
    exact fun r hr => hfound r (h.provisionings.mem_iff.mpr hr)
  | some row =>
    rw [Table.find?_eq_some] at hfound ⊢
    exact ⟨h.provisionings.mem_iff.mp hfound.1, hfound.2⟩

/-- A step changes every row in one of the ways of the operation that succeeded, if one did. -/
theorem SystemStep.row_change (h : SystemStep env s e s') (hrow : s.db.provisionings.find? k = some row) :
    ∃ row' op, s'.db.provisionings.find? k = some row' ∧ RowChange env op s'.db row row' ∧
      (e = .succeeded op ∨ row' = row) := by
  cases h with
  | @succeeded op _ _ _ hrun =>
    obtain ⟨row', hrow', hchange⟩ := (perform_effect hrun).row_change hrow
    exact ⟨row', op, hrow', hchange, Or.inl rfl⟩
  | @failed op => exact ⟨row, op, hrow, RowChange.kept, Or.inr rfl⟩
  | reordered hsame =>
    exact ⟨row, .abandon 0 row.ticket, (find?_reordered hsame k).trans hrow, RowChange.kept, Or.inr rfl⟩

/-- A row that a step brought in is reserved. -/
theorem SystemStep.row_created {row' : InstanceProvisioning} (h : SystemStep env s e s')
    (hnone : s.db.provisionings.find? k = none) (hrow' : s'.db.provisionings.find? k = some row') :
    row'.state = .reserved ∧ row'.instanceId = none := by
  cases h with
  | succeeded _ hrun =>
    obtain ⟨_, _, _, _, _, _, _, _, -, rfl⟩ := (perform_effect hrun).row_created hnone hrow'
    exact ⟨rfl, rfl⟩
  | failed => cases hnone.symm.trans hrow'
  | reordered hsame => cases (hnone.symm.trans (find?_reordered hsame k).symm).trans hrow'

/-- A row after a step was there before, or is reserved. -/
theorem SystemStep.row_before {row' : InstanceProvisioning} (h : SystemStep env s e s')
    (hrow' : s'.db.provisionings.find? k = some row') :
    (row'.state = .reserved ∧ row'.instanceId = none) ∨
      ∃ row op, s.db.provisionings.find? k = some row ∧ RowChange env op s'.db row row' ∧
        (e = .succeeded op ∨ row' = row) := by
  cases hfound : s.db.provisionings.find? k with
  | none => exact Or.inl (h.row_created hfound hrow')
  | some row =>
    obtain ⟨row'', op, hrow'', hchange, hop⟩ := h.row_change hfound
    obtain rfl : row'' = row' := Option.some.inj (hrow''.symm.trans hrow')
    exact Or.inr ⟨row, op, rfl, hchange, hop⟩

/-- Authorising a remote create found the row reserved and left it sent. -/
theorem SystemStep.authorises_row (h : SystemStep env s e s') (he : e.authorises k = true) :
    ∃ row, s.db.provisionings.find? k = some row ∧ row.state = .reserved ∧
      s'.db.provisionings.find? k = some row.sent := by
  cases h with
  | @succeeded op _ _ _ hrun =>
    have heffect := perform_effect hrun
    unfold SystemEvent.authorises at he
    split at he
    · next ticket hop =>
      cases hop
      obtain rfl : ticket.id = k := by simpa using he
      cases heffect with
      | idle hidles => cases hidles
      | sent _ _ _ howns hreserved =>
        refine ⟨_, howns.found, hreserved, ?_⟩
        simp only [System.after, find?_updateProvisioning, admissionBase_provisionings, howns.found,
          Option.map_some, howns.id_eq, if_true]
    · cases he
  | failed => cases he
  | reordered => cases he

/-- A row that is neither reserved nor released. -/
def System.SentRow (k : Uuid) (s : System) : Prop :=
  ∃ row, s.db.provisionings.find? k = some row ∧ row.state ≠ .reserved ∧ row.state ≠ .released

/-- Authorising a remote create leaves its row sent. -/
theorem SystemStep.sentRow_of_authorises (h : SystemStep env s e s') (he : e.authorises k = true) :
    s'.SentRow k := by
  obtain ⟨row, -, -, hrow'⟩ := h.authorises_row he
  exact ⟨row.sent, hrow', nofun, nofun⟩

/-- A row that was sent stays so. -/
theorem SystemStep.sentRow (hsent : s.SentRow k) (h : SystemStep env s e s') : s'.SentRow k := by
  obtain ⟨row, hrow, hstate⟩ := hsent
  obtain ⟨row', op, hrow', hchange, -⟩ := h.row_change hrow
  exact ⟨row', hrow', hchange.sent_lasts hstate⟩

end Steps

section Fencing

variable {env : Env} {db db' : Database} {op : Operation} {outcome : Outcome} {s s' : System}
  {e : SystemEvent} {k : Uuid} {old : List Uuid}

/-- An operation that presents a ticket changes nothing, or the ticket owns its row. -/
theorem Effect.owns (h : Effect env db op outcome db') {ticket : ProvisioningTicket}
    (hticket : op.ticket? = some ticket) : db' = db ∨ ∃ row, db.Owns ticket row := by
  cases h with
  | idle | recordedAgain => exact Or.inl rfl
  | sent _ _ _ howns | recorded howns | webhookMarked howns | finished howns | cleaning howns
  | abandoned howns | removedOwned howns =>
    cases hticket
    exact Or.inr ⟨_, howns⟩
  | prepared | expired | taken | removed | linked | imported => cases hticket

/-- A row whose lease is held by nobody, or by an owner drawn later than some identifiers. -/
structure System.Fenced (k : Uuid) (old : List Uuid) (s : System) : Prop where
  drawn : old ⊆ s.drawn
  lease : ∃ row, s.db.provisionings.find? k = some row ∧ ∀ owner, row.leaseOwner = some owner → owner ∉ old

/-- A step leaves drawn what was drawn. -/
theorem SystemStep.drawn_subset (h : SystemStep env s e s') : s.drawn ⊆ s'.drawn := by
  cases h with
  | succeeded | failed => exact List.subset_append_right _ _
  | reordered => exact List.Subset.refl _

/-- A fenced row stays fenced: the only new owners are fresh ones. -/
theorem SystemStep.fenced (hfenced : s.Fenced k old) (h : SystemStep env s e s') : s'.Fenced k old := by
  obtain ⟨hold, row, hrow, hlease⟩ := hfenced
  refine ⟨fun id hid => h.drawn_subset (hold hid), ?_⟩
  obtain ⟨row', op, hrow', hchange, hop⟩ := h.row_change hrow
  refine ⟨row', hrow', fun owner howner => ?_⟩
  rcases hop with rfl | rfl
  · rcases hchange.leaseOwner with hsame | hnone | ⟨now, execution, drawn, rfl, hdrawn⟩
    · exact hlease owner (hsame ▸ howner)
    · cases hnone.symm.trans howner
    · obtain rfl : drawn = owner := Option.some.inj (hdrawn.symm.trans howner)
      cases h with
      | succeeded hpermits => exact fun hin => hpermits.fresh drawn (by simp [Operation.draws]) (hold hin)
  · exact hlease owner howner

/-- Under a fence, an operation with an older owner commits nothing. -/
theorem System.Fenced.commit_eq (hfenced : s.Fenced k old) {ticket : ProvisioningTicket} {earlier : Uuid}
    (hticket : op.ticket? = some ticket) (hid : ticket.id = k) (hearlier : earlier ∈ old)
    (howner : ticket.leaseOwner = some earlier) : commit (perform env op) s.db = s.db := by
  rcases commit_effect env s.db op with hsame | ⟨outcome, heffect⟩
  · exact hsame
  · rcases heffect.owns hticket with hsame | ⟨row, howns⟩
    · exact hsame
    · obtain ⟨-, row', hrow', hlease⟩ := hfenced
      obtain rfl : row = row' := Option.some.inj ((hid ▸ howns.found).symm.trans hrow')
      exact absurd hearlier (hlease earlier (howns.owner.trans howner))

end Fencing

section Knowledge

variable {env : Env} {db db' : Database} {op : Operation} {outcome : Outcome} {s s' : System}
  {e : SystemEvent}

/-- What executors know is right: an instance learnt under a ticket is the one its row names, or is
gone; and every identifier in use was drawn. -/
structure System.Sound (s : System) : Prop where
  instances : ∀ i ∈ s.db.instances, i.id ∈ s.drawn
  rows : ∀ k row, s.db.provisionings.find? k = some row → ∀ x, row.instanceId = some x → x ∈ s.drawn
  known : ∀ ticket x, (ticket, x) ∈ s.known → x ∈ s.drawn ∧
    ∃ row, s.db.provisionings.find? ticket.id = some row ∧
      (row.instanceId = some x ∨ ∀ i ∈ s.db.instances, i.id ≠ x)

/-- An instance after an operation was there before, or has an identifier the operation drew. -/
theorem Effect.instance_drawn (h : Effect env db op outcome db') {i : Instance} (hi : i ∈ db'.instances) :
    i ∈ db.instances ∨ i.id ∈ op.draws := by
  cases h with
  | idle | recordedAgain | webhookMarked | finished | cleaning | abandoned | expired | taken =>
      exact Or.inl hi
  | prepared | sent =>
    rw [← admissionBase_instances db]
    exact Or.inl hi
  | recorded _ _ _ _ _ hinserted | linked _ _ hinserted | imported _ _ hinserted =>
    rcases (Table.mem_insert? hinserted).mp hi with hold | rfl
    · exact Or.inl hold
    · exact Or.inr List.mem_cons_self
  | removedOwned | removed => exact Or.inl (mem_dropInstance_instances.mp hi).1

/-- What an operation taught is what the row of its ticket says afterwards. -/
theorem Effect.learnt (h : Effect env db op outcome db') {ticket : ProvisioningTicket} {x : Uuid}
    (hlearnt : (ticket, x) ∈ outcome.learnt op) :
    ∃ row, db'.provisionings.find? ticket.id = some row ∧ row.instanceId = some x := by
  cases h with
  | recordedAgain howns hrecorded =>
    simp only [Outcome.learnt, Operation.ticket?, List.mem_singleton, Prod.mk.injEq] at hlearnt
    obtain ⟨rfl, rfl⟩ := hlearnt
    exact ⟨_, howns.found, hrecorded⟩
  | @recorded _ _ result instanceId row _ _ howns =>
    simp only [Outcome.learnt, Operation.ticket?, List.mem_singleton, Prod.mk.injEq] at hlearnt
    obtain ⟨rfl, rfl⟩ := hlearnt
    refine ⟨row.recorded x result.instanceId, ?_, rfl⟩
    rw [advanceOccupancy_provisionings, find?_updateProvisioning]
    simp only [howns.found, Option.map_some, howns.id_eq, if_true]
  | @taken now execution id leaseOwner row hfound =>
    simp only [Outcome.learnt] at hlearnt
    cases hnamed : row.instanceId with
    | none => simp [hnamed] at hlearnt
    | some y =>
      simp only [hnamed, List.mem_singleton, Prod.mk.injEq] at hlearnt
      obtain ⟨rfl, rfl⟩ := hlearnt
      have hid : row.id = id := (Table.find?_eq_some.mp hfound).2
      refine ⟨row.taken now execution leaseOwner, ?_, hnamed⟩
      rw [find?_updateProvisioning, hid, hfound, Option.map_some, if_pos hid]
  | idle | prepared | sent | webhookMarked | finished | cleaning | abandoned | expired | removedOwned
  | removed | linked | imported => simp [Outcome.learnt] at hlearnt

/-- A row after an operation names an instance that was drawn before, or by the operation. -/
theorem System.Sound.row_drawn (hsound : s.Sound) (h : Effect env s.db op outcome db') {k x : Uuid}
    {row' : InstanceProvisioning} (hrow' : db'.provisionings.find? k = some row')
    (hx : row'.instanceId = some x) : x ∈ s.drawn ∨ x ∈ op.draws := by
  cases hfound : s.db.provisionings.find? k with
  | none =>
    obtain ⟨_, _, _, _, _, _, _, _, -, rfl⟩ := h.row_created hfound hrow'
    cases hx
  | some row =>
    obtain ⟨row'', hrow'', hchange⟩ := h.row_change hfound
    obtain rfl : row'' = row' := Option.some.inj (hrow''.symm.trans hrow')
    rcases hchange.instanceId with hsame | hnone | ⟨-, _, _, _, y, rfl, hy⟩
    · exact Or.inl (hsound.rows k row hfound x (hsame ▸ hx))
    · cases hnone.symm.trans hx
    · obtain rfl : y = x := Option.some.inj (hy.symm.trans hx)
      exact Or.inr List.mem_cons_self

/-- What was known before an operation is still right after it. -/
theorem System.Sound.known_after (hsound : s.Sound) (hpermits : s.Permits op)
    (h : Effect env s.db op outcome db') {ticket : ProvisioningTicket} {x : Uuid}
    (hknown : (ticket, x) ∈ s.known) : ∃ row, db'.provisionings.find? ticket.id = some row ∧
      (row.instanceId = some x ∨ ∀ i ∈ db'.instances, i.id ≠ x) := by
  obtain ⟨hdrawn, row, hrow, hnamed⟩ := hsound.known ticket x hknown
  obtain ⟨row', hrow', hchange⟩ := h.row_change hrow
  refine ⟨row', hrow', ?_⟩
  rcases hnamed with hnamed | hgone
  · rcases hchange.instanceId_or_bereft hnamed with hkept | hbereft
    · exact Or.inl hkept
    · exact Or.inr fun i hi hid => hbereft i hi (hid ▸ hnamed)
  · right
    intro i hi hid
    rcases h.instance_drawn hi with hold | hnew
    · exact hgone i hold hid
    · exact hpermits.fresh i.id hnew (hid ▸ hdrawn)

/-- Knowledge stays right: new identifiers are fresh, and a row loses its instance only when the
instance is gone. -/
theorem SystemStep.sound (hsound : s.Sound) (h : SystemStep env s e s') : s'.Sound := by
  cases h with
  | succeeded hpermits hrun =>
    have heffect := perform_effect hrun
    refine ⟨fun i hi => ?_, fun k row hrow x hx => ?_, fun ticket x hknown => ?_⟩
    · rcases heffect.instance_drawn hi with hold | hnew
      · exact List.mem_append_right _ (hsound.instances i hold)
      · exact List.mem_append_left _ hnew
    · exact List.mem_append.mpr (hsound.row_drawn heffect hrow hx).symm
    · rcases List.mem_append.mp hknown with hlearnt | hold
      · obtain ⟨row, hrow, hx⟩ := heffect.learnt hlearnt
        exact ⟨List.mem_append.mpr (hsound.row_drawn heffect hrow hx).symm, row, hrow, Or.inl hx⟩
      · exact ⟨List.mem_append_right _ (hsound.known ticket x hold).1,
          hsound.known_after hpermits heffect hold⟩
  | failed =>
    refine ⟨fun i hi => List.mem_append_right _ (hsound.instances i hi),
      fun k row hrow x hx => List.mem_append_right _ (hsound.rows k row hrow x hx), fun ticket x hknown => ?_⟩
    exact ⟨List.mem_append_right _ (hsound.known ticket x hknown).1, (hsound.known ticket x hknown).2⟩
  | reordered hsame =>
    refine ⟨fun i hi => hsound.instances i (hsame.instances.mem_iff.mpr hi), fun k row hrow x hx => ?_,
      fun ticket x hknown => ?_⟩
    · exact hsound.rows k row ((find?_reordered hsame k).symm.trans hrow) x hx
    · obtain ⟨hdrawn, row, hrow, hnamed⟩ := hsound.known ticket x hknown
      refine ⟨hdrawn, row, (find?_reordered hsame _).trans hrow, hnamed.imp id fun hgone i hi => ?_⟩
      exact hgone i (hsame.instances.mem_iff.mpr hi)

/-- The system starts with nothing known. -/
theorem System.Initial.sound (h : s.Initial) : s.Sound where
  instances := h.drawn
  rows k row hrow := by cases (h.provisionings k).symm.trans hrow
  known ticket x hknown := by simp [h.known] at hknown

/-- A ticketed removal that closes a row deleted the very instance of that row. -/
theorem System.Sound.removes_own (hsound : s.Sound) (hpermits : s.Permits op)
    (h : Effect env s.db op outcome db') {instanceId productId providerId : Uuid}
    {ticket : ProvisioningTicket} {row row' : InstanceProvisioning}
    (hop : op = .removeConfirmed instanceId productId providerId (some ticket))
    (hrow : s.db.provisionings.find? ticket.id = some row)
    (hrow' : db'.provisionings.find? ticket.id = some row') (hfailed : row'.state = .failed) :
    row.state = .failed ∨ ∃ item ∈ s.db.instances, row.instanceId = some item.id ∧
      ∀ i ∈ db'.instances, i.id ≠ item.id := by
  subst hop
  cases h with
  | idle =>
    obtain rfl : row = row' := Option.some.inj (hrow.symm.trans hrow')
    exact Or.inl hfailed
  | @removedOwned _ _ _ _ _ item _ hfound =>
    obtain ⟨hitem, hid : item.id = instanceId⟩ := Table.find?_eq_some.mp hfound
    obtain ⟨-, row₀, hrow₀, hnamed⟩ := hsound.known ticket instanceId (hpermits.learnt _ _ _ _ rfl)
    obtain rfl : row₀ = row := Option.some.inj (hrow₀.symm.trans hrow)
    refine Or.inr ⟨item, hitem, ?_, fun i hi => (mem_dropInstance_instances.mp hi).2⟩
    rcases hnamed with hnamed | hgone
    · rw [hnamed, hid]
    · exact absurd hid (hgone item hitem)

end Knowledge

/-- Over every run of the executors a creation is sent at most once and never if it is released; it
becomes committed only when confirmed and failed only in the removal of its own instance; it ends
for good; and once a claim installed its owner, an executor with an earlier owner commits nothing. -/
theorem creation_lifecycle {env : Env} {s s' : System} {es : List SystemEvent} (hstart : s.Initial)
    (hrun : Run (SystemStep env) s es s') :
    (∀ k, es.countP (·.authorises k) ≤ 1) ∧
    (∀ k row, s'.db.provisionings.find? k = some row → row.state = .released →
      es.countP (·.authorises k) = 0) ∧
    (∀ e s'' k row', SystemStep env s' e s'' → s''.db.provisionings.find? k = some row' →
      (row'.state = .committed → ∃ row, s'.db.provisionings.find? k = some row ∧
        (row.state = .committed ∨ row.Confirmed)) ∧
      (row'.state = .failed → ∃ row, s'.db.provisionings.find? k = some row ∧
        (row.state = .failed ∨ ∃ item ∈ s'.db.instances, row.instanceId = some item.id ∧
          ∀ i ∈ s''.db.instances, i.id ≠ item.id))) ∧
    (∀ e s'' k row, SystemStep env s' e s'' → s'.db.provisionings.find? k = some row →
      row.isTerminal = true → ∃ row', s''.db.provisionings.find? k = some row' ∧ row'.state = row.state) ∧
    (∀ now execution k owner claimed row later s'',
      SystemStep env s' (.succeeded (.claim now execution k owner)) claimed →
      claimed.db.provisionings.find? k = some row → row.leaseOwner = some owner →
      Run (SystemStep env) claimed later s'' →
      ∀ op ticket earlier, op.ticket? = some ticket → ticket.id = k → earlier ∈ s'.drawn →
        ticket.leaseOwner = some earlier → commit (perform env op) s''.db = s''.db) := by
  refine ⟨fun k => ?_, fun k row hrow hreleased => ?_, fun e s'' k row' hstep hrow' => ⟨?_, ?_⟩,
    fun e s'' k row hstep hrow hterminal => ?_, ?_⟩
  · refine hrun.atMostOnce
      (P := fun s => ∃ row, s.db.provisionings.find? k = some row ∧ row.state = .reserved)
      (Q := System.SentRow k) (fun _ _ _ he h => ?_) (fun _ _ _ he h => h.sentRow_of_authorises he)
      (fun _ _ _ hsent h => h.sentRow hsent) ?_
    · obtain ⟨row, hrow, hreserved, -⟩ := h.authorises_row he
      exact ⟨row, hrow, hreserved⟩
    · rintro s ⟨row, hrow, hsent, -⟩ ⟨row₂, hrow₂, hreserved⟩
      obtain rfl : row = row₂ := Option.some.inj (hrow.symm.trans hrow₂)
      exact hsent hreserved
  · rw [List.countP_eq_zero]
    intro e he hauthorises
    obtain ⟨row₂, hrow₂, -, hnot⟩ := hrun.holds_of_mem (Q := System.SentRow k)
      (fun _ _ _ he h => h.sentRow_of_authorises he) (fun _ _ _ hsent h => h.sentRow hsent) he hauthorises
    obtain rfl : row = row₂ := Option.some.inj (hrow.symm.trans hrow₂)
    exact hnot hreleased
  · intro hcommitted
    rcases hstep.row_before hrow' with ⟨hreserved, -⟩ | ⟨row, op, hrow, hchange, -⟩
    · cases hreserved.symm.trans hcommitted
    · exact ⟨row, hrow, hchange.committed hcommitted⟩
  · intro hfailed
    have hsound : s'.Sound := hrun.invariant (fun _ _ _ hs h => h.sound hs) hstart.sound
    rcases hstep.row_before hrow' with ⟨hreserved, -⟩ | ⟨row, op, hrow, hchange, rfl | rfl⟩
    · cases hreserved.symm.trans hfailed
    · rcases hchange.failed hfailed with hold | ⟨_, _, _, ticket, hop, hticket⟩
      · exact ⟨row, hrow, Or.inl hold⟩
      · have hid : ticket.id = k := hticket.trans (Table.find?_eq_some.mp hrow).2
        subst hid
        cases hstep with
        | succeeded hpermits hsucceeded =>
          exact ⟨row, hrow, hsound.removes_own hpermits (perform_effect hsucceeded) hop hrow hrow' hfailed⟩
    · exact ⟨row', hrow, Or.inl hfailed⟩
  · obtain ⟨row', op, hrow', hchange, -⟩ := hstep.row_change hrow
    exact ⟨row', hrow', hchange.state_of_terminal hterminal⟩
  · intro now execution k owner claimed row later s'' hclaim hrow howner hlater op ticket earlier hticket hid
      hearlier hticketOwner
    have hfenced : claimed.Fenced k s'.drawn := by
      refine ⟨hclaim.drawn_subset, row, hrow, fun o ho => ?_⟩
      obtain rfl : owner = o := Option.some.inj (howner.symm.trans ho)
      cases hclaim with
      | succeeded hpermits => exact hpermits.fresh owner (by simp [Operation.draws])
    exact (hlater.invariant (fun _ _ _ hf h => h.fenced hf) hfenced).commit_eq hticket hid hearlier
      hticketOwner

/-- The small installation before any creation. -/
def smallSystem : System := ⟨smallDatabase, [], [], []⟩

/-- Its system after the reservation. -/
def smallReserved : System :=
  smallSystem.after smallPrepare { ticket := some smallTicket }
    (commit (perform smallEnv smallPrepare) smallDatabase)

/-- Its system after the remote create was authorised. -/
def smallSent : System :=
  smallReserved.after smallMarkCreating {} (commit (perform smallEnv smallMarkCreating) smallReserved.db)

/-- In the small installation the one creation is sent, once. -/
theorem creation_lifecycle_small :
    [SystemEvent.succeeded smallPrepare, .succeeded smallMarkCreating].countP
        (·.authorises smallTicket.id) = 1 ∧
      [SystemEvent.succeeded smallPrepare, .succeeded smallMarkCreating].countP
        (·.authorises smallTicket.id) ≤ 1 := by
  have hinitial : smallSystem.Initial :=
    ⟨fun _ => rfl, rfl, rfl, fun _ hi => absurd hi List.not_mem_nil⟩
  have hprepare : SystemStep smallEnv smallSystem (.succeeded smallPrepare) smallReserved :=
    .succeeded ⟨by decide, by decide, nofun⟩ rfl
  have hsend : SystemStep smallEnv smallReserved (.succeeded smallMarkCreating) smallSent :=
    .succeeded ⟨by decide, by decide, nofun⟩ rfl
  exact ⟨by decide, (creation_lifecycle hinitial (.cons hprepare (.single hsend))).1 smallTicket.id⟩

end ConnectHub
