import ConnectHub.ChangeEffects

/-!
# Applied capacity changes

An evaluation that finds nothing blocking judged every link the draft would leave open, and every limit
it would set. Applying the draft leaves exactly those links and providers, so what the evaluation
promised is what the allocation panel shows afterwards.
-/

namespace ConnectHub

open Store

section Lookups

variable {α β γ : Type} {e : HubError} {items : List α} {find : α → Option β}

/-- A body that reads what every item refers to first went on where all of it exists. -/
theorem findAll_bind_ok {f : List (α × β) → Tx γ} {db : Database} {r : γ × Database} :
    (findAll e items find >>= f).run db = .ok r ↔
      (∀ a ∈ items, find a ≠ none) ∧ (f (withFound items find)).run db = .ok r := by
  simp only [findAll, bind_assoc, throwWhen_bind_ok, pure_bind, List.any_eq_true, Option.isNone_iff_eq_none,
    not_exists, not_and, ne_eq]

/-- What is found under the items is found under one of them. -/
theorem mem_withFound {p : α × β} : p ∈ withFound items find ↔ p.1 ∈ items ∧ find p.1 = some p.2 := by
  simp only [withFound, List.mem_filterMap, Option.map_eq_some_iff]
  constructor
  · rintro ⟨a, ha, b, hb, rfl⟩
    exact ⟨ha, hb⟩
  · rintro ⟨ha, hb⟩
    exact ⟨p.1, ha, p.2, hb, rfl⟩

end Lookups

section Judged

variable {env : Env} {now : Instant} {db : Database} {product : Product} {draft : EvolutionChangeInput}
  {snapshot : ChangeSnapshot}

/-- None of the observations blocks. -/
def NoneBlocking (checks : List ChangeCheck) : Prop :=
  ∀ c ∈ checks, c.blocking = false

/-- A list of observations blocks nothing exactly when its parts do not. -/
theorem noneBlocking_append {xs ys : List ChangeCheck} :
    NoneBlocking (xs ++ ys) ↔ NoneBlocking xs ∧ NoneBlocking ys :=
  List.forall_mem_append

/-- Codes that are reported as blocking block nothing only where there is none. -/
theorem noneBlocking_map {codes : List BlockerCode} {providerId : Option Uuid} :
    NoneBlocking (codes.map fun code => check now code providerId true) ↔ codes = [] := by
  cases codes with
  | nil => simp [NoneBlocking]
  | cons code codes => simp [NoneBlocking, check]

/-- Where nothing blocks, every provider that gets a limit is ready. -/
theorem foldl_checkLimit {limits : List (DraftProviderUpdate × ProviderSnapshot × VpsProvider)}
    {sofar : List ChangeCheck × List RequiredAction}
    (h : NoneBlocking (limits.foldl (db.checkLimit env now draft) sofar).1) :
    NoneBlocking sofar.1 ∧ ∀ limit ∈ limits, limit.1.maxInstances ≠ none →
      (db.evolutionReadiness env now (limit.2.2.identified env draft) false).1 = [] := by
  induction limits generalizing sofar with
  | nil => exact ⟨h, fun _ hlimit => absurd hlimit List.not_mem_nil⟩
  | cons limit limits ih =>
    obtain ⟨hstep, hrest⟩ := ih h
    obtain ⟨update, observed, original⟩ := limit
    simp only [Database.checkLimit, noneBlocking_append] at hstep
    obtain ⟨⟨hsofar, hunconfirmed⟩, hlimit⟩ := hstep
    refine ⟨hsofar, fun other hother hset => ?_⟩
    rcases List.mem_cons.mp hother with rfl | hother
    · rw [if_neg hset] at hlimit
      unfold Database.limitBlockers at hlimit
      rw [noneBlocking_map, List.filter_eq_nil_iff] at hlimit
      refine List.eq_nil_iff_forall_not_mem.mpr fun code hcode => hlimit code hcode ?_
      -- nothing observed so far blocks, so no code was left out as a repetition
      rw [Bool.not_eq_true', List.any_eq_false]
      intro c hc
      have hfree : c.blocking = false := noneBlocking_append.mpr ⟨hsofar, hunconfirmed⟩ c hc
      simp [hfree]
    · exact hrest other hother hset

/-- What an evaluation for the capacity policy that blocks nothing has established. -/
structure CapacityReady (env : Env) (now : Instant) (db : Database) (product : Product)
    (draft : EvolutionChangeInput) (snapshot : ChangeSnapshot) : Prop where
  found : ∀ link ∈ prospectiveLinks draft snapshot, db.providers.find? link.vpsProviderId ≠ none
  open_ready : ∀ link ∈ prospectiveLinks draft snapshot, link.acceptingNewInstances = true →
    ∀ original, db.providers.find? link.vpsProviderId = some original →
      db.prospectiveBlockers env now product link (original.prospective env draft) = []
  vacant : ∃ link ∈ prospectiveLinks draft snapshot, ∃ original,
    db.providers.find? link.vpsProviderId = some original ∧
      db.isVacant env now product link (original.prospective env draft) = true
  limits : ∀ update ∈ draft.providerUpdates, update.maxInstances ≠ none → ∃ original,
    db.providers.find? update.vpsProviderId = some original ∧
      (db.evolutionReadiness env now (original.identified env draft) false).1 = []

/-- An evaluation for the capacity policy only reads, and where it blocks nothing it has established
what the panel will show. -/
theorem evaluateCapacity_ok {found : List ChangeCheck × List RequiredAction} {db' : Database}
    (h : (evaluateCapacity env now product draft snapshot).run db = .ok (found, db')) :
    db' = db ∧ (NoneBlocking found.1 → CapacityReady env now db product draft snapshot) := by
  simp only [evaluateCapacity, get_bind_ok, findAll_bind_ok, pure_ok] at h
  obtain ⟨hlinks, -, hobserved, hlimits, h⟩ := h
  cases h
  refine ⟨rfl, fun hnone => ?_⟩
  obtain ⟨hchecks, hready⟩ := foldl_checkLimit hnone
  simp only [noneBlocking_append] at hchecks
  obtain ⟨⟨⟨-, hseen⟩, hvacant⟩, -⟩ := hchecks
  have hmem : ∀ link ∈ prospectiveLinks draft snapshot, ∀ original,
      db.providers.find? link.vpsProviderId = some original →
        (link, original.prospective env draft) ∈ (withFound (prospectiveLinks draft snapshot) fun link =>
          db.providers.find? link.vpsProviderId).map fun pair => (pair.1, pair.2.prospective env draft) :=
    fun link hlink original horiginal =>
      List.mem_map.mpr ⟨(link, original), mem_withFound.mpr ⟨hlink, horiginal⟩, rfl⟩
  refine ⟨hlinks, fun link hlink hopen original horiginal => ?_, ?_, fun update hupdate hset => ?_⟩
  · have hlinkChecks : NoneBlocking (db.linkChecks env now product link (original.prospective env draft)) :=
      fun c hc => hseen c (List.mem_flatMap.mpr ⟨_, hmem link hlink original horiginal, hc⟩)
    simp only [Database.linkChecks, noneBlocking_append, hopen] at hlinkChecks
    exact noneBlocking_map.mp hlinkChecks.1.1
  · split at hvacant
    · next hany =>
      obtain ⟨pair, hpair, hfree⟩ := List.any_eq_true.mp hany
      obtain ⟨⟨link, original⟩, hfound, rfl⟩ := List.mem_map.mp hpair
      obtain ⟨hlink, horiginal⟩ := mem_withFound.mp hfound
      exact ⟨link, hlink, original, horiginal, hfree⟩
    · exact absurd (hvacant _ (List.mem_singleton_self _)) (by simp [check])
  · obtain ⟨observed, hfound⟩ := Option.ne_none_iff_exists'.mp (hobserved update hupdate)
    have hpair : (update, observed) ∈ withFound draft.providerUpdates fun item =>
        snapshot.providers.find? fun p => p.id = item.vpsProviderId := mem_withFound.mpr ⟨hupdate, hfound⟩
    obtain ⟨original, horiginal⟩ := Option.ne_none_iff_exists'.mp (hlimits _ hpair)
    refine ⟨original, horiginal, hready (update, observed, original) ?_ hset⟩
    exact List.mem_map.mpr ⟨((update, observed), original), mem_withFound.mpr ⟨hpair, horiginal⟩, rfl⟩

/-- The configuration is read under the locks without writing. -/
theorem lockChange_ok {productId : Uuid} {locked : Product × ChangeSnapshot} {db' : Database}
    (h : (lockChange productId draft).run db = .ok (locked, db')) :
    db.products.find? productId = some locked.1 ∧ locked.2 = db.changeSnapshot locked.1 draft ∧ db' = db := by
  simp only [lockChange, lockProduct_bind_ok, changeSnapshot, bind_assoc, get_bind_ok,
    throwWhen_bind_ok, pure_bind, pure_ok] at h
  obtain ⟨product, hproduct, -, h⟩ := h
  cases h
  exact ⟨hproduct, rfl, rfl⟩

/-- An evaluation for the capacity policy that is ready was made against the current configuration, and
has established what the panel will show. -/
theorem evaluateChange_ok (haction : draft.action = .configureCapacity ∨ draft.action = .singleDestination)
    {diagnostics : ChangeDiagnostics} {db' : Database}
    (h : (evaluateChange env now product draft snapshot).run db = .ok (diagnostics, db')) :
    db' = db ∧
      (diagnostics.ready = true → CapacityReady env now db product draft (db.changeSnapshot product draft)) := by
  simp only [evaluateChange, changeSnapshot, bind_assoc, get_bind_ok, throwWhen_bind_ok, pure_bind] at h
  obtain ⟨-, h⟩ := h
  obtain ⟨found, db₁, hfound, h⟩ := bind_ok.mp h
  rw [pure_ok] at h
  cases h
  have hcapacity : evaluateAction env now product draft snapshot =
      evaluateCapacity env now product draft snapshot := by
    unfold evaluateAction
    rcases haction with haction | haction <;> rw [haction]
  rw [hcapacity] at hfound
  obtain ⟨hsame, hready⟩ := evaluateCapacity_ok hfound
  refine ⟨hsame, fun hnone => ?_⟩
  rw [Bool.not_eq_true', List.any_eq_false] at hnone
  have hall : NoneBlocking ((if db.changeSnapshot product draft ≠ snapshot then
      [check now .configurationChanged none true] else []) ++ found.1) :=
    fun c hc => Bool.eq_false_iff.mpr (hnone c hc)
  obtain ⟨hcurrent, hrest⟩ := noneBlocking_append.mp hall
  have hsnapshot : db.changeSnapshot product draft = snapshot := by
    by_contra hne
    rw [if_pos hne] at hcurrent
    exact absurd (hcurrent _ (List.mem_singleton_self _)) (by simp [check])
  rw [hsnapshot]
  exact hready hrest

end Judged

section Planned

variable {env : Env} {now : Instant} {db db' : Database} {product : Product} {draft : EvolutionChangeInput}
  {snapshot : ChangeSnapshot} {productId id : Uuid} {revision : Nat} {actor : String} {plan : ApplyPlan}

/-- A body that reads a change first went on with the row under that id, which is of that product. -/
theorem changeRow_bind_ok {α : Type} {f : EvolutionChange → Tx α} {r : α × Database} :
    (changeRow productId id >>= f).run db = .ok r ↔
      ∃ row, db.changes.find? id = some row ∧ row.productId = productId ∧ (f row).run db = .ok r := by
  simp only [changeRow, bind_assoc, get_bind_ok, orThrow_bind_ok, Option.filter_eq_some_iff,
    decide_eq_true_eq, and_assoc]

/-- A change was prepared already, or is inserted with the draft in its canonical order. -/
theorem create_ok {input : EvolutionChangeInput} {row : EvolutionChange}
    (h : (create now productId input id).run db = .ok (row, db')) :
    db' = db ∨ row.draft = normalizeDraft input ∧
      ∃ changes, db.changes.insert? row = some changes ∧ db' = { db with changes := changes } := by
  unfold create at h
  dsimp only at h
  obtain ⟨locked, db₁, hlocked, hrest⟩ := bind_ok.mp h
  obtain ⟨-, -, rfl⟩ := lockChange_ok hlocked
  rw [get_bind_ok] at hrest
  split at hrest
  · rw [throwWhen_bind_ok, pure_ok] at hrest
    cases hrest.2
    exact Or.inl rfl
  · obtain ⟨_, db₂, hvalid, hinsert⟩ := bind_ok.mp hrest
    simp only [validateDraft, assertRevision, throwWhen_bind_ok, throwWhen_ok] at hvalid
    obtain ⟨-, -, -, -, -, -, hvalid⟩ := hvalid
    cases hvalid
    rw [orThrow_bind_ok] at hinsert
    obtain ⟨changes, hchanges, hinsert⟩ := hinsert
    rw [set_bind_ok, pure_ok] at hinsert
    cases hinsert
    exact Or.inr ⟨rfl, changes, hchanges, rfl⟩

/-- Evaluating what is particular to an action only reads. -/
theorem evaluateAction_readOnly : ReadOnly (evaluateAction env now product draft snapshot) := by
  have hfind : ∀ {α β : Type} (e : HubError) (items : List α) (find : α → Option β),
      ReadOnly (findAll e items find) :=
    fun e items find => ReadOnly.throwWhen.bind fun _ => ReadOnly.pure _
  have hreversal : ReadOnly (evaluateReversal now product draft snapshot) :=
    ReadOnly.get.bind fun _ => ReadOnly.orThrow.bind fun _ => ReadOnly.pure _
  have hcapacity : ReadOnly (evaluateCapacity env now product draft snapshot) :=
    ReadOnly.get.bind fun _ => (hfind _ _ _).bind fun _ => (hfind _ _ _).bind fun _ =>
      (hfind _ _ _).bind fun _ => (hfind _ _ _).bind fun _ => ReadOnly.pure _
  unfold evaluateAction
  split
  · exact hreversal
  · exact hreversal
  · exact hcapacity
  · exact hcapacity

/-- Reading the configuration only reads. -/
theorem changeSnapshot_readOnly : ReadOnly (changeSnapshot product draft) :=
  ReadOnly.get.bind fun _ => ReadOnly.throwWhen.bind fun _ => ReadOnly.pure _

/-- Evaluating a draft only reads. -/
theorem evaluateChange_readOnly : ReadOnly (evaluateChange env now product draft snapshot) :=
  changeSnapshot_readOnly.bind fun _ => evaluateAction_readOnly.bind fun _ => ReadOnly.pure _

/-- A plan to apply a change: its row was ready at the revision the caller saw and had not expired, and its
draft was evaluated as ready. -/
structure Planned (env : Env) (now : Instant) (db : Database) (productId id : Uuid) (revision : Nat)
    (plan : ApplyPlan) (row : EvolutionChange) : Prop where
  found : db.changes.find? id = some row
  ofProduct : row.productId = productId
  planned : plan.id = id ∧ plan.draft = row.draft
  product : db.products.find? productId = some plan.product
  revision : row.revision = revision
  status : row.status = .ready
  unexpired : now < row.expiresAt
  evaluated : (evaluateChange env now plan.product row.draft row.snapshot).run db = .ok (plan.diagnostics, db)
  ready : plan.diagnostics.ready = true

/-- An application that goes on to write has changed nothing yet, and has a plan. -/
theorem applyRead_ok (h : (applyRead env now productId id revision).run db = .ok (some plan, db')) :
    db' = db ∧ ∃ row, Planned env now db productId id revision plan row := by
  rw [applyRead, changeRow_bind_ok] at h
  obtain ⟨initial, hinitial, hproduct, hlock⟩ := h
  obtain ⟨locked, db₁, hlocked, hjudge⟩ := bind_ok.mp hlock
  obtain ⟨hlockedProduct, -, rfl⟩ := lockChange_ok hlocked
  rw [changeRow_bind_ok] at hjudge
  obtain ⟨current, hcurrent, -, hjudge⟩ := hjudge
  obtain rfl : initial = current := Option.some.inj (hinitial.symm.trans hcurrent)
  split at hjudge
  · cases pure_ok.mp hjudge
  · simp only [assertRevision, throwWhen_bind_ok, not_or, not_not, not_le] at hjudge
    obtain ⟨hrevision, ⟨hstatus, hexpires⟩, hjudge⟩ := hjudge
    obtain ⟨diagnostics, db₂, hevaluated, hplan⟩ := bind_ok.mp hjudge
    obtain rfl : db₂ = db₁ := evaluateChange_readOnly db₁ (diagnostics, db₂) hevaluated
    rw [throwWhen_bind_ok, pure_ok, Bool.not_eq_false] at hplan
    obtain ⟨hready, hplan⟩ := hplan
    cases hplan
    exact ⟨rfl, initial, hinitial, hproduct, ⟨rfl, rfl⟩, hlockedProduct, hrevision, hstatus, hexpires,
      hevaluated, hready⟩

/-- Writing an application writes the policy effects of its draft, and then its row alone. -/
theorem applyWrite_ok (h : (applyWrite env plan actor).run db = .ok ((), db')) :
    ∃ db₁ audit, (applyEffects env plan.product plan.draft).run db = .ok ((), db₁) ∧
      db' = db₁.updateChanges (fun c => c.id = plan.id) (·.applied audit plan.diagnostics) := by
  obtain ⟨_, db₁, heffects, hnote⟩ := bind_ok.mp h
  simp only [get_bind_ok, orThrow_bind_ok, changeSnapshot, bind_assoc, throwWhen_bind_ok, pure_bind,
    modify_ok] at hnote
  obtain ⟨after, -, -, hnote⟩ := hnote
  cases hnote
  exact ⟨db₁, _, heffects, rfl⟩

/-- An application that did something had a plan and wrote it; one that did nothing left everything as it
was. -/
theorem apply_cases {applied : Bool}
    (h : (apply env now productId id revision actor).run db = .ok (applied, db')) :
    (applied = false ∧ db' = db) ∨ applied = true ∧ ∃ plan row, Planned env now db productId id revision plan row ∧
      (applyWrite env plan actor).run db = .ok ((), db') := by
  obtain ⟨plan, db₁, hread, hwrite⟩ := bind_ok.mp h
  cases plan with
  | none =>
    have hlock : ∀ draft, ReadOnly (lockChange productId draft) := by
      intro draft
      have hproduct : ReadOnly (lockProduct productId) := ReadOnly.get.bind fun _ => ReadOnly.orThrow
      exact hproduct.bind fun _ => changeSnapshot_readOnly.bind fun _ => ReadOnly.pure _
    have hrow : ReadOnly (changeRow productId id) := ReadOnly.get.bind fun _ => ReadOnly.orThrow
    have hreads : ReadOnly (applyRead env now productId id revision) := by
      refine hrow.bind fun initial => (hlock initial.draft).bind fun locked => hrow.bind fun current => ?_
      split
      · exact ReadOnly.pure _
      · exact ReadOnly.throwWhen.bind fun _ => ReadOnly.throwWhen.bind fun _ =>
          evaluateChange_readOnly.bind fun _ => ReadOnly.throwWhen.bind fun _ => ReadOnly.pure _
    cases pure_ok.mp hwrite
    exact Or.inl ⟨rfl, hreads db _ hread⟩
  | some plan =>
    obtain ⟨rfl, row, hplanned⟩ := applyRead_ok hread
    obtain ⟨_, db₂, hwritten, hpure⟩ := bind_ok.mp hwrite
    cases pure_ok.mp hpure
    exact Or.inr ⟨rfl, plan, row, hplanned, hwritten⟩

end Planned

section Applied

variable {env : Env} {now : Instant} {db db' : Database} {product : Product} {draft : EvolutionChangeInput}

/-- An application that committed wrote the draft of a change that its evaluation found ready. -/
theorem apply_ok {productId id : Uuid} {revision : Nat} {actor : String} {row : EvolutionChange}
    (hrow : db.changes.find? id = some row)
    (haction : row.draft.action = .configureCapacity ∨ row.draft.action = .singleDestination)
    (h : (apply env now productId id revision actor).run db = .ok (true, db')) :
    ∃ product, db.products.find? productId = some product ∧
      CapacityReady env now db product row.draft (db.changeSnapshot product row.draft) ∧
      Drafted env db product row.draft db' := by
  rcases apply_cases h with ⟨hnothing, -⟩ | ⟨-, plan, row', hplanned, hwritten⟩
  · cases hnothing
  · obtain rfl : row = row' := Option.some.inj (hrow.symm.trans hplanned.found)
    obtain ⟨db₁, audit, heffects, rfl⟩ := applyWrite_ok hwritten
    rw [hplanned.planned.2] at heffects
    have hdrafted := applyEffects_ok haction heffects
    obtain ⟨-, hready⟩ := evaluateChange_ok haction hplanned.evaluated
    exact ⟨plan.product, hplanned.product, hready hplanned.ready, hdrafted.providers, hdrafted.links,
      hdrafted.products, hdrafted.vpsServers, hdrafted.inventory, hdrafted.instances, hdrafted.provisionings,
      hdrafted.reconciliations⟩

/-- The readiness report does not read the limit of a provider. -/
theorem evolutionReadiness_prospective (original : VpsProvider) (relay : Bool) :
    db.evolutionReadiness env now (original.prospective env draft) relay =
      db.evolutionReadiness env now (original.identified env draft) relay := by
  unfold VpsProvider.prospective VpsProvider.identified
  split
  · dsimp only
    split <;> rfl
  · rfl

/-- A limit that a draft names once is the one its provider gets. -/
theorem prospective_maxInstances (hnodup : (draft.providerUpdates.map (·.vpsProviderId)).Nodup)
    {update : DraftProviderUpdate} (hupdate : update ∈ draft.providerUpdates) {original : VpsProvider}
    (hid : update.vpsProviderId = original.id) :
    (original.prospective env draft).maxInstances = update.maxInstances := by
  have hkept : ∀ p : VpsProvider, (p.identified env draft).maxInstances = p.maxInstances := by
    intro p
    unfold VpsProvider.identified
    split <;> rfl
  unfold VpsProvider.prospective
  cases hfind : draft.providerUpdates.find? fun item => item.vpsProviderId = original.id with
  | none => exact absurd (decide_eq_true hid) (List.find?_eq_none.mp hfind update hupdate)
  | some found =>
    have hfoundId : found.vpsProviderId = original.id := of_decide_eq_true (List.find?_some hfind :)
    have hsame : found = update := List.inj_on_of_nodup_map hnodup (List.mem_of_find?_eq_some hfind) hupdate
      (hfoundId.trans hid.symm)
    rw [← hsame]
    exact hkept _

/-- An open link whose prospective form had nothing to report is shown with nothing but its count. -/
theorem Drafted.linkBlockers (h : Drafted env db product draft db')
    (hnodup : (draft.providerUpdates.map (·.vpsProviderId)).Nodup)
    {original : VpsProvider} {link : LinkSnapshot}
    {l : ProductEvolution} (hlink : link.acceptingNewInstances = true) (hl : l.acceptingNewInstances = true)
    (hready : db.prospectiveBlockers env now product link (original.prospective env draft) = []) :
    db'.linkBlockers env now (product.reallocated draft) l (original.drafted env draft) =
      if db.isFull (original.prospective env draft) then [.capacityFull] else [] := by
  have hsame : (original.drafted env draft).unversioned = (original.prospective env draft).unversioned :=
    unversioned_drafted hnodup original
  have haccepting := congrArg VpsProvider.acceptingNewInstances hsame
  have hadapter := congrArg VpsProvider.adapterType hsame
  have hlimit := congrArg VpsProvider.maxInstances hsame
  simp only [VpsProvider.unversioned] at haccepting hadapter hlimit
  simp only [Database.prospectiveBlockers, List.append_eq_nil_iff, reportedUnless_eq_nil,
    reportedWhen_eq_nil, hlink, Bool.true_and, Bool.or_eq_true, decide_eq_true_eq, not_or, not_not] at hready
  obtain ⟨⟨hreport, hunpaused⟩, hcompatible, -⟩ := hready
  have hrelay : (product.reallocated draft).hubRelay = product.hubRelay := rfl
  have hproductAdapter : (product.reallocated draft).adapterType = product.adapterType := rfl
  unfold Database.linkBlockers
  rw [hrelay, hproductAdapter, h.evolutionReadiness hsame product.hubRelay]
  dsimp only
  rw [hreport, hadapter, haccepting, hlimit, if_pos hl, if_pos hunpaused,
    if_neg (by rw [hcompatible]; exact fun hne => hne rfl)]
  rfl

/-- A change for the capacity policy that was applied left its product under that policy; the links it
left open report nothing but a full provider, and one of them can take a creation; the providers it
limited are ready; and a single destination is the only one left open. -/
theorem applied_capacity_ready {productId id : Uuid} {revision : Nat} {actor : String} {row : EvolutionChange}
    (hrow : db.changes.find? id = some row) (haccepted : row.draft.accepted = true)
    (haction : row.draft.action = .configureCapacity ∨ row.draft.action = .singleDestination)
    (happly : (apply env now productId id revision actor).run db = .ok (true, db')) :
    ∃ product view, db'.products.find? productId = some product ∧ product.allocationMode = .capacity ∧
      (allocationView env now product).run db' = .ok (view, db') ∧
      (∀ link ∈ db'.links, link.productId = productId → ∃ entry ∈ view.order,
        entry.vpsProviderId = link.vpsProviderId ∧ entry.acceptingNewInstances = link.acceptingNewInstances) ∧
      (∀ entry ∈ view.order, entry.acceptingNewInstances = true →
        ∀ code ∈ entry.blockers, code = .capacityFull) ∧
      (∃ entry ∈ view.order, entry.acceptingNewInstances = true ∧ entry.eligible = true) ∧
      (∀ update ∈ row.draft.providerUpdates, update.maxInstances ≠ none → ∃ provider,
        db'.providers.find? update.vpsProviderId = some provider ∧
          provider.maxInstances = update.maxInstances ∧
          (db'.evolutionReadiness env now provider false).1 = []) ∧
      (row.draft.action = .singleDestination → ∃ target, row.draft.targetProviderId = some target ∧
        (∃ link ∈ db'.links, link.productId = productId ∧ link.vpsProviderId = target) ∧
        ∀ link ∈ db'.links, link.productId = productId →
          (link.acceptingNewInstances = true ↔ link.vpsProviderId = target)) := by
  obtain ⟨product, hproduct, hready, hdrafted⟩ := apply_ok hrow haction happly
  obtain rfl : product.id = productId := (Table.find?_eq_some.mp hproduct).2
  have hnodup : (row.draft.providerUpdates.map (·.vpsProviderId)).Nodup := by
    simp only [EvolutionChangeInput.accepted, EvolutionChangeInput.refined, Bool.and_eq_true,
      decide_eq_true_eq]
      at haccepted
    exact haccepted.2.1.1.1.2
  have hproduct' : db'.products.find? product.id = some (product.reallocated row.draft) := by
    rw [hdrafted.products]
    simp only [Database.updateProduct_products, Table.find?_modify, hproduct, Option.map_some,
      decide_true, if_true]
  have hmode : (product.reallocated row.draft).allocationMode = .capacity := by
    unfold Product.reallocated
    rcases haction with haction | haction <;> rw [haction]
  -- a link of the committed state has a prospective form, and its provider was judged
  have hjudged : ∀ l ∈ db'.links, l.productId = product.id → ∃ link original,
      link ∈ prospectiveLinks row.draft (db.changeSnapshot product row.draft) ∧
        link.vpsProviderId = l.vpsProviderId ∧ link.acceptingNewInstances = l.acceptingNewInstances ∧
        db.providers.find? l.vpsProviderId = some original := by
    intro l hl hlProduct
    obtain ⟨link, hlink, hv, ha⟩ := (hdrafted.links l.vpsProviderId _).mpr ⟨l, hl, hlProduct, rfl, rfl⟩
    obtain ⟨original, horiginal⟩ := Option.ne_none_iff_exists'.mp (hready.found link hlink)
    exact ⟨link, original, hlink, hv, ha, hv ▸ horiginal⟩
  have hentry : ∀ l ∈ db'.links, l.productId = product.id → ∀ original,
      db.providers.find? l.vpsProviderId = some original →
      db'.allocationEntry env now (product.reallocated row.draft) l (original.drafted env row.draft) ∈
        (db'.allocationOf env now (product.reallocated row.draft)).order := by
    intro l hl hlProduct original horiginal
    refine mem_allocationEntries.mpr ⟨l, hl, hlProduct, original.drafted env row.draft, ?_, rfl⟩
    rw [hdrafted.find?_provider, horiginal, Option.map_some]
  refine ⟨product.reallocated row.draft, db'.allocationOf env now (product.reallocated row.draft),
    hproduct', hmode, allocationView_ok.mpr ⟨fun l hl hlProduct => ?_, rfl⟩, fun l hl hlProduct => ?_,
    fun entry hmem hopen code hcode => ?_, ?_, fun update hupdate hset => ?_, fun hsingle => ?_⟩
  · obtain ⟨_, original, -, -, -, horiginal⟩ := hjudged l hl hlProduct
    simp [hdrafted.find?_provider, horiginal]
  · obtain ⟨_, original, -, -, -, horiginal⟩ := hjudged l hl hlProduct
    refine ⟨_, hentry l hl hlProduct original horiginal, ?_, rfl⟩
    exact (drafted_column (·.id) (fun _ _ => rfl) (fun _ => rfl) original).trans
      (Table.find?_eq_some.mp horiginal).2
  · obtain ⟨l, hl, hlProduct, provider, hprovider, rfl⟩ := mem_allocationEntries.mp hmem
    obtain ⟨link, original, hlink, hv, ha, horiginal⟩ := hjudged l hl hlProduct
    rw [hdrafted.find?_provider, horiginal, Option.map_some, Option.some.injEq] at hprovider
    subst hprovider
    have hlOpen : l.acceptingNewInstances = true := hopen
    have hblockers := hdrafted.linkBlockers hnodup (ha.trans hlOpen) hlOpen
      (hready.open_ready link hlink (ha.trans hlOpen) original (hv ▸ horiginal))
    simp only [Database.allocationEntry, hblockers] at hcode
    split at hcode
    · exact List.mem_singleton.mp hcode
    · exact absurd hcode List.not_mem_nil
  · obtain ⟨link, hlink, original, horiginal, hvacant⟩ := hready.vacant
    simp only [Database.isVacant, Bool.and_eq_true, List.isEmpty_iff, Bool.not_eq_true'] at hvacant
    obtain ⟨⟨hfree, hopen⟩, hroom⟩ := hvacant
    obtain ⟨l, hl, hlProduct, hv, ha⟩ := (hdrafted.links link.vpsProviderId _).mp ⟨link, hlink, rfl, rfl⟩
    refine ⟨_, hentry l hl hlProduct original (hv ▸ horiginal), ha.trans hopen, ?_⟩
    have hblockers := hdrafted.linkBlockers hnodup hopen (ha.trans hopen) hfree
    simp only [Database.allocationEntry, hblockers, hroom, Bool.false_eq_true, if_false, List.isEmpty_nil]
  · obtain ⟨original, horiginal, hreport⟩ := hready.limits update hupdate hset
    have hid : update.vpsProviderId = original.id := (Table.find?_eq_some.mp horiginal).2.symm
    have hsame : (original.drafted env row.draft).unversioned =
      (original.prospective env row.draft).unversioned :=
      unversioned_drafted hnodup original
    refine ⟨original.drafted env row.draft, ?_, ?_, ?_⟩
    · rw [hdrafted.find?_provider, horiginal, Option.map_some]
    · exact (congrArg VpsProvider.maxInstances hsame).trans (prospective_maxInstances hnodup hupdate hid)
    · rw [hdrafted.evolutionReadiness hsame, evolutionReadiness_prospective, hreport]
  · obtain ⟨link, hlink, _, _, hvacant⟩ := hready.vacant
    simp only [Database.isVacant, Bool.and_eq_true] at hvacant
    have hform : ∀ other ∈ prospectiveLinks row.draft (db.changeSnapshot product row.draft),
        (other.acceptingNewInstances = true ↔ row.draft.targetProviderId = some other.vpsProviderId) := by
      intro other hother
      unfold prospectiveLinks at hother
      rw [if_pos hsingle] at hother
      obtain ⟨merged, -, rfl⟩ := List.mem_map.mp hother
      exact decide_eq_true_iff
    have htarget := (hform link hlink).mp hvacant.1.2
    obtain ⟨l, hl, hlProduct, hv, -⟩ := (hdrafted.links link.vpsProviderId _).mp ⟨link, hlink, rfl, rfl⟩
    refine ⟨link.vpsProviderId, htarget, ⟨l, hl, hlProduct, hv⟩, fun l hl hlProduct => ?_⟩
    obtain ⟨other, _, hother, hov, hoa, -⟩ := hjudged l hl hlProduct
    rw [← hoa, hform other hother, htarget, ← hov, Option.some.injEq, eq_comm]

end Applied

/-- A draft that raises the limit of the small installation. -/
def smallDraft : EvolutionChangeInput where
  requestId := "request"
  expectedRevision := 0
  action := .configureCapacity
  providerUpdates := [⟨smallProvider.id, 0, some 2⟩]

/-- The change that was prepared from that draft and is ready. -/
def smallChange : EvolutionChange where
  id := ⟨"change", by decide⟩
  productId := smallProduct.id
  draft := smallDraft
  snapshot := smallDatabase.changeSnapshot smallProduct smallDraft
  status := .ready
  stage := .review
  executionDeadline := 1000
  expiresAt := 2000

/-- The small installation with its writers confirmed and that change ready. -/
def smallReady : Database :=
  { smallDatabase with
    baseConsolidated := true
    setupConfirmations := ⟨[⟨evolutionRequirementsVersion, ""⟩], by decide⟩
    changes := ⟨[smallChange], by decide⟩ }

/-- In the small installation the change is applied, and the provider it limited is ready. -/
theorem applied_capacity_ready_small : ∃ provider,
    (commit (apply smallEnv 0 smallProduct.id smallChange.id 0 "admin") smallReady).providers.find?
    smallProvider.id =
      some provider ∧ provider.maxInstances = some 2 := by
  obtain ⟨_, _, -, -, -, -, -, -, hlimited, -⟩ :=
    @applied_capacity_ready smallEnv 0 smallReady
      (commit (apply smallEnv 0 smallProduct.id smallChange.id 0 "admin")
      smallReady) smallProduct.id smallChange.id 0 "admin" smallChange rfl (by decide) (Or.inl rfl) rfl
  obtain ⟨provider, hfound, hlimit, -⟩ := hlimited _ (List.mem_singleton_self _) (by decide)
  exact ⟨provider, hfound, hlimit⟩

end ConnectHub
