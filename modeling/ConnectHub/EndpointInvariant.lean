import ConnectHub.CapacityChanges
import ConnectHub.Providers
import ConnectHub.Store.Run

/-!
# Endpoints under a limit

A limit on a provider stands for a limit on the installation behind it, so a provider that has one, or that
is paused, must be the only registration of its endpoint. Whoever gives it a limit or pauses it finds no
other registration, and whoever registers an endpoint or moves a provider to one finds no such provider there.
-/

namespace ConnectHub

open Store

/-- Whether a provider has a limit of its own or is paused. -/
def VpsProvider.governs (provider : VpsProvider) : Bool :=
  provider.maxInstances.isSome || !provider.acceptingNewInstances

/-- Whether two providers are registered at one endpoint. -/
def SameEndpoint (env : Env) (p q : VpsProvider) : Prop :=
  canonicalEvolutionEndpoint env p.providerUrl ≠ none ∧
    canonicalEvolutionEndpoint env p.providerUrl = canonicalEvolutionEndpoint env q.providerUrl

/-- A provider with a limit, or a paused one, shares its endpoint with no other. -/
def Database.Governed (env : Env) (db : Database) : Prop :=
  ∀ p ∈ db.providers, ∀ q ∈ db.providers, p.governs = true → SameEndpoint env p q → p = q

/-- Only a draft that configures capacity carries limits. -/
def Database.DraftsRefined (db : Database) : Prop :=
  ∀ c ∈ db.changes, c.draft.action ≠ .configureCapacity → c.draft.providerUpdates = []

/-- What registering, editing and changing providers keep. -/
structure Database.Catalogued (env : Env) (db : Database) : Prop where
  governed : db.Governed env
  drafts : db.DraftsRefined

section Aliases

variable {env : Env} {db db' : Database} {p q : VpsProvider} {url : String} {exceptId : Option Uuid}

/-- A provider that governs its endpoint is controlled. -/
theorem isControlledEvolution_of_governs (h : p.governs = true) : db.isControlledEvolution p = true := by
  unfold VpsProvider.governs at h
  unfold Database.isControlledEvolution
  rw [h, Bool.true_or]

/-- Another provider at an endpoint is an alias of it. -/
theorem mem_endpointAliases {endpoint : String} (hurl : canonicalEvolutionEndpoint env url = some endpoint)
    (hq : q ∈ db.providers) (hexcept : exceptId ≠ some q.id)
    (hsame : canonicalEvolutionEndpoint env q.providerUrl = some endpoint) :
    q ∈ db.endpointAliases env url exceptId := by
  unfold Database.endpointAliases
  rw [hurl]
  exact List.mem_filter.mpr ⟨hq, by simp [hexcept, hsame]⟩

/-- Where an endpoint is available, no other provider governs it, and a strict check finds none there. -/
theorem assertEndpointAvailable_ok {strict : Bool} {r : List VpsProvider × Database}
    (h : (assertEndpointAvailable env url exceptId strict).run db = .ok r) :
    (∀ q ∈ db.providers, exceptId ≠ some q.id → q.governs = true →
      canonicalEvolutionEndpoint env url ≠ none →
        canonicalEvolutionEndpoint env url ≠ canonicalEvolutionEndpoint env q.providerUrl) ∧
    (strict = true → ∀ q ∈ db.providers, exceptId ≠ some q.id → canonicalEvolutionEndpoint env url ≠ none →
        canonicalEvolutionEndpoint env url ≠ canonicalEvolutionEndpoint env q.providerUrl) := by
  simp only [assertEndpointAvailable, get_bind_ok, throwWhen_bind_ok, pure_ok, Bool.not_eq_true,
    List.any_eq_false, Bool.or_eq_true, not_or] at h
  obtain ⟨hfree, -⟩ := h
  constructor
  · intro q hq hexcept hgoverns hplain hsame
    obtain ⟨endpoint, hendpoint⟩ := Option.ne_none_iff_exists'.mp hplain
    have halias := mem_endpointAliases hendpoint hq hexcept (hsame.symm.trans hendpoint)
    have huncontrolled := Bool.eq_false_iff.mp (hfree q halias).2
    exact huncontrolled (isControlledEvolution_of_governs hgoverns)
  · intro hstrict q hq hexcept hplain hsame
    obtain ⟨endpoint, hendpoint⟩ := Option.ne_none_iff_exists'.mp hplain
    have halias := mem_endpointAliases hendpoint hq hexcept (hsame.symm.trans hendpoint)
    exact Bool.eq_false_iff.mp (hfree q halias).1 hstrict

/-- A provider reported ready is alone at its endpoint. -/
theorem alone_of_readiness {now : Instant} {relay : Bool}
    (h : (db.evolutionReadiness env now p relay).1 = []) (hq : q ∈ db.providers) (hother : q.id ≠ p.id) :
    ¬SameEndpoint env p q := by
  intro hsame
  obtain ⟨endpoint, hendpoint⟩ := Option.ne_none_iff_exists'.mp hsame.1
  have hexcept : some p.id ≠ some q.id := fun heq => hother (Option.some.inj heq).symm
  have halias := mem_endpointAliases hendpoint hq hexcept (hsame.2.symm.trans hendpoint)
  simp only [Database.evolutionReadiness, List.append_eq_nil_iff, reportedWhen_eq_nil, Bool.not_eq_true',
    Bool.not_eq_false, List.isEmpty_iff] at h
  obtain ⟨⟨⟨⟨⟨⟨⟨⟨-, hnone⟩, -⟩, -⟩, -⟩, -⟩, -⟩, -⟩, -⟩ := h
  rw [hnone] at halias
  cases halias

end Aliases

section Records

variable {env : Env} {now : Instant} {db db' : Database} {provider : VpsProvider} {vpsId id : Uuid}

/-- Registering a provider keeps endpoints under a limit apart. -/
theorem Database.Governed.createRecord {dto : CreateVpsProviderDto} {strict : Bool} (hgoverned : db.Governed env)
    (h : (createRecord env vpsId dto strict id).run db = .ok (provider, db')) : db'.Governed env := by
  obtain ⟨⟨aliases, havailable⟩, providers, hinserted, rfl⟩ := createRecord_ok h
  obtain ⟨hfree, -⟩ := assertEndpointAvailable_ok havailable
  intro p hp q hq hgoverns hsame
  rcases (Table.mem_insert? hinserted).mp hp with hp | rfl
  · rcases (Table.mem_insert? hinserted).mp hq with hq | rfl
    · exact hgoverned p hp q hq hgoverns hsame
    · have hplain := hsame.1
      rw [hsame.2] at hplain
      exact absurd hsame.2.symm (hfree p hp (by simp) hgoverns hplain)
  · -- a new provider has no limit and is not paused
    cases hgoverns

/-- The checks of an edit on the destination: where it names an endpoint, that endpoint is available. -/
theorem assertDestination_ok {current : VpsProvider} {dto : UpdateVpsProviderDto}
    {policy : Option EvolutionProviderUpdate} {r : Unit × Database}
    (h : (assertDestination env current dto policy).run db = .ok r) : ∀ url, dto.providerUrl = some url →
      ∃ r, (assertEndpointAvailable env url (some current.id)
        (policy.isSome || db.isControlledEvolution current)).run db = .ok r := by
  intro url hurl
  simp only [assertDestination, get_bind_ok] at h
  obtain ⟨_, h⟩ := (ReadOnly.doWhen assertEvolutionUnused_readOnly).bind_ok h
  obtain ⟨_, h⟩ := (ReadOnly.doWhen assertEvolutionUnused_readOnly).bind_ok h
  rw [throwWhen_bind_ok, hurl] at h
  obtain ⟨-, h⟩ := h
  obtain ⟨aliases, db₁, havailable, -⟩ := bind_ok.mp h
  exact ⟨(aliases, db₁), havailable⟩

/-- The checks of an edit on its policy: one that pauses the provider finds the endpoint it leaves it at
available, and one that limits it finds the provider ready and where it was. -/
theorem assertPolicy_ok {current : VpsProvider} {dto : UpdateVpsProviderDto} {policy : EvolutionProviderUpdate}
    {r : Unit × Database} (h : (assertPolicy env now current dto policy).run db = .ok r) :
    (policy.acceptingNewInstances = some false → ∃ r, (assertEndpointAvailable env
      (dto.providerUrl.getD current.providerUrl) (some current.id) true).run db = .ok r) ∧
    (∀ limit, policy.maxInstances = some (some limit) → changesDestination current dto (some policy) = false ∧
      ∀ q ∈ db.providers, q.id ≠ current.id → ¬SameEndpoint env current q) := by
  simp only [assertPolicy, get_bind_ok, throwWhen_bind_ok] at h
  obtain ⟨-, h⟩ := h
  have hconfirm : ReadOnly (doWhen (policy.confirmIdentity = true) (do
      throwWhen (canonicalEvolutionEndpoint env (dto.providerUrl.getD current.providerUrl) = none)
        (.badRequest "URL de Evolution inválida")
      let _ ← assertEndpointAvailable env (dto.providerUrl.getD current.providerUrl) (some current.id) true
      pure ())) :=
    ReadOnly.doWhen (ReadOnly.throwWhen.bind fun _ => assertEndpointAvailable_readOnly.bind fun _ =>
      ReadOnly.pure _)
  obtain ⟨_, h⟩ := hconfirm.bind_ok h
  obtain ⟨_, db₁, hpaused, hlimited⟩ := bind_ok.mp h
  have hsame : db₁ = db := by
    have hpause : ReadOnly (doWhen (policy.acceptingNewInstances = some false) (do
        let _ ← assertEndpointAvailable env (dto.providerUrl.getD current.providerUrl) (some current.id) true
        pure ())) :=
      ReadOnly.doWhen (assertEndpointAvailable_readOnly.bind fun _ => ReadOnly.pure _)
    exact hpause db _ hpaused
  subst hsame
  constructor
  · intro hpausing
    rw [doWhen, if_pos hpausing] at hpaused
    obtain ⟨aliases, db₂, havailable, -⟩ := bind_ok.mp hpaused
    exact ⟨(aliases, db₂), havailable⟩
  · intro limit hlimit
    rw [doWhen, if_pos (by rw [hlimit]; rfl)] at hlimited
    obtain ⟨_, hlimited⟩ := (ReadOnly.get.bind fun _ => ReadOnly.throwWhen).bind_ok hlimited
    rw [throwWhen_ok, not_not, List.append_eq_nil_iff] at hlimited
    obtain ⟨⟨hready, hmoved⟩, -⟩ := hlimited
    rw [reportedWhen_eq_nil, Bool.or_eq_true, not_or, Bool.not_eq_true] at hmoved
    refine ⟨hmoved.1, fun q hq hother => ?_⟩
    have halone := alone_of_readiness hready hq hother
    exact halone

/-- An edit that succeeded passed its checks in the database it started from. -/
theorem updateRecord_checks {dto : UpdateVpsProviderDto} {policy : Option EvolutionProviderUpdate}
    {r : VpsProvider × Database} (h : (updateRecord env now vpsId id dto policy).run db = .ok r) :
    ∃ current, db.providers.find? id = some current ∧
      r.2 = db.updateProvider id (·.edited env dto policy (changesDestination current dto policy)) ∧
      (∃ r, (assertDestination env current dto policy).run db = .ok r) ∧
      ∀ p, policy = some p → ∃ r, (assertPolicy env now current dto p).run db = .ok r := by
  rw [updateRecord, lockProvider_bind_ok] at h
  obtain ⟨current, hcurrent, h⟩ := h
  rw [throwWhen_bind_ok] at h
  obtain ⟨-, h⟩ := h
  obtain ⟨_, h⟩ := (ReadOnly.whenSome fun _ => ReadOnly.throwWhen).bind_ok h
  obtain ⟨_, db₁, hdestination, hrest⟩ := bind_ok.mp h
  obtain rfl : db₁ = db := assertDestination_readOnly db _ hdestination
  obtain ⟨_, db₂, hpolicy, hwrite⟩ := bind_ok.mp hrest
  obtain rfl : db₂ = db₁ := (ReadOnly.whenSome fun _ => assertPolicy_readOnly) db₁ _ hpolicy
  rw [modify_bind_ok, pure_ok] at hwrite
  refine ⟨current, hcurrent, by rw [hwrite], ⟨_, hdestination⟩, fun p hp => ?_⟩
  rw [hp] at hpolicy
  exact ⟨_, hpolicy⟩

/-- An edit that leaves a provider governing its endpoint found it so, gave it a limit or paused it. -/
theorem governs_edited {dto : UpdateVpsProviderDto} {policy : Option EvolutionProviderUpdate}
    {current : VpsProvider} {moved : Bool} (h : (current.edited env dto policy moved).governs = true) :
    current.governs = true ∨ ∃ p, policy = some p ∧
      ((∃ limit, p.maxInstances = some (some limit)) ∨ p.acceptingNewInstances = some false) := by
  cases policy with
  | none => exact Or.inl h
  | some p =>
    simp only [VpsProvider.governs, VpsProvider.edited, Option.bind_some, Bool.or_eq_true] at h ⊢
    rcases h with hlimited | hpaused
    · cases hmax : p.maxInstances with
      | none =>
        rw [hmax] at hlimited
        exact Or.inl (Or.inl hlimited)
      | some maxInstances =>
        rw [hmax] at hlimited
        obtain ⟨limit, hlimit⟩ := Option.isSome_iff_exists.mp hlimited
        exact Or.inr ⟨p, rfl, Or.inl ⟨limit, hmax.trans (congrArg some hlimit)⟩⟩
    · cases haccepting : p.acceptingNewInstances with
      | none =>
        rw [haccepting] at hpaused
        exact Or.inl (Or.inr hpaused)
      | some accepting =>
        rw [haccepting] at hpaused
        rw [Option.getD_some, Bool.not_eq_true'] at hpaused
        exact Or.inr ⟨p, rfl, Or.inr (haccepting.trans (congrArg some hpaused))⟩

/-- After an edit the provider and another one share an endpoint only where neither governs it. -/
theorem updateRecord_alone {dto : UpdateVpsProviderDto} {policy : Option EvolutionProviderUpdate}
    {current q : VpsProvider} {moved : Bool} (hgoverned : db.Governed env)
    (hcurrent : db.providers.find? id = some current)
    (hdestination : ∃ r, (assertDestination env current dto policy).run db = .ok r)
    (hpolicy : ∀ p, policy = some p → ∃ r, (assertPolicy env now current dto p).run db = .ok r)
    (hq : q ∈ db.providers) (hother : q.id ≠ id)
    (hgoverns : (current.edited env dto policy moved).governs = true ∨ q.governs = true) :
    ¬SameEndpoint env (current.edited env dto policy moved) q := by
  intro hsame
  obtain ⟨hmem, hid : current.id = id⟩ := Table.find?_eq_some.mp hcurrent
  subst hid
  have hexcept : some current.id ≠ some q.id := fun heq => hother (Option.some.inj heq).symm
  obtain ⟨_, hdestination⟩ := hdestination
  have hnamed := assertDestination_ok hdestination
  cases hurl : dto.providerUrl with
  | some url =>
    obtain ⟨_, havailable⟩ := hnamed url hurl
    obtain ⟨hfree, hstrict⟩ := assertEndpointAvailable_ok havailable
    have hendpoint : (current.edited env dto policy moved).providerUrl = url := by
      simp only [VpsProvider.edited, hurl, Option.getD_some]
    rw [SameEndpoint, hendpoint] at hsame
    by_cases hq' : q.governs = true
    · exact hfree q hq hexcept hq' hsame.1 hsame.2
    · -- the edited provider governs the endpoint, so the check was strict
      have hedited := hgoverns.resolve_right hq'
      refine hstrict ?_ q hq hexcept hsame.1 hsame.2
      cases policy with
      | some p => rfl
      | none => exact isControlledEvolution_of_governs hedited
  | none =>
    have hendpoint : (current.edited env dto policy moved).providerUrl = current.providerUrl := by
      simp only [VpsProvider.edited, hurl, Option.getD_none]
    have hstayed : SameEndpoint env current q := by
      rw [SameEndpoint, hendpoint] at hsame
      exact hsame
    by_cases hq' : q.governs = true
    · have hback : SameEndpoint env q current :=
        ⟨by rw [← hstayed.2]; exact hstayed.1, hstayed.2.symm⟩
      exact hother (congrArg VpsProvider.id (hgoverned q hq current hmem hq' hback))
    · rcases governs_edited (hgoverns.resolve_right hq') with hcurrent' | ⟨p, rfl, hlimits | hpauses⟩
      · exact hother (congrArg VpsProvider.id (hgoverned current hmem q hq hcurrent' hstayed)).symm
      · obtain ⟨limit, hlimit⟩ := hlimits
        obtain ⟨_, hchecked⟩ := hpolicy p rfl
        exact ((assertPolicy_ok hchecked).2 limit hlimit).2 q hq hother hstayed
      · obtain ⟨_, hchecked⟩ := hpolicy p rfl
        obtain ⟨_, havailable⟩ := (assertPolicy_ok hchecked).1 hpauses
        rw [hurl, Option.getD_none] at havailable
        exact (assertEndpointAvailable_ok havailable).2 rfl q hq hexcept hstayed.1 hstayed.2

/-- Editing a provider keeps endpoints under a limit apart. -/
theorem Database.Governed.updateRecord {dto : UpdateVpsProviderDto} {policy : Option EvolutionProviderUpdate}
    (hgoverned : db.Governed env)
    (h : (updateRecord env now vpsId id dto policy).run db = .ok (provider, db')) : db'.Governed env := by
  obtain ⟨current, hcurrent, heq, hdestination, hpolicy⟩ := updateRecord_checks h
  obtain rfl : db' = _ := heq
  obtain ⟨hmem, hid : current.id = id⟩ := Table.find?_eq_some.mp hcurrent
  intro p' hp' q' hq' hgoverns hsame
  obtain ⟨p, hp, rfl⟩ := mem_updateProvider.mp hp'
  obtain ⟨q, hq, rfl⟩ := mem_updateProvider.mp hq'
  by_cases hpid : p.id = id
  · obtain rfl : p = current := Table.eq_of_key_eq hp hmem (hpid.trans hid.symm)
    by_cases hqid : q.id = id
    · obtain rfl : q = p := Table.eq_of_key_eq hq hmem (hqid.trans hid.symm)
      rfl
    · rw [if_pos hpid] at hgoverns hsame
      rw [if_neg hqid] at hsame
      exact absurd hsame
        (updateRecord_alone hgoverned hcurrent hdestination hpolicy hq hqid (Or.inl hgoverns))
  · by_cases hqid : q.id = id
    · obtain rfl : q = current := Table.eq_of_key_eq hq hmem (hqid.trans hid.symm)
      rw [if_neg hpid] at hgoverns hsame
      rw [if_pos hqid] at hsame
      have hback : SameEndpoint env (q.edited env dto policy (changesDestination q dto policy)) p :=
        ⟨by rw [← hsame.2]; exact hsame.1, hsame.2.symm⟩
      exact absurd hback
        (updateRecord_alone hgoverned hcurrent hdestination hpolicy hp hpid (Or.inr hgoverns))
    · rw [if_neg hpid] at hgoverns hsame ⊢
      rw [if_neg hqid] at hsame ⊢
      exact hgoverned p hp q hq hgoverns hsame

end Records

section Changes

variable {env : Env} {now : Instant} {db db' : Database} {product : Product} {draft : EvolutionChangeInput}
  {productId id : Uuid} {revision : Nat} {actor : String}

/-- A provider that governs its endpoint once limits are set governed it before, or one of them is its
own. -/
theorem governs_foldl_limited (updates : List DraftProviderUpdate) (p : VpsProvider)
    (h : (updates.foldl (fun p update => if p.id = update.vpsProviderId then p.limited update.maxInstances else p)
      p).governs = true) :
    p.governs = true ∨ ∃ update ∈ updates, update.vpsProviderId = p.id ∧ update.maxInstances ≠ none := by
  induction updates generalizing p with
  | nil => exact Or.inl h
  | cons update updates ih =>
    rw [List.foldl_cons] at h
    by_cases hid : p.id = update.vpsProviderId
    · rw [if_pos hid] at h
      rcases ih (p.limited update.maxInstances) h with hlimited | ⟨later, hlater, hsame⟩
      · simp only [VpsProvider.governs, VpsProvider.limited, Bool.or_eq_true] at hlimited
        rcases hlimited with hset | hpaused
        · exact Or.inr ⟨update, List.mem_cons_self, hid.symm, Option.isSome_iff_ne_none.mp hset⟩
        · exact Or.inl (Bool.or_eq_true_iff.mpr (Or.inr hpaused))
      · exact Or.inr ⟨later, List.mem_cons_of_mem _ hlater, hsame⟩
    · rw [if_neg hid] at h
      rcases ih p h with hbefore | ⟨later, hlater, hsame⟩
      · exact Or.inl hbefore
      · exact Or.inr ⟨later, List.mem_cons_of_mem _ hlater, hsame⟩

/-- A provider that governs its endpoint once a draft is written governed it before, or the draft limits
it. -/
theorem governs_drafted {p : VpsProvider} (h : (p.drafted env draft).governs = true) :
    p.governs = true ∨ ∃ update ∈ draft.providerUpdates, update.vpsProviderId = p.id ∧
      update.maxInstances ≠ none := by
  unfold VpsProvider.drafted at h
  rw [foldl_update_column (·.governs) (fun identity : DraftIdentity => identity.vpsProviderId)
    (fun _ p => p.certified env) (fun _ _ => rfl)] at h
  exact governs_foldl_limited draft.providerUpdates p h

/-- Changes that keep their drafts carry no new limits. -/
theorem Database.DraftsRefined.of_kept (h : db.DraftsRefined)
    (hkept : ∀ c' ∈ db'.changes, ∃ c ∈ db.changes, c.draft = c'.draft) : db'.DraftsRefined := by
  intro c' hc' haction
  obtain ⟨c, hc, hdraft⟩ := hkept c' hc'
  rw [← hdraft] at haction ⊢
  exact h c hc haction

/-- Writing a draft whose limits were judged keeps endpoints under a limit apart. -/
theorem Database.Governed.drafted (now : Instant) (h : db.Governed env)
    (hrows : db'.providers.rows = db.providers.rows.map (·.drafted env draft))
    (hlimits : ∀ update ∈ draft.providerUpdates, update.maxInstances ≠ none →
      ∃ original, db.providers.find? update.vpsProviderId = some original ∧
        (db.evolutionReadiness env now (original.identified env draft) false).1 = []) : db'.Governed env := by
  intro p' hp' q' hq' hgoverns hsame
  rw [← Table.mem_rows, hrows] at hp' hq'
  obtain ⟨p, hp, rfl⟩ := List.mem_map.mp hp'
  obtain ⟨q, hq, rfl⟩ := List.mem_map.mp hq'
  have hurl : ∀ r : VpsProvider, (r.drafted env draft).providerUrl = r.providerUrl :=
    drafted_column (·.providerUrl) (fun _ _ => rfl) (fun _ => rfl)
  rw [SameEndpoint, hurl, hurl] at hsame
  rcases governs_drafted hgoverns with hbefore | ⟨update, hupdate, hid, hset⟩
  · rw [h p hp q hq hbefore hsame]
  · obtain ⟨original, horiginal, hreport⟩ := hlimits update hupdate hset
    obtain ⟨hmem, hkey : original.id = update.vpsProviderId⟩ := Table.find?_eq_some.mp horiginal
    obtain rfl : original = p := Table.eq_of_key_eq hmem hp (hkey.trans hid)
    have hidentified : (original.identified env draft).id = original.id ∧
        (original.identified env draft).providerUrl = original.providerUrl := by
      unfold VpsProvider.identified
      split <;> exact ⟨rfl, rfl⟩
    by_contra hne
    refine alone_of_readiness hreport hq (fun hqid => hne ?_) ?_
    · rw [Table.eq_of_key_eq hq hp (hqid.trans hidentified.1)]
    · rw [SameEndpoint, hidentified.2]
      exact hsame

/-- A change is applied. -/
theorem Database.Catalogued.apply {applied : Bool} (h : db.Catalogued env)
    (hrun : (apply env now productId id revision actor).run db = .ok (applied, db')) : db'.Catalogued env := by
  rcases apply_cases hrun with ⟨-, rfl⟩ | ⟨-, plan, row, hplanned, hwritten⟩
  · exact h
  · obtain ⟨db₁, audit, heffects, rfl⟩ := applyWrite_ok hwritten
    rw [hplanned.planned.2] at heffects
    have hkept := applyEffects_kept heffects
    have hrow := (Table.find?_eq_some.mp hplanned.found).1
    refine ⟨h.governed.drafted now hkept.providers fun update hupdate hset => ?_, h.drafts.of_kept fun c' hc' => ?_⟩
    · by_cases haction : row.draft.action = .configureCapacity
      · obtain ⟨-, hready⟩ := evaluateChange_ok (Or.inl haction) hplanned.evaluated
        exact (hready hplanned.ready).limits update hupdate hset
      · rw [h.drafts row hrow haction] at hupdate
        cases hupdate
    · obtain ⟨c, hc, rfl⟩ := mem_updateChanges.mp hc'
      rw [hkept.changes] at hc
      refine ⟨c, hc, ?_⟩
      split <;> rfl

/-- A change is prepared from a draft that the schema accepts. -/
theorem Database.Catalogued.create {input : EvolutionChangeInput} {row : EvolutionChange}
    (h : db.Catalogued env) (haccepted : input.accepted = true)
    (hrun : (create now productId input id).run db = .ok (row, db')) : db'.Catalogued env := by
  rcases create_ok hrun with rfl | ⟨hdraft, changes, hinserted, rfl⟩
  · exact h
  · refine ⟨h.governed, fun c hc haction => ?_⟩
    rcases (Table.mem_insert? hinserted).mp hc with hold | rfl
    · exact h.drafts c hold haction
    · rw [hdraft] at haction ⊢
      have hrefined : input.providerUpdates = [] := by
        simp only [EvolutionChangeInput.accepted, EvolutionChangeInput.refined, Bool.and_eq_true,
          Bool.or_eq_true, decide_eq_true_eq, List.isEmpty_iff] at haccepted
        obtain ⟨-, ⟨⟨⟨⟨⟨-, hcarried⟩, -⟩, -⟩, -⟩, -⟩, -⟩ := haccepted
        exact (hcarried.resolve_left haction).1.1.2
      simp only [normalizeDraft, hrefined, List.insertionSort]
      rfl

end Changes

/-- What reaches the catalog of providers. -/
inductive CatalogEvent
  | created (vpsId : Uuid) (dto : CreateVpsProviderDto) (strict : Bool) (id : Uuid)
  | updated (now : Instant) (vpsId id : Uuid) (dto : UpdateVpsProviderDto)
      (policy : Option EvolutionProviderUpdate)
  | prepared (now : Instant) (productId : Uuid) (input : EvolutionChangeInput) (id : Uuid)
  | applied (now : Instant) (productId id : Uuid) (revision : Nat) (actor : String)
  | beside
deriving DecidableEq, Repr

/-- What leaves the endpoints, limits and pauses of the providers and the drafts of the changes as they are,
whatever else it does. -/
structure Database.BesideCatalog (db db' : Database) : Prop where
  providers : ∃ f : VpsProvider → VpsProvider, db'.providers.rows = db.providers.rows.map f ∧
    ∀ p, (f p).providerUrl = p.providerUrl ∧ (f p).maxInstances = p.maxInstances ∧
      (f p).acceptingNewInstances = p.acceptingNewInstances
  changes : ∀ c' ∈ db'.changes, ∃ c ∈ db.changes, c.draft = c'.draft

/-- One step, under the catalog lock where it reaches the catalog: a provider is registered or edited, a
change is prepared from a draft the schema accepts or applied, or something happens beside them. A transaction
that fails commits nothing. -/
inductive CatalogStep (env : Env) (db : Database) : CatalogEvent → Database → Prop
  | created (vpsId : Uuid) (dto : CreateVpsProviderDto) (strict : Bool) (id : Uuid) :
      CatalogStep env db (.created vpsId dto strict id) (commit (createRecord env vpsId dto strict id) db)
  | updated (now : Instant) (vpsId id : Uuid) (dto : UpdateVpsProviderDto)
      (policy : Option EvolutionProviderUpdate) :
      CatalogStep env db (.updated now vpsId id dto policy) (commit (updateRecord env now vpsId id dto policy) db)
  | prepared (now : Instant) (productId : Uuid) (input : EvolutionChangeInput) (id : Uuid)
      (accepted : input.accepted = true) :
      CatalogStep env db (.prepared now productId input id) (commit (create now productId input id) db)
  | applied (now : Instant) (productId id : Uuid) (revision : Nat) (actor : String) :
      CatalogStep env db (.applied now productId id revision actor)
        (commit (apply env now productId id revision actor) db)
  | beside {db' : Database} (kept : db.BesideCatalog db') : CatalogStep env db .beside db'

section Runs

variable {env : Env} {db db' : Database}

/-- Every step keeps endpoints under a limit apart. -/
theorem Database.Catalogued.step {event : CatalogEvent} (h : db.Catalogued env)
    (hstep : CatalogStep env db event db') : db'.Catalogued env := by
  cases hstep with
  | created vpsId dto strict id =>
    refine commit_induction h fun provider db' hrun => ?_
    refine ⟨h.governed.createRecord hrun, h.drafts.of_kept fun c hc => ⟨c, ?_, rfl⟩⟩
    obtain ⟨-, providers, -, rfl⟩ := createRecord_ok hrun
    exact hc
  | updated now vpsId id dto policy =>
    refine commit_induction h fun provider db' hrun => ?_
    refine ⟨h.governed.updateRecord hrun, h.drafts.of_kept fun c hc => ⟨c, ?_, rfl⟩⟩
    obtain ⟨current, -, heq⟩ := updateRecord_ok hrun
    obtain rfl : db' = _ := heq
    exact hc
  | prepared now productId input id haccepted =>
    exact commit_induction h fun row db' hrun => h.create haccepted hrun
  | applied now productId id revision actor =>
    exact commit_induction h fun applied db' hrun => h.apply hrun
  | beside hkept =>
    refine ⟨fun p' hp' q' hq' hgoverns hsame => ?_, h.drafts.of_kept hkept.changes⟩
    obtain ⟨f, hrows, hcolumns⟩ := hkept.providers
    rw [← Table.mem_rows, hrows] at hp' hq'
    obtain ⟨p, hp, rfl⟩ := List.mem_map.mp hp'
    obtain ⟨q, hq, rfl⟩ := List.mem_map.mp hq'
    rw [VpsProvider.governs, (hcolumns p).2.1, (hcolumns p).2.2] at hgoverns
    rw [SameEndpoint, (hcolumns p).1, (hcolumns q).1] at hsame
    rw [h.governed p hp q hq hgoverns hsame]

/-- Wherever registering, editing and changing providers leads, in any order, a provider with a limit, or a
paused one, shares its endpoint with no other. -/
theorem governed_of_run {events : List CatalogEvent} (h : db.Catalogued env)
    (hrun : Run (CatalogStep env) db events db') : db'.Governed env :=
  (Run.invariant (fun _ _ _ hbefore hstep => hbefore.step hstep) hrun h).governed

/-- Where no provider has a limit or is paused and no change was prepared yet, as the columns and the table
are introduced, every endpoint is as it should be. -/
theorem catalogued_of_fresh (hproviders : ∀ p ∈ db.providers, p.governs = false)
    (hchanges : ∀ c, c ∉ db.changes) : db.Catalogued env := by
  refine ⟨fun p hp q hq hgoverns => ?_, fun c hc => absurd hc (hchanges c)⟩
  rw [hproviders p hp] at hgoverns
  cases hgoverns

end Runs

/-- The small installation has one provider, so its endpoint is registered once. -/
theorem catalogued_smallDatabase : smallDatabase.Catalogued smallEnv := by
  refine ⟨fun p hp q hq _ _ => ?_, fun c hc => ?_⟩
  · cases List.mem_singleton.mp hp
    cases List.mem_singleton.mp hq
    rfl
  · cases hc

/-- A second registration of the limited endpoint of the small installation, by an edit of a provider that
was registered elsewhere. -/
theorem governed_of_run_small :
    (commit (updateRecord smallEnv 0 smallServer.id ⟨"second", by decide⟩
        { providerUrl := some smallProvider.providerUrl } none)
      (commit (createRecord smallEnv smallServer.id ⟨"elsewhere", "sealed", none⟩ false ⟨"second", by decide⟩)
        smallDatabase)).Governed smallEnv :=
  governed_of_run catalogued_smallDatabase
    (Run.cons (.created smallServer.id ⟨"elsewhere", "sealed", none⟩ false ⟨"second", by decide⟩)
      (Run.cons (.updated 0 smallServer.id ⟨"second", by decide⟩
        { providerUrl := some smallProvider.providerUrl } none) (Run.nil _)))

end ConnectHub
