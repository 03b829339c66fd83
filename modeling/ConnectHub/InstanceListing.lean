import ConnectHub.Batch
import ConnectHub.HostLanes
import ConnectHub.NameClaims
import ConnectHub.PreparedMedia
import ConnectHub.RelayRewrites
import ConnectHub.RelaySecrecy

/-!
# The list of a product's sessions

A listing asks the hosts of the selected instances, and joins their answers with what the Hub has on record. A
session is shown only for the instance of its name, on its host and without another id on record; where a host
fails or a session is not the only one, nothing is shown at all.
-/

namespace ConnectHub

open Store

section Model

/-- Whether a value counts as false. -/
def Json.isFalsy : Json → Bool
  | .null => true
  | .bool b => !b
  | .number numeral => isZeroNumeral numeral.toList
  | .str s => s.isEmpty
  | .arr _ => false
  | .obj _ => false

/-- The remote id of a session. -/
def remoteId (row : SessionRow) : Option Json :=
  ((Json.obj row).given "id").or ((Json.obj row).member? "instanceId")

/-- Whether a session has a name. -/
def isNamed (name : String) (row : SessionRow) : Bool :=
  ((Json.obj row).member? "instanceName").bind Json.str? = some name

/-- The number in the address of an owner. -/
def jidNumber (ownerJid : String) : Option String :=
  let digits := ownerJid.toList.takeWhile Char.isDigit
  if digits ≠ [] ∧ ownerJid.toList = digits ++ "@s.whatsapp.net".toList then some (String.ofList digits) else none

/-- Whether a session has no number of its own. -/
def numberIsEmpty (row : SessionRow) : Bool :=
  match (Json.obj row).member? "number" with
  | none => true
  | some .null => true
  | some (.str number) => trimmed number = ""
  | some _ => false

/-- A session with the number of its owner, where it has none of its own. -/
def withInstanceNumber (adapterType : String) (row : SessionRow) : SessionRow :=
  if adapterType ≠ "evolution" then row
  else if !numberIsEmpty row then row
  else
    match (((Json.obj row).member? "ownerJid").bind Json.str?).bind jidNumber with
    | some number => setMember "number" (.str number) row
    | none => row

/-- Whether a session has the remote id or the name of an instance. -/
def Instance.matchesRow (hub : Instance) (row : SessionRow) : Bool :=
  (truthy hub.providerInstanceId && (remoteId row).bind Json.str? = hub.providerInstanceId) ||
    isNamed hub.instanceName row

/-- Whether a session has another name than an instance, or another remote id than is on record. -/
def Instance.diverges (hub : Instance) (row : SessionRow) : Bool :=
  !isNamed hub.instanceName row ||
    (truthy hub.providerInstanceId && ((remoteId row).any fun id => !id.isFalsy) &&
      (remoteId row).bind Json.str? ≠ hub.providerInstanceId)

variable {ω : Type} (env : SyncEnv ω)

/-- A session as it is listed for an instance. -/
def shownSession (adapterType : String) (hub : Instance) (row : SessionRow) : SessionRow :=
  setMember "hubId" (.str hub.id.value)
    (withInstanceNumber adapterType (Json.withoutMembers env.isRelayToken row))

/-- The session of an instance among the answers, if its host has one. -/
def listHub (results : List (Uuid × HostRows)) (hub : Instance) : Except ListError (Option SessionRow) :=
  match results.lookup hub.vpsProviderId with
  | none => .error .undefinedResult
  | some result =>
    match result.rows.filter hub.matchesRow with
    | [] => .ok none
    | [row] =>
      if hub.diverges row then .error (.http 409 "Identidade de instância divergente no provider")
      else .ok (some (shownSession env result.adapterType hub row))
    | _ => .error (.http 409 "Identidade de instância ambígua no provider")

/-- The sessions of the instances, one after another. -/
def listHubs (results : List (Uuid × HostRows)) : List Instance → Except ListError (List SessionRow)
  | [] => .ok []
  | hub :: hubs => do
    let shown ← listHub env results hub
    let rest ← listHubs results hubs
    pure (shown.toList ++ rest)

/-- The filter that is applied; a blank one is none. -/
def appliedFilter (instanceNameFilter : Option String) : Option String :=
  (instanceNameFilter.map trimmed).filter (· ≠ "")

variable (contains : String → String → Bool) (newerFirst : Instance → Instance → Bool)

/-- The active instances of a product whose name contains the filter, the newest first. -/
def Database.selectedInstances (db : Database) (productId : Uuid) (nameFilter : Option String) : List Instance :=
  (db.instances.rows.filter fun item => item.productId = productId && item.isActive &&
    nameFilter.all (contains item.instanceName)).mergeSort newerFirst

/-- A set of hosts with one more. -/
def addHost (ids : List Uuid) (id : Uuid) : List Uuid := if id ∈ ids then ids else ids ++ [id]

/-- The hosts of the selected instances, and the default one unless the list is filtered. -/
def requiredHosts (hubs : List Instance) (nameFilter : Option String) (default : Option Uuid) : List Uuid :=
  let ids := (hubs.map (·.vpsProviderId)).foldl addHost []
  match nameFilter, default with
  | none, some id => addHost ids id
  | _, _ => ids

/-- What a listing is to do: it is refused, has nothing to show, or asks hosts. -/
inductive ListingPlan
  | refused (error : ListError)
  | empty
  | ask (hubs : List Instance) (ids : List Uuid)

/-- Plan a listing for a product as it was read. -/
def planListing (current : Option Product) (hubs : List Instance) (nameFilter : Option String) : ListingPlan :=
  match current with
  | none => .refused (.http 404 "Produto não encontrado")
  | some current =>
    match requiredHosts hubs nameFilter current.vpsProviderId, current.vpsProviderId with
    | [], none => .refused (.http 400 "Produto sem VpsProvider associado")
    | [], some id => if nameFilter.isSome then .empty else .ask hubs [id]
    | ids, _ => .ask hubs ids

/-- How a failure is shown: as it is from the only host, or if time ran out. -/
def ListError.shown (hosts : ℕ) : ListError → ListError
  | .http status message =>
    if hosts = 1 || [408, 504].contains status then .http status message
    else .http 502 "Falha ao consultar instâncias nos providers"
  | _ => .http 502 "Falha ao consultar instâncias nos providers"

/-- What the listing ends in when all lanes are done. -/
def concludeListing (hubs : List Instance) (ids : List Uuid) (s : ListingState) :
    Except ListError (List SessionRow) :=
  match s.failure with
  | some failure => .error (failure.shown ids.length)
  | none => listHubs env s.results hubs

/-- A listing under way: what its lanes share, and what it ended in if it did. -/
structure Listing where
  shared : ListingState := {}
  outcome : Option (Except ListError (List SessionRow))

/-- The plan of a listing after some events. -/
def ListingPlan.run (events : List ListingEvent) : ListingPlan → Listing
  | .refused error => { outcome := some (.error error) }
  | .empty => { outcome := some (.ok []) }
  | .ask hubs ids =>
    let w := (HostLanes.initial ids).exec ids events
    { shared := w.shared
      outcome := if w.finished then some (concludeListing env hubs ids w.shared) else none }

/-- List the sessions of a product. -/
def listInstances (current : Option Product) (db : Database) (productId : Uuid)
    (instanceNameFilter : Option String) (events : List ListingEvent) : Listing :=
  let nameFilter := appliedFilter instanceNameFilter
  (planListing current (db.selectedInstances contains newerFirst productId nameFilter) nameFilter).run env events

end Model

section Rows

variable {ω : Type} {env : SyncEnv ω} {row : SessionRow} {hub : Instance}

/-- A member that is given a value has it, and the others keep theirs. -/
theorem member?_setMember (name : String) (value : Json) (row : SessionRow) (other : String) :
    (Json.obj (setMember name value row)).member? other =
      if other = name then some value else (Json.obj row).member? other := by
  change List.lookup _ _ = if _ then _ else List.lookup _ _
  induction row with
  | nil => exact lookup_cons_eq other name value []
  | cons member row ih =>
    obtain ⟨first, found⟩ := member
    rw [setMember, lookup_cons_eq]
    by_cases hfirst : name = first
    · rw [if_pos hfirst, lookup_cons_eq, ← hfirst]
      split <;> rfl
    · rw [if_neg hfirst, lookup_cons_eq, ih]
      by_cases hother : other = first
      · have hne : other ≠ name := fun hsame => hfirst (hsame.symm.trans hother)
        rw [if_pos hother, if_neg hne, if_pos hother]
      · rw [if_neg hother, if_neg hother]

/-- A number is all that a session may be given. -/
theorem member?_withInstanceNumber (adapterType : String) (row : SessionRow) {name : String}
    (hname : name ≠ "number") :
    (Json.obj (withInstanceNumber adapterType row)).member? name = (Json.obj row).member? name := by
  unfold withInstanceNumber
  split
  · rfl
  · split
    · rfl
    · split
      · rw [member?_setMember, if_neg hname]
      · rfl

/-- A member that is not dropped is still there, without what is dropped inside it. -/
theorem member?_withoutMembers {drop : String → Bool} (members : List (String × Json)) {name : String}
    (hname : drop name = false) :
    (Json.obj (Json.withoutMembers drop members)).member? name =
      ((Json.obj members).member? name).map (Json.without drop) := by
  change List.lookup _ _ = Option.map _ (List.lookup _ _)
  induction members with
  | nil => rfl
  | cons member members ih =>
    obtain ⟨other, value⟩ := member
    by_cases hdrop : drop other = true
    · have hother : name ≠ other := fun hsame => by
        rw [hsame, hdrop] at hname
        cases hname
      rw [Json.withoutMembers, if_pos hdrop, ih, lookup_cons_eq, if_neg hother]
    · rw [Json.withoutMembers, if_neg hdrop, lookup_cons_eq, lookup_cons_eq, ih]
      split <;> rfl

/-- What is dropped inside a value changes none of its text. -/
theorem str?_without (drop : String → Bool) (value : Json) : (value.without drop).str? = value.str? := by
  cases value <;> rfl

/-- Nor whether it counts as false. -/
theorem isFalsy_without (drop : String → Bool) (value : Json) : (value.without drop).isFalsy = value.isFalsy := by
  cases value <;> rfl

/-- Nor whether it is null. -/
theorem nonNull_without (drop : String → Bool) (value : Json) :
    Json.nonNull (some (value.without drop)) = Json.nonNull (some value) := by
  cases value <;> rfl

/-- What is shown of a session has the instance's id, and its other members but for the number. -/
theorem member?_shownSession (adapterType : String) (hub : Instance) (row : SessionRow) {name : String}
    (hnumber : name ≠ "number") (hid : name ≠ "hubId") (hkept : env.isRelayToken name = false) :
    (Json.obj (shownSession env adapterType hub row)).member? name =
      ((Json.obj row).member? name).map (Json.without env.isRelayToken) := by
  rw [shownSession, member?_setMember, if_neg hid, member?_withInstanceNumber _ _ hnumber,
    member?_withoutMembers row hkept]

/-- What is shown of a session is named as the session. -/
theorem instanceName_shownSession (adapterType : String) (hnamed : isNamed hub.instanceName row = true) :
    (Json.obj (shownSession env adapterType hub row)).member? "instanceName" = some (.str hub.instanceName) := by
  have hkept : env.isRelayToken "instanceName" = false := isRelayToken_of_length (by decide) (by decide)
  rw [member?_shownSession adapterType hub row (by decide) (by decide) hkept]
  unfold isNamed at hnamed
  obtain ⟨value, hvalue, htext⟩ := Option.bind_eq_some_iff.mp (of_decide_eq_true hnamed)
  rw [hvalue]
  cases value with
  | str text =>
    cases htext
    rfl
  | _ => cases htext

/-- And it has the remote id of the session. -/
theorem remoteId_shownSession (adapterType : String) (hub : Instance) (row : SessionRow) :
    remoteId (shownSession env adapterType hub row) = (remoteId row).map (Json.without env.isRelayToken) := by
  have hid : env.isRelayToken "id" = false := isRelayToken_of_length (by decide) (by decide)
  have hinstanceId : env.isRelayToken "instanceId" = false := isRelayToken_of_length (by decide) (by decide)
  unfold remoteId Json.given
  rw [member?_shownSession adapterType hub row (by decide) (by decide) hid,
    member?_shownSession adapterType hub row (by decide) (by decide) hinstanceId]
  cases (Json.obj row).member? "id" with
  | none => rfl
  | some value =>
    rw [Option.map_some, Option.filter_some, Option.filter_some, nonNull_without]
    split <;> rfl

end Rows

section Hosts

variable {hubs hubs' : List Instance} {nameFilter : Option String} {current : Option Product} {ids : List Uuid}

/-- A host is needed if an instance is there, or for a list without a filter if it is the default one. -/
def RequiredHost (current : Option Product) (hubs : List Instance) (nameFilter : Option String) (id : Uuid) : Prop :=
  (∃ hub ∈ hubs, hub.vpsProviderId = id) ∨
    nameFilter = none ∧ ∃ product, current = some product ∧ product.vpsProviderId = some id

/-- A set with one more has what it had and that one. -/
theorem mem_addHost {id other : Uuid} : other ∈ addHost ids id ↔ other ∈ ids ∨ other = id := by
  unfold addHost
  split
  · exact ⟨Or.inl, fun h => h.elim (fun hmem => hmem) fun hsame => by rwa [hsame]⟩
  · rw [List.mem_append, List.mem_singleton]

/-- It has nothing twice. -/
theorem nodup_addHost {id : Uuid} (h : ids.Nodup) : (addHost ids id).Nodup := by
  unfold addHost
  split
  · exact h
  · next hnew => exact h.append (List.nodup_singleton id) (List.disjoint_singleton.mpr hnew)

/-- A set with several more has them, and nothing twice. -/
theorem foldl_addHost (more : List Uuid) (h : ids.Nodup) :
    (more.foldl addHost ids).Nodup ∧ ∀ id, id ∈ more.foldl addHost ids ↔ id ∈ ids ∨ id ∈ more := by
  induction more generalizing ids with
  | nil => exact ⟨h, fun id => by simp only [List.foldl_nil, List.not_mem_nil, or_false]⟩
  | cons first more ih =>
    obtain ⟨hnodup, hmem⟩ := ih (nodup_addHost h)
    refine ⟨hnodup, fun id => ?_⟩
    rw [List.foldl_cons, hmem, mem_addHost, List.mem_cons, or_assoc]

/-- The hosts of a listing are those that are needed, none of them twice. -/
theorem requiredHosts_spec (product : Product) (hubs : List Instance) (nameFilter : Option String) :
    (requiredHosts hubs nameFilter product.vpsProviderId).Nodup ∧
      ∀ id, id ∈ requiredHosts hubs nameFilter product.vpsProviderId ↔
        RequiredHost (some product) hubs nameFilter id := by
  obtain ⟨hnodup, hmem⟩ := foldl_addHost (hubs.map (·.vpsProviderId)) List.nodup_nil
  have hhubs : ∀ id, id ∈ (hubs.map (·.vpsProviderId)).foldl addHost [] ↔ ∃ hub ∈ hubs, hub.vpsProviderId = id := by
    intro id
    rw [hmem, List.mem_map]
    exact or_iff_right List.not_mem_nil
  unfold requiredHosts RequiredHost
  cases nameFilter with
  | some text =>
    refine ⟨hnodup, fun id => ?_⟩
    rw [hhubs]
    simp only [reduceCtorEq, false_and, or_false]
  | none =>
    cases hdefault : product.vpsProviderId with
    | none =>
      refine ⟨hnodup, fun id => ?_⟩
      rw [hhubs]
      simp only [Option.some.injEq, exists_eq_left', hdefault, reduceCtorEq, and_false, or_false]
    | some default =>
      refine ⟨nodup_addHost hnodup, fun id => ?_⟩
      rw [mem_addHost, hhubs]
      simp only [Option.some.injEq, exists_eq_left', hdefault, true_and, eq_comm]

/-- A listing that asks hosts asks those that are needed, none of them twice. -/
theorem planListing_ask (h : planListing current hubs nameFilter = .ask hubs' ids) :
    hubs' = hubs ∧ ids.Nodup ∧ ∀ id, id ∈ ids ↔ RequiredHost current hubs nameFilter id := by
  cases current with
  | none => cases h
  | some product =>
    have hspec := requiredHosts_spec product hubs nameFilter
    rw [planListing] at h
    split at h
    · cases h
    · next id hnone hdefault =>
      split at h
      · cases h
      · next hfilter =>
        -- Without a filter the default host is needed.
        have hrequired : RequiredHost (some product) hubs nameFilter id :=
          .inr ⟨Option.not_isSome_iff_eq_none.mp hfilter, product, rfl, hdefault⟩
        rw [← hspec.2, hnone] at hrequired
        cases hrequired
    · cases h
      exact ⟨rfl, hspec⟩

/-- One that has nothing to show needs no host. -/
theorem planListing_empty (h : planListing current hubs nameFilter = .empty) :
    hubs = [] ∧ ∀ id, ¬RequiredHost current hubs nameFilter id := by
  cases current with
  | none => cases h
  | some product =>
    have hspec := requiredHosts_spec product hubs nameFilter
    rw [planListing] at h
    split at h
    · cases h
    · next id hnone hdefault =>
      have hfree : ∀ id, ¬RequiredHost (some product) hubs nameFilter id := fun id hrequired => by
        rw [← hspec.2, hnone] at hrequired
        cases hrequired
      exact ⟨List.eq_nil_iff_forall_not_mem.mpr fun hub hmem => hfree _ (.inl ⟨hub, hmem, rfl⟩), hfree⟩
    · cases h

/-- One is never refused because a result is missing. -/
theorem planListing_refused {error : ListError} (h : planListing current hubs nameFilter = .refused error) :
    error ≠ .undefinedResult := by
  unfold planListing at h
  split at h
  · cases h
    exact nofun
  · split at h
    · cases h
      exact nofun
    · split at h <;> cases h
    · cases h

end Hosts

section Join

variable {ω : Type} {env : SyncEnv ω} {results : List (Uuid × HostRows)} {hub : Instance} {hubs : List Instance}
  {rows : List SessionRow}

/-- An instance, the answer of its host and its session there. -/
structure SessionMatch where
  hub : Instance
  host : HostRows
  row : SessionRow

/-- What is shown of it. -/
def SessionMatch.shown (env : SyncEnv ω) (found : SessionMatch) : SessionRow :=
  shownSession env found.host.adapterType found.hub found.row

/-- The session is the only one of its host that is taken for the instance, and it is no other. -/
structure SessionMatch.Sole (results : List (Uuid × HostRows)) (found : SessionMatch) : Prop where
  answer : results.lookup found.hub.vpsProviderId = some found.host
  only : found.host.rows.filter found.hub.matchesRow = [found.row]
  same : found.hub.diverges found.row = false

/-- What is shown for an instance has its id and its name, and no other remote id than is on record. -/
structure ShownFor (hub : Instance) (shown : SessionRow) : Prop where
  hubId : (Json.obj shown).member? "hubId" = some (.str hub.id.value)
  instanceName : (Json.obj shown).member? "instanceName" = some (.str hub.instanceName)
  remote : truthy hub.providerInstanceId = true → ∀ id, remoteId shown = some id → id.isFalsy = false →
    id.str? = hub.providerInstanceId

/-- Two sessions are different ones: of different instances and of different names, and where one host gives
them the same id, neither instance has it on record. -/
structure SessionMatch.Apart (a b : SessionMatch) : Prop where
  hubs : a.hub.id ≠ b.hub.id
  names : ∀ name, isNamed name a.row = true → isNamed name b.row = false
  ids : a.hub.vpsProviderId = b.hub.vpsProviderId → ∀ id, id ≠ "" → (remoteId a.row).bind Json.str? = some id →
    (remoteId b.row).bind Json.str? = some id →
    truthy a.hub.providerInstanceId = false ∧ truthy b.hub.providerInstanceId = false

/-- A session that does not diverge has the name, and no other remote id than is on record. -/
theorem diverges_eq_false {row : SessionRow} :
    hub.diverges row = false ↔ isNamed hub.instanceName row = true ∧
      (truthy hub.providerInstanceId = true → ∀ id, remoteId row = some id → id.isFalsy = false →
        id.str? = hub.providerInstanceId) := by
  unfold Instance.diverges
  cases remoteId row with
  | none =>
    simp only [Option.any_none, Bool.and_false, Bool.false_and, Bool.or_false, Bool.not_eq_false', reduceCtorEq,
      false_implies, implies_true, and_true]
  | some own =>
    simp only [Option.any_some, Option.bind_some, Option.some.injEq, forall_eq', Bool.or_eq_false_iff,
      Bool.not_eq_false', Bool.and_eq_false_imp, Bool.and_eq_true, Bool.not_eq_true', decide_eq_false_iff_not,
      ne_eq, not_not, and_imp]

/-- What is shown of a session that does not diverge is shown for its instance. -/
theorem SessionMatch.Sole.shownFor {found : SessionMatch} (h : found.Sole results) :
    ShownFor found.hub (found.shown env) := by
  obtain ⟨hnamed, hremote⟩ := diverges_eq_false.mp h.same
  refine ⟨?_, instanceName_shownSession _ hnamed, fun hrecorded id hid hfalsy => ?_⟩
  · exact (member?_setMember _ _ _ _).trans (if_pos rfl)
  · rw [SessionMatch.shown, remoteId_shownSession] at hid
    obtain ⟨own, hown, rfl⟩ := Option.map_eq_some_iff.mp hid
    rw [isFalsy_without] at hfalsy
    rw [str?_without]
    exact hremote hrecorded own hown hfalsy

/-- A session has one name. -/
theorem isNamed_unique {name other : String} {row : SessionRow} (h : isNamed name row = true)
    (hother : isNamed other row = true) : other = name :=
  Option.some.inj ((of_decide_eq_true hother).symm.trans (of_decide_eq_true h))

/-- An instance with another name does not have the id on record that its own session and another one of the
host share. -/
theorem SessionMatch.Sole.unrecorded {a b : SessionMatch} (ha : a.Sole results) (hb : b.Sole results)
    (hname : a.hub.instanceName ≠ b.hub.instanceName) (hhost : a.hub.vpsProviderId = b.hub.vpsProviderId)
    {id : String} (hid : id ≠ "") (haid : (remoteId a.row).bind Json.str? = some id)
    (hbid : (remoteId b.row).bind Json.str? = some id) : truthy a.hub.providerInstanceId = false := by
  by_contra hrecorded
  rw [Bool.not_eq_false] at hrecorded
  obtain ⟨hanamed, hremote⟩ := diverges_eq_false.mp ha.same
  obtain ⟨hbnamed, -⟩ := diverges_eq_false.mp hb.same
  have hrecord : some id = a.hub.providerInstanceId := by
    obtain ⟨value, hvalue, htext⟩ := Option.bind_eq_some_iff.mp haid
    cases value with
    | str text =>
      cases htext
      exact hremote hrecorded _ hvalue (by simpa only [Json.isFalsy, String.isEmpty_eq_false_iff] using hid)
    | _ => cases htext
  -- The other session would be taken for the instance as well.
  have hmatches : a.hub.matchesRow b.row = true := by
    rw [Instance.matchesRow, hrecorded, hbid, ← hrecord, decide_eq_true rfl]
    rfl
  have hanswer : a.host = b.host := Option.some.inj (by rw [← ha.answer, ← hb.answer, hhost])
  have hrow : b.row ∈ b.host.rows := List.mem_of_mem_filter (hb.only ▸ List.mem_singleton_self b.row)
  have hsame : b.row = a.row := by
    rw [← hanswer] at hrow
    exact List.mem_singleton.mp (ha.only ▸ List.mem_filter.mpr ⟨hrow, hmatches⟩)
  rw [hsame] at hbnamed
  exact hname (isNamed_unique hbnamed hanamed)

/-- Sessions of instances with different names are different ones. -/
theorem SessionMatch.Sole.apart {a b : SessionMatch} (ha : a.Sole results) (hb : b.Sole results)
    (hid : a.hub.id ≠ b.hub.id) (hname : a.hub.instanceName ≠ b.hub.instanceName) : a.Apart b where
  hubs := hid
  names := fun name hnamed => by
    by_contra hboth
    rw [Bool.not_eq_false] at hboth
    have hfirst := isNamed_unique (diverges_eq_false.mp ha.same).1 hnamed
    have hsecond := isNamed_unique (diverges_eq_false.mp hb.same).1 hboth
    exact hname (hfirst.symm.trans hsecond)
  ids := fun hhost _ hne haid hbid =>
    ⟨ha.unrecorded hb hname hhost hne haid hbid, hb.unrecorded ha hname.symm hhost.symm hne hbid haid⟩

/-- An answer of an instance is its only session on its host, or it has none there. -/
theorem listHub_ok {shown : Option SessionRow} (h : listHub env results hub = .ok shown) :
    (shown = none ∧ ∃ host, results.lookup hub.vpsProviderId = some host ∧
      host.rows.filter hub.matchesRow = []) ∨
    ∃ found : SessionMatch, found.hub = hub ∧ found.Sole results ∧ shown = some (found.shown env) := by
  unfold listHub at h
  split at h
  · cases h
  · next host hhost =>
    split at h
    · next hnone =>
      cases h
      exact .inl ⟨rfl, host, hhost, hnone⟩
    · next row hrow =>
      split at h
      · cases h
      · next hsame =>
        cases h
        exact .inr ⟨⟨hub, host, row⟩, rfl, ⟨hhost, hrow, eq_false_of_ne_true hsame⟩, rfl⟩
    · cases h

/-- The list has, in the order of the instances, the only session of each that has one. -/
theorem listHubs_ok (h : listHubs env results hubs = .ok rows) :
    ∃ found : List SessionMatch, rows = found.map (·.shown env) ∧ (found.map (·.hub)).Sublist hubs ∧
      (∀ m ∈ found, m.Sole results) ∧
      ∀ hub ∈ hubs, (∃ m ∈ found, m.hub = hub) ∨ ∃ host, results.lookup hub.vpsProviderId = some host ∧
        host.rows.filter hub.matchesRow = [] := by
  induction hubs generalizing rows with
  | nil =>
    cases h
    exact ⟨[], rfl, List.Sublist.slnil, nofun, nofun⟩
  | cons hub hubs ih =>
    rw [listHubs] at h
    obtain ⟨shown, hshown, h⟩ := except_bind_ok.mp h
    obtain ⟨rest, hrest, h⟩ := except_bind_ok.mp h
    cases h
    obtain ⟨found, rfl, hsublist, hsole, hall⟩ := ih hrest
    rcases listHub_ok hshown with ⟨rfl, hnone⟩ | ⟨m, rfl, hm, rfl⟩
    · refine ⟨found, rfl, hsublist.cons _, hsole, fun other hother => ?_⟩
      rcases List.mem_cons.mp hother with rfl | hother
      · exact .inr hnone
      · exact hall other hother
    · refine ⟨m :: found, rfl, hsublist.cons_cons _, List.forall_mem_cons.mpr ⟨hm, hsole⟩, fun other hother => ?_⟩
      rcases List.mem_cons.mp hother with rfl | hother
      · exact .inl ⟨m, List.mem_cons_self, rfl⟩
      · exact (hall other hother).imp_left fun ⟨n, hn, hhub⟩ => ⟨n, List.mem_cons_of_mem _ hn, hhub⟩

/-- Where every host has answered, no result is missing. -/
theorem listHubs_answered (h : ∀ hub ∈ hubs, ∃ host, results.lookup hub.vpsProviderId = some host) :
    listHubs env results hubs ≠ .error .undefinedResult := by
  induction hubs with
  | nil => exact nofun
  | cons hub hubs ih =>
    obtain ⟨host, hhost⟩ := h hub List.mem_cons_self
    have hrest := ih fun other hother => h other (List.mem_cons_of_mem _ hother)
    have hfirst : listHub env results hub ≠ .error .undefinedResult := by
      unfold listHub
      rw [hhost]
      dsimp only
      split
      · exact nofun
      · split <;> exact nofun
      · exact nofun
    rw [listHubs]
    cases hlisted : listHub env results hub with
    | error error =>
      rw [hlisted] at hfirst
      exact fun h => hfirst (congrArg Except.error (Except.error.inj h))
    | ok shown =>
      cases hlater : listHubs env results hubs with
      | error error =>
        rw [hlater] at hrest
        exact fun h => hrest (congrArg Except.error (Except.error.inj h))
      | ok rows => exact nofun

end Join

section Listing

variable {ω : Type} {env : SyncEnv ω} {contains : String → String → Bool} {newerFirst : Instance → Instance → Bool}
  {current : Option Product} {db : Database} {productId : Uuid} {nameFilter : Option String} {hubs : List Instance}
  {ids : List Uuid} {rows : List SessionRow}

/-- The selected instances are active ones of the product. -/
theorem mem_selectedInstances {hub : Instance}
    (h : hub ∈ db.selectedInstances contains newerFirst productId nameFilter) :
    hub ∈ db.instances ∧ hub.productId = productId ∧ hub.isActive = true := by
  have hmem := (List.mergeSort_perm _ _).mem_iff.mp h
  simp only [List.mem_filter, Bool.and_eq_true, decide_eq_true_eq] at hmem
  exact ⟨hmem.1, hmem.2.1.1, hmem.2.1.2⟩

/-- No two of them have the same id or the same name. -/
theorem selectedInstances_apart (hunique : db.InstanceNamesUnique) (contains : String → String → Bool)
    (newerFirst : Instance → Instance → Bool) (productId : Uuid) (nameFilter : Option String) :
    (db.selectedInstances contains newerFirst productId nameFilter).Pairwise fun a b =>
      a.id ≠ b.id ∧ a.instanceName ≠ b.instanceName := by
  have hkeys : db.instances.rows.Pairwise fun a b => a.id ≠ b.id := List.pairwise_map.mp db.instances.nodup
  have hids : (db.selectedInstances contains newerFirst productId nameFilter).Pairwise fun a b => a.id ≠ b.id :=
    ((List.mergeSort_perm _ _).pairwise_iff Ne.symm).mpr (hkeys.filter _)
  refine hids.imp_of_mem fun {a b} ha hb hid => ⟨hid, fun hname => hid ?_⟩
  obtain ⟨ha, hproduct, -⟩ := mem_selectedInstances ha
  obtain ⟨hb, hother, -⟩ := mem_selectedInstances hb
  rw [hunique a ha b hb ⟨hname, .inr (hproduct.trans hother.symm)⟩]

/-- A failure is never shown as a missing result. -/
theorem shown_ne_undefinedResult (error : ListError) (hosts : ℕ) : error.shown hosts ≠ .undefinedResult := by
  unfold ListError.shown
  split
  · split <;> exact nofun
  · exact nofun

/-- A list is what joining gives where nothing failed. -/
theorem concludeListing_ok {s : ListingState} (h : concludeListing env hubs ids s = .ok rows) :
    s.failure = none ∧ listHubs env s.results hubs = .ok rows := by
  unfold concludeListing at h
  split at h
  · cases h
  · next hfailure => exact ⟨hfailure, h⟩

/-- A missing result could only be read where nothing failed. -/
theorem concludeListing_undefined {s : ListingState}
    (h : concludeListing env hubs ids s = .error .undefinedResult) :
    s.failure = none ∧ listHubs env s.results hubs = .error .undefinedResult := by
  unfold concludeListing at h
  split at h
  · exact absurd (Except.error.inj h) (shown_ne_undefinedResult _ _)
  · next hfailure => exact ⟨hfailure, h⟩

/-- What a list without a failure guarantees. -/
structure Listing.Complete (env : SyncEnv ω) (hubs : List Instance) (listing : Listing)
    (required : Uuid → Prop) (rows : List SessionRow) : Prop where
  noneFailed : listing.shared.failed = []
  askedOnce : ∀ id, required id → listing.shared.queries.count id = 1
  joined : ∃ found : List SessionMatch, rows = found.map (·.shown env) ∧ (found.map (·.hub)).Sublist hubs ∧
    (∀ m ∈ found, m.Sole listing.shared.results ∧ ShownFor m.hub (m.shown env)) ∧
    found.Pairwise SessionMatch.Apart ∧
    ∀ hub ∈ hubs, (∃ m ∈ found, m.hub = hub) ∨
      ∃ host, listing.shared.results.lookup hub.vpsProviderId = some host ∧ host.rows.filter hub.matchesRow = []

/-- Hosts that are needed are asked once at most, no result is missing, and a list is complete. -/
theorem run_ask (hids : ids.Nodup) {required : Uuid → Prop} (hrequired : ∀ id, id ∈ ids ↔ required id)
    (hhubs : ∀ hub ∈ hubs, required hub.vpsProviderId)
    (hapart : hubs.Pairwise fun a b => a.id ≠ b.id ∧ a.instanceName ≠ b.instanceName)
    (events : List ListingEvent) :
    let listing := (ListingPlan.ask hubs ids).run env events
    (∀ id, listing.shared.queries.count id ≤ 1 ∧ (id ∈ listing.shared.queries → required id)) ∧
      listing.outcome ≠ some (.error .undefinedResult) ∧
      ∀ rows, listing.outcome = some (.ok rows) → listing.Complete env hubs required rows := by
  obtain ⟨hcounted, hlanes⟩ := exec_counted events (counted_initial ids)
  rw [show (HostLanes.initial ids).lanes.length = min 3 ids.length from List.length_replicate] at hlanes
  dsimp only [ListingPlan.run]
  generalize (HostLanes.initial ids).exec ids events = w at hcounted hlanes ⊢
  refine ⟨fun id => ?_, fun houtcome => ?_, fun rows houtcome => ?_⟩
  · have hasked := hcounted.asked_le id
    refine ⟨hasked.trans (List.nodup_iff_count_le_one.mp hids id), fun hmem => (hrequired id).mp ?_⟩
    exact List.count_pos_iff.mp ((List.count_pos_iff.mpr hmem).trans_le hasked)
  · obtain ⟨hfinished, hconcluded⟩ := Option.ite_none_right_eq_some.mp houtcome
    obtain ⟨hfailure, hlisted⟩ := concludeListing_undefined (Option.some.inj hconcluded)
    refine listHubs_answered (fun hub hhub => ?_) hlisted
    exact (hcounted.answered hlanes hfinished hfailure hids ((hrequired _).mpr (hhubs hub hhub))).2
  · obtain ⟨hfinished, hconcluded⟩ := Option.ite_none_right_eq_some.mp houtcome
    obtain ⟨hfailure, hlisted⟩ := concludeListing_ok (Option.some.inj hconcluded)
    obtain ⟨found, hrows, hsublist, hsole, hall⟩ := listHubs_ok hlisted
    refine ⟨(hcounted.complete hlanes hfinished hfailure).1, fun id hid => ?_, found, hrows, hsublist,
      fun m hm => ⟨hsole m hm, (hsole m hm).shownFor⟩, ?_, hall⟩
    · exact (hcounted.answered hlanes hfinished hfailure hids ((hrequired id).mpr hid)).1
    · refine (List.pairwise_map.mp (hapart.sublist hsublist)).imp_of_mem fun {a b} ha hb hne => ?_
      exact (hsole a ha).apart (hsole b hb) hne.1 hne.2

/-- Whatever the order of the lanes and whatever the hosts answer, each host that is needed is asked once at
most, and no result is read that is not there. A list that is returned is complete: each host was asked once and
none failed; it has, in the order of the instances, the only session of each that has one, under the instance's
id and name and with no other remote id than is on record; and no two instances show one session. -/
theorem listInstances_complete (env : SyncEnv ω) (contains : String → String → Bool)
    (newerFirst : Instance → Instance → Bool) (current : Option Product) (productId : Uuid)
    (instanceNameFilter : Option String) (events : List ListingEvent) (hunique : db.InstanceNamesUnique) :
    let nameFilter := appliedFilter instanceNameFilter
    let hubs := db.selectedInstances contains newerFirst productId nameFilter
    let listing := listInstances env contains newerFirst current db productId instanceNameFilter events
    (∀ hub ∈ hubs, hub ∈ db.instances ∧ hub.productId = productId ∧ hub.isActive = true) ∧
      (∀ id, listing.shared.queries.count id ≤ 1 ∧
        (id ∈ listing.shared.queries → RequiredHost current hubs nameFilter id)) ∧
      listing.outcome ≠ some (.error .undefinedResult) ∧
      ∀ rows, listing.outcome = some (.ok rows) →
        listing.Complete env hubs (RequiredHost current hubs nameFilter) rows := by
  intro nameFilter hubs listing
  refine ⟨fun hub => mem_selectedInstances, ?_⟩
  have hapart := selectedInstances_apart hunique contains newerFirst productId nameFilter
  have hlisting : listing = (planListing current hubs nameFilter).run env events := rfl
  clear_value listing
  subst hlisting
  cases hplan : planListing current hubs nameFilter with
  | refused error =>
    refine ⟨fun id => ⟨Nat.zero_le 1, nofun⟩, fun houtcome => ?_, nofun⟩
    exact planListing_refused hplan (Except.error.inj (Option.some.inj houtcome))
  | empty =>
    obtain ⟨hnone, hfree⟩ := planListing_empty hplan
    refine ⟨fun id => ⟨Nat.zero_le 1, nofun⟩, nofun, fun rows houtcome => ?_⟩
    cases houtcome
    refine ⟨rfl, fun id hrequired => absurd hrequired (hfree id), [], rfl, List.nil_sublist _, nofun, .nil, ?_⟩
    rw [hnone]
    exact nofun
  | ask asked ids =>
    obtain ⟨rfl, hids, hrequired⟩ := planListing_ask hplan
    exact run_ask hids hrequired (fun hub hhub => .inl ⟨hub, hhub, rfl⟩) hapart events

/-- An instance of the small product. -/
def smallListed : Instance where
  id := ⟨"listed", by decide⟩
  productId := smallProduct.id
  vpsProviderId := smallProvider.id
  instanceName := "alice"
  providerInstanceId := some "remote"
  hubToken := "hub-token"
  updatedAt := 0

/-- Its session as the installation lists it. -/
def smallRow : SessionRow := [("instanceName", .str "alice"), ("id", .str "remote"), ("hubId", .null)]

/-- A newer instance of the same provider, which has no session for it. -/
def smallAbsent : Instance :=
  { smallListed with id := ⟨"absent", by decide⟩, instanceName := "carol", providerInstanceId := none, updatedAt := 1 }

/-- Another provider. -/
def smallFarHost : VpsProvider := { smallProvider with id := ⟨"far", by decide⟩ }

/-- The newest instance, on the other provider. -/
def smallFar : Instance :=
  { smallListed with id := ⟨"listed far", by decide⟩, vpsProviderId := smallFarHost.id, instanceName := "dave",
                     updatedAt := 2 }

/-- Two lanes go on in turns: each asks one of the providers, and the one that was asked last answers first. -/
def smallLanes : List ListingEvent :=
  [.lane 0 (.start false), .lane 1 (.start false), .lane 0 (.found (.ok (some smallFarHost)) (.ok ())),
    .lane 1 (.found (.ok (some smallProvider)) (.ok ())),
    .lane 1 (.answered (.ok [[("instanceName", .str "bob")], smallRow]) false false),
    .lane 0 (.answered (.ok [[("instanceName", .str "dave"), ("id", .str "remote")]]) false false)]

/-- The instances as they are listed. -/
def smallSelected : List Instance := [smallFar, smallAbsent, smallListed]

/-- The list has a session of each of the two instances that have one. -/
theorem listInstances_complete_small :
    let db := { smallDatabase with instances := ⟨smallSelected, by decide⟩ }
    let newerFirst := fun a b : Instance => decide (b.updatedAt ≤ a.updatedAt)
    let listing := listInstances smallSyncEnv (fun _ _ => true) newerFirst (some smallProduct) db smallProduct.id none
      smallLanes
    (listing.shared.queries.count smallProvider.id = 1 ∧ listing.shared.queries.count smallFarHost.id = 1) ∧
      ∃ rows, listing.outcome = some (.ok rows) ∧ rows.length = 2 ∧
        (∃ shown ∈ rows, ShownFor smallListed shown) ∧ ∃ shown ∈ rows, ShownFor smallFar shown := by
  intro db newerFirst listing
  have hunique : db.InstanceNamesUnique := by
    have hnames : ∀ i ∈ smallSelected, ∀ j ∈ smallSelected, i.instanceName = j.instanceName → i = j := by decide
    exact fun i hi j hj hshares => hnames i hi j hj hshares.1
  have hselected : db.selectedInstances (fun _ _ => true) newerFirst smallProduct.id none = smallSelected :=
    List.mergeSort_of_pairwise (by decide)
  have hlisting : listing = (planListing (some smallProduct) smallSelected none).run smallSyncEnv smallLanes :=
    congrArg (fun hubs => (planListing (some smallProduct) hubs none).run smallSyncEnv smallLanes) hselected
  obtain ⟨rows, houtcome, hlength⟩ : ∃ rows, listing.outcome = some (.ok rows) ∧ rows.length = 2 := by
    rw [hlisting]
    exact ⟨_, rfl, rfl⟩
  have hcomplete := (listInstances_complete smallSyncEnv (fun _ _ => true) newerFirst (some smallProduct)
    smallProduct.id none smallLanes hunique).2.2.2 _ houtcome
  have hmem : ∀ hub ∈ smallSelected, hub ∈ db.selectedInstances (fun _ _ => true) newerFirst smallProduct.id none :=
    fun hub hhub => hselected ▸ hhub
  have hlisted := hmem smallListed (by decide)
  have hfar := hmem smallFar (by decide)
  obtain ⟨found, hrows, -, hsole, -, hall⟩ := hcomplete.joined
  have hshown : ∀ hub ∈ smallSelected, (∀ host, listing.shared.results.lookup hub.vpsProviderId = some host →
      host.rows.filter hub.matchesRow ≠ []) → ∃ shown ∈ rows, ShownFor hub shown := by
    intro hub hhub hsession
    rcases hall hub (hmem hub hhub) with ⟨m, hm, rfl⟩ | ⟨host, hanswer, hnone⟩
    · exact ⟨_, hrows ▸ List.mem_map_of_mem hm, (hsole m hm).2⟩
    · exact absurd hnone (hsession host hanswer)
  refine ⟨⟨hcomplete.askedOnce _ (.inl ⟨smallListed, hlisted, rfl⟩),
      hcomplete.askedOnce _ (.inl ⟨smallFar, hfar, rfl⟩)⟩,
    rows, houtcome, hlength, hshown smallListed (by decide) fun host hanswer => ?_,
    hshown smallFar (by decide) fun host hanswer => ?_⟩
  · rw [hlisting] at hanswer
    cases hanswer
    decide
  · rw [hlisting] at hanswer
    cases hanswer
    decide

end Listing

end ConnectHub
