import ConnectHub.JsonText
import ConnectHub.RelayConfiguration

/-!
# The relay token stays private

What the Hub shows of a remote body has lost the private header at every depth. A value that holds none is
returned itself, and only the objects and arrays on the way to a removed header are built anew; all other
members, items and scalars stay, in their order.
-/

namespace ConnectHub

section Removal

/-- A value has a member of a name at some depth. -/
inductive Json.HasMember (name : String) : Json → Prop
  | here {members : List (String × Json)} {item : Json} (h : (name, item) ∈ members) :
    Json.HasMember name (.obj members)
  | inMember {members : List (String × Json)} {other : String} {item : Json} (h : (other, item) ∈ members)
    (hitem : Json.HasMember name item) : Json.HasMember name (.obj members)
  | inItem {items : List Json} {item : Json} (h : item ∈ items) (hitem : Json.HasMember name item) :
    Json.HasMember name (.arr items)

variable (drop : String → Bool)

mutual

/-- A value becomes another by losing exactly the members whose name is to be dropped. -/
inductive Json.Loses : Json → Json → Prop
  | scalar {value : Json} (h : value.isContainer = false) : Json.Loses value value
  | arr {items others : List Json} (h : Json.ItemsLose items others) : Json.Loses (.arr items) (.arr others)
  | obj {members others : List (String × Json)} (h : Json.MembersLose members others) :
    Json.Loses (.obj members) (.obj others)

/-- An array keeps every item in its place. -/
inductive Json.ItemsLose : List Json → List Json → Prop
  | nil : Json.ItemsLose [] []
  | cons {item other : Json} {items others : List Json} (h : Json.Loses item other)
    (hitems : Json.ItemsLose items others) : Json.ItemsLose (item :: items) (other :: others)

/-- An object keeps the other members in their order. -/
inductive Json.MembersLose : List (String × Json) → List (String × Json) → Prop
  | nil : Json.MembersLose [] []
  | dropped {name : String} {value : Json} {members others : List (String × Json)} (hdrop : drop name = true)
    (hmembers : Json.MembersLose members others) : Json.MembersLose ((name, value) :: members) others
  | kept {name : String} {value other : Json} {members others : List (String × Json)}
    (hdrop : drop name = false) (h : Json.Loses value other) (hmembers : Json.MembersLose members others) :
    Json.MembersLose ((name, value) :: members) ((name, other) :: others)

end

variable {drop}

mutual

/-- Dropping members loses exactly those. -/
theorem Json.loses_without : (value : Json) → Json.Loses drop value (value.without drop)
  | .null => .scalar rfl
  | .bool _ => .scalar rfl
  | .number _ => .scalar rfl
  | .str _ => .scalar rfl
  | .arr items => .arr (Json.itemsLose_withoutItems items)
  | .obj members => .obj (Json.membersLose_withoutMembers members)

/-- So it does in each item of an array. -/
theorem Json.itemsLose_withoutItems : (items : List Json) →
    Json.ItemsLose drop items (Json.withoutItems drop items)
  | [] => .nil
  | item :: items => .cons (Json.loses_without item) (Json.itemsLose_withoutItems items)

/-- And in each member of an object. -/
theorem Json.membersLose_withoutMembers : (members : List (String × Json)) →
    Json.MembersLose drop members (Json.withoutMembers drop members)
  | [] => .nil
  | (name, value) :: members => by
    by_cases hdrop : drop name = true
    · rw [Json.withoutMembers, if_pos hdrop]
      exact .dropped hdrop (Json.membersLose_withoutMembers members)
    · rw [Json.withoutMembers, if_neg hdrop]
      exact .kept (eq_false_of_ne_true hdrop) (Json.loses_without value)
        (Json.membersLose_withoutMembers members)

end

mutual

/-- No other value comes of it. -/
theorem Json.Loses.eq_without : (value : Json) → {other : Json} → Json.Loses drop value other →
    other = value.without drop
  | .null, _, .scalar _ => rfl
  | .bool _, _, .scalar _ => rfl
  | .number _, _, .scalar _ => rfl
  | .str _, _, .scalar _ => rfl
  | .arr items, _, .arr h => congrArg Json.arr (Json.ItemsLose.eq_withoutItems items h)
  | .obj members, _, .obj h => congrArg Json.obj (Json.MembersLose.eq_withoutMembers members h)

/-- No other items come of it. -/
theorem Json.ItemsLose.eq_withoutItems : (items : List Json) → {others : List Json} →
    Json.ItemsLose drop items others → others = Json.withoutItems drop items
  | [], _, .nil => rfl
  | item :: items, _, .cons h hitems => by
    rw [Json.withoutItems, Json.Loses.eq_without item h, Json.ItemsLose.eq_withoutItems items hitems]

/-- No other members come of it. -/
theorem Json.MembersLose.eq_withoutMembers : (members : List (String × Json)) →
    {others : List (String × Json)} → Json.MembersLose drop members others →
    others = Json.withoutMembers drop members
  | [], _, .nil => rfl
  | (name, value) :: members, _, .dropped hdrop hmembers => by
    rw [Json.withoutMembers, if_pos hdrop]
    exact Json.MembersLose.eq_withoutMembers members hmembers
  | (name, value) :: members, _, .kept hdrop h hmembers => by
    rw [Json.withoutMembers, if_neg (Bool.eq_false_iff.mp hdrop), Json.Loses.eq_without value h,
      Json.MembersLose.eq_withoutMembers members hmembers]

end

/-- A value from which nothing is to be dropped has no member of a dropped name. -/
theorem Json.HasMember.drop_eq_false {name : String} {value : Json} (h : value.HasMember name)
    (hsame : value.without drop = value) : drop name = false := by
  induction h with
  | @here members item hmem =>
    have hmembers : Json.withoutMembers drop members = members := Json.obj.inj hsame
    rw [← hmembers] at hmem
    exact Json.drop_of_mem_withoutMembers hmem
  | @inMember members other item hmem _ ih =>
    have hmembers : Json.withoutMembers drop members = members := Json.obj.inj hsame
    rw [← hmembers] at hmem
    exact ih (Json.without_of_mem_withoutMembers hmem)
  | @inItem items item hmem _ ih =>
    have hitems : Json.withoutItems drop items = items := Json.arr.inj hsame
    rw [← hitems] at hmem
    exact ih (Json.without_of_mem_withoutItems hmem)

end Removal

variable {ω : Type} (env : SyncEnv ω)

section Returned

mutual

/-- The object that `withoutRelayToken` builds in the place of a value; none where it returns the value itself. -/
def withoutRelayToken? : Json → Option Json
  | .arr items =>
    let safe := safeItems items
    if safe.2 then some (.arr safe.1) else none
  | .obj members =>
    let safe := safeEntries members
    if safe.2 then some (.obj safe.1) else none
  | _ => none

/-- The items of an array, and whether one of them is another object than before. -/
def safeItems : List Json → List Json × Bool
  | [] => ([], false)
  | item :: items =>
    let rest := safeItems items
    match withoutRelayToken? item with
    | some safe => (safe :: rest.1, true)
    | none => (item :: rest.1, rest.2)

/-- The members of an object that stay, and whether one was left out or is another object than before. -/
def safeEntries : List (String × Json) → List (String × Json) × Bool
  | [] => ([], false)
  | (key, item) :: members =>
    let rest := safeEntries members
    if env.isRelayToken key then (rest.1, true)
    else
      match withoutRelayToken? item with
      | some safe => ((key, safe) :: rest.1, true)
      | none => ((key, item) :: rest.1, rest.2)

end

mutual

/-- What is returned is the value without the private header, whether it was built anew or not. -/
theorem withoutRelayToken?_getD : (value : Json) →
    (withoutRelayToken? env value).getD value = withoutRelayToken env value
  | .null => rfl
  | .bool _ => rfl
  | .number _ => rfl
  | .str _ => rfl
  | .arr items => by
    obtain ⟨hitems, hsame⟩ := safeItems_spec items
    rw [withoutRelayToken?, withoutRelayToken, Json.without, ← hitems]
    cases hchanged : (safeItems env items).2 with
    | true => rfl
    | false => exact congrArg Json.arr (hsame hchanged).symm
  | .obj members => by
    obtain ⟨hmembers, hsame⟩ := safeEntries_spec members
    rw [withoutRelayToken?, withoutRelayToken, Json.without, ← hmembers]
    cases hchanged : (safeEntries env members).2 with
    | true => rfl
    | false => exact congrArg Json.obj (hsame hchanged).symm

/-- The items lose what they are to lose, and are as before where none is another object. -/
theorem safeItems_spec : (items : List Json) →
    (safeItems env items).1 = Json.withoutItems env.isRelayToken items ∧
      ((safeItems env items).2 = false → (safeItems env items).1 = items)
  | [] => ⟨rfl, fun _ => rfl⟩
  | item :: items => by
    have hitem := withoutRelayToken?_getD item
    obtain ⟨hitems, hsame⟩ := safeItems_spec items
    rw [withoutRelayToken] at hitem
    rw [safeItems, Json.withoutItems, ← hitem, ← hitems]
    cases withoutRelayToken? env item with
    | some safe => exact ⟨rfl, nofun⟩
    | none => exact ⟨rfl, fun hchanged => congrArg (item :: ·) (hsame hchanged)⟩

/-- The members lose what they are to lose, and are as before where none was left out or is another object. -/
theorem safeEntries_spec : (members : List (String × Json)) →
    (safeEntries env members).1 = Json.withoutMembers env.isRelayToken members ∧
      ((safeEntries env members).2 = false → (safeEntries env members).1 = members)
  | [] => ⟨rfl, fun _ => rfl⟩
  | (key, item) :: members => by
    have hitem := withoutRelayToken?_getD item
    obtain ⟨hmembers, hsame⟩ := safeEntries_spec members
    rw [withoutRelayToken] at hitem
    rw [safeEntries, Json.withoutMembers, ← hitem, ← hmembers]
    by_cases htoken : env.isRelayToken key = true
    · rw [if_pos htoken, if_pos htoken]
      exact ⟨rfl, nofun⟩
    · rw [if_neg htoken, if_neg htoken]
      cases withoutRelayToken? env item with
      | some safe => exact ⟨rfl, nofun⟩
      | none => exact ⟨rfl, fun hchanged => congrArg ((key, item) :: ·) (hsame hchanged)⟩

end

mutual

/-- Where an object is built anew, the private header was somewhere inside. -/
theorem hasMember_of_withoutRelayToken? : (value : Json) → {safe : Json} →
    withoutRelayToken? env value = some safe → ∃ name, value.HasMember name ∧ env.isRelayToken name = true
  | .arr items, safe, h => by
    have hchanged : (safeItems env items).2 = true := by
      by_contra hsame
      rw [withoutRelayToken?, if_neg hsame] at h
      cases h
    obtain ⟨item, hitem, name, hname, htoken⟩ := hasMember_of_safeItems items hchanged
    exact ⟨name, .inItem hitem hname, htoken⟩
  | .obj members, safe, h => by
    have hchanged : (safeEntries env members).2 = true := by
      by_contra hsame
      rw [withoutRelayToken?, if_neg hsame] at h
      cases h
    exact hasMember_of_safeEntries members hchanged

/-- Where an item is built anew, the private header was inside it. -/
theorem hasMember_of_safeItems : (items : List Json) → (safeItems env items).2 = true →
    ∃ item ∈ items, ∃ name, item.HasMember name ∧ env.isRelayToken name = true
  | item :: items, h => by
    cases hitem : withoutRelayToken? env item with
    | some safe => exact ⟨item, List.mem_cons_self, hasMember_of_withoutRelayToken? item hitem⟩
    | none =>
      rw [safeItems, hitem] at h
      obtain ⟨other, hother, hname⟩ := hasMember_of_safeItems items h
      exact ⟨other, List.mem_cons_of_mem _ hother, hname⟩

/-- Where a member is left out or built anew, the private header was there. -/
theorem hasMember_of_safeEntries : (members : List (String × Json)) → (safeEntries env members).2 = true →
    ∃ name, (Json.obj members).HasMember name ∧ env.isRelayToken name = true
  | (key, item) :: members, h => by
    by_cases htoken : env.isRelayToken key = true
    · exact ⟨key, .here List.mem_cons_self, htoken⟩
    · cases hitem : withoutRelayToken? env item with
      | some safe =>
        obtain ⟨name, hname, hprivate⟩ := hasMember_of_withoutRelayToken? item hitem
        exact ⟨name, .inMember List.mem_cons_self hname, hprivate⟩
      | none =>
        rw [safeEntries, if_neg htoken, hitem] at h
        obtain ⟨name, hname, hprivate⟩ := hasMember_of_safeEntries members h
        refine ⟨name, ?_, hprivate⟩
        cases hname with
        | here hmem => exact .here (List.mem_cons_of_mem _ hmem)
        | inMember hmem hdeep => exact .inMember (List.mem_cons_of_mem _ hmem) hdeep

end

/-- What is returned needs no second look. -/
theorem withoutRelayToken_again (value : Json) :
    withoutRelayToken env (withoutRelayToken env value) = withoutRelayToken env value :=
  Json.without_without value

/-- A value is returned itself exactly when it holds no private header. -/
theorem withoutRelayToken?_eq_none {value : Json} :
    withoutRelayToken? env value = none ↔ ∀ name, value.HasMember name → env.isRelayToken name = false := by
  constructor
  · intro hnone name hname
    have hsame := withoutRelayToken?_getD env value
    rw [hnone] at hsame
    exact hname.drop_eq_false hsame.symm
  · intro hclean
    cases hsafe : withoutRelayToken? env value with
    | none => rfl
    | some safe =>
      obtain ⟨name, hname, htoken⟩ := hasMember_of_withoutRelayToken? env value hsafe
      rw [hclean name hname] at htoken
      cases htoken

end Returned

section Exposure

/-- The methods of calls. -/
inductive HttpMethod
  | get | post | put | delete
deriving DecidableEq, Repr

/-- The name of a method. -/
def HttpMethod.toUpperCase : HttpMethod → String
  | .get => "GET"
  | .post => "POST"
  | .put => "PUT"
  | .delete => "DELETE"

/-- What the client makes of an attempt. -/
inductive RemoteReply
  | response (data : Json)
  | httpError (data : Json) (status : ℕ)
  | clientError (message : String)

/-- What a call throws. -/
inductive CallError
  | circuitOpen
  | stopped
  | httpException (body : Json) (status : ℕ)
  | clientError (message : String)

/-- The line for an attempt, with the body it shows. -/
def requestLine (method : HttpMethod) (fullUrl : String) (shown : Option Json) : String :=
  "[evo:request] " ++ method.toUpperCase ++ " " ++ fullUrl ++
    match shown with
    | some body => " body=" ++ String.ofList body.stringify
    | none => ""

/-- The attempts of an ordinary call that are left: the lines they log, and what comes of the call. -/
def EvolutionHttp.requestAttempts (method : HttpMethod) (fullUrl : String) (data : Option Json)
    (replies : ℕ → RemoteReply) :
    (left attempt : ℕ) → (lastError : String) → List String × Except CallError Json
  | 0, _, lastError => ([], .error (.clientError lastError))
  | left + 1, attempt, _ =>
    let line := requestLine method fullUrl (data.map (withoutRelayToken env))
    match replies attempt with
    | .response data => ([line], .ok data)
    | .httpError data status => ([line], .error (.httpException (withoutRelayToken env data) status))
    | .clientError message =>
      let rest := EvolutionHttp.requestAttempts method fullUrl data replies left (attempt + 1) message
      (line :: rest.1, rest.2)

/-- An ordinary call: the lines it logs, and what comes of it. -/
def EvolutionHttp.request (maxRetries : ℕ) (circuitOpen : Bool) (method : HttpMethod) (vpsUrl path : String)
    (data : Option Json) (replies : ℕ → RemoteReply) : List String × Except CallError Json :=
  if circuitOpen then ([], .error .circuitOpen)
  else EvolutionHttp.requestAttempts env method (vpsUrl ++ path) data replies (maxRetries + 1) 0 "Unknown error"

/-- What comes of a call of an execution, which is over by then or not. -/
def EvolutionHttp.settled (stopped : Bool) (reply : RemoteReply) : Except CallError Json :=
  if stopped then .error .stopped
  else
    match reply with
    | .response data => .ok data
    | .httpError data status => .error (.httpException (withoutRelayToken env data) status)
    | .clientError message => .error (.clientError message)

/-- A call of a QR request. -/
def EvolutionHttp.requestQr (circuitOpen stopped : Bool) (reply : RemoteReply) : Except CallError Json :=
  if circuitOpen then .error .circuitOpen else EvolutionHttp.settled env stopped reply

/-- A call of a media request. -/
def EvolutionHttp.requestMedia (circuitOpen stopped : Bool) (reply : RemoteReply) : Except CallError Json :=
  if circuitOpen then .error .circuitOpen else EvolutionHttp.settled env stopped reply

/-- The webhook in the response of a creation, if the installation showed the one it applied. -/
def responseWebhook (applied : Option Json) : Option Json := applied.map (withoutRelayToken env)

/-- What is shown of a body is the body without the private header, and nothing else is missing. -/
structure SyncEnv.Shows (body shown : Json) : Prop where
  clean : ∀ name, shown.HasMember name → env.isRelayToken name = false
  exact : Json.Loses env.isRelayToken body shown

/-- What is returned for a body shows it. -/
theorem withoutRelayToken_shows (body : Json) : env.Shows body (withoutRelayToken env body) where
  clean := fun _ hname => hname.drop_eq_false (withoutRelayToken_again env body)
  exact := Json.loses_without body

variable {env}

/-- Each line of a call shows the body that is sent. -/
theorem requestAttempts_lines {method : HttpMethod} {fullUrl : String} {data : Option Json}
    {replies : ℕ → RemoteReply} {left attempt : ℕ} {lastError line : String}
    (h : line ∈ (EvolutionHttp.requestAttempts env method fullUrl data replies left attempt lastError).1) :
    line = requestLine method fullUrl (data.map (withoutRelayToken env)) := by
  induction left generalizing attempt lastError with
  | zero => cases h
  | succ left ih =>
    rw [EvolutionHttp.requestAttempts] at h
    cases hreply : replies attempt with
    | response found =>
      rw [hreply] at h
      exact List.mem_singleton.mp h
    | httpError found status =>
      rw [hreply] at h
      exact List.mem_singleton.mp h
    | clientError message =>
      rw [hreply] at h
      cases List.mem_cons.mp h with
      | inl hfirst => exact hfirst
      | inr hrest => exact ih hrest

/-- An error that shows a body shows that of one of the attempts. -/
theorem requestAttempts_error {method : HttpMethod} {fullUrl : String} {data : Option Json}
    {replies : ℕ → RemoteReply} {left attempt : ℕ} {lastError : String} {shown : Json} {status : ℕ}
    (h : (EvolutionHttp.requestAttempts env method fullUrl data replies left attempt lastError).2 =
      .error (.httpException shown status)) :
    ∃ attempt body, replies attempt = .httpError body status ∧ shown = withoutRelayToken env body := by
  induction left generalizing attempt lastError with
  | zero => cases h
  | succ left ih =>
    rw [EvolutionHttp.requestAttempts] at h
    cases hreply : replies attempt with
    | response other =>
      rw [hreply] at h
      cases h
    | httpError other found =>
      rw [hreply] at h
      cases h
      exact ⟨attempt, other, hreply, rfl⟩
    | clientError message =>
      rw [hreply] at h
      exact ih h

/-- An error of a call of an execution shows the body of the reply. -/
theorem settled_error {stopped : Bool} {reply : RemoteReply} {shown : Json} {status : ℕ}
    (h : EvolutionHttp.settled env stopped reply = .error (.httpException shown status)) :
    ∃ body, reply = .httpError body status ∧ shown = withoutRelayToken env body := by
  unfold EvolutionHttp.settled at h
  cases stopped with
  | true => cases h
  | false =>
    cases reply with
    | response data => cases h
    | httpError data found =>
      cases h
      exact ⟨data, rfl, rfl⟩
    | clientError message => cases h

/-- An error of an ordinary call shows the body of one of the replies. -/
theorem request_error {maxRetries : ℕ} {circuitOpen : Bool} {method : HttpMethod} {vpsUrl path : String}
    {data : Option Json} {replies : ℕ → RemoteReply} {shown : Json} {status : ℕ}
    (h : (EvolutionHttp.request env maxRetries circuitOpen method vpsUrl path data replies).2 =
      .error (.httpException shown status)) :
    ∃ attempt body, replies attempt = .httpError body status ∧ env.Shows body shown := by
  unfold EvolutionHttp.request at h
  cases circuitOpen with
  | true => cases h
  | false =>
    obtain ⟨attempt, body, hreply, rfl⟩ := requestAttempts_error h
    exact ⟨attempt, body, hreply, withoutRelayToken_shows env body⟩

/-- A line of an ordinary call shows the body that is sent, if there is one. -/
theorem request_lines {maxRetries : ℕ} {circuitOpen : Bool} {method : HttpMethod} {vpsUrl path : String}
    {data : Option Json} {replies : ℕ → RemoteReply} {line : String}
    (h : line ∈ (EvolutionHttp.request env maxRetries circuitOpen method vpsUrl path data replies).1) :
    (data = none ∧ line = requestLine method (vpsUrl ++ path) none) ∨
      ∃ body shown, data = some body ∧ env.Shows body shown ∧
        line = requestLine method (vpsUrl ++ path) (some shown) := by
  unfold EvolutionHttp.request at h
  cases circuitOpen with
  | true => cases h
  | false =>
    have hline := requestAttempts_lines h
    cases data with
    | none => exact .inl ⟨rfl, hline⟩
    | some body => exact .inr ⟨body, _, rfl, withoutRelayToken_shows env body, hline⟩

/-- A webhook that was found shows the answer of the installation. -/
theorem findWebhook_ok {ctx : ProviderContext} {instanceName : String} {s s' : SyncState ω} {shown : Json}
    (h : (EvolutionAdapter.findWebhook env ctx instanceName).run s = .ok shown s') :
    ∃ body, (env.findWebhook ctx instanceName s.world).1 = .ok body ∧ env.Shows body shown := by
  cases hanswer : env.findWebhook ctx instanceName s.world with
  | mk answer world =>
    cases answer with
    | ok body =>
      rw [findWebhook_run hanswer] at h
      cases h
      exact ⟨body, rfl, withoutRelayToken_shows env body⟩
    | error failure =>
      rw [findWebhook_run_error hanswer] at h
      cases h

/-- An error of a call of an execution shows the body of its reply. -/
theorem execution_error {circuitOpen stopped : Bool} {reply : RemoteReply} {shown : Json} {status : ℕ}
    (h : EvolutionHttp.requestQr env circuitOpen stopped reply = .error (.httpException shown status) ∨
      EvolutionHttp.requestMedia env circuitOpen stopped reply = .error (.httpException shown status)) :
    ∃ body, reply = .httpError body status ∧ env.Shows body shown := by
  unfold EvolutionHttp.requestQr EvolutionHttp.requestMedia at h
  rw [or_self] at h
  cases circuitOpen with
  | true => cases h
  | false =>
    obtain ⟨body, hreply, rfl⟩ := settled_error h
    exact ⟨body, hreply, withoutRelayToken_shows env body⟩

/-- The private header is removed at every depth, and nothing else: each value becomes exactly the one that has
lost its members of that name, a second look changes nothing, and a value without such members is returned
itself. So what findings, creations, errors and logs show of a remote body is that body without the header. -/
theorem withoutRelayToken_exact (env : SyncEnv ω) :
    (∀ value, ∃ safe, (withoutRelayToken? env value).getD value = safe ∧ env.Shows value safe ∧
      (∀ other, Json.Loses env.isRelayToken value other → other = safe) ∧
      withoutRelayToken? env safe = none ∧
      (withoutRelayToken? env value = none ↔
        ∀ name, value.HasMember name → env.isRelayToken name = false)) ∧
    (∀ maxRetries circuitOpen method vpsUrl path data replies,
      (∀ line ∈ (EvolutionHttp.request env maxRetries circuitOpen method vpsUrl path data replies).1,
        (data = none ∧ line = requestLine method (vpsUrl ++ path) none) ∨
          ∃ body shown, data = some body ∧ env.Shows body shown ∧
            line = requestLine method (vpsUrl ++ path) (some shown)) ∧
      ∀ shown status, (EvolutionHttp.request env maxRetries circuitOpen method vpsUrl path data replies).2 =
          .error (.httpException shown status) →
        ∃ attempt body, replies attempt = .httpError body status ∧ env.Shows body shown) ∧
    (∀ circuitOpen stopped reply shown status,
      EvolutionHttp.requestQr env circuitOpen stopped reply = .error (.httpException shown status) ∨
          EvolutionHttp.requestMedia env circuitOpen stopped reply = .error (.httpException shown status) →
        ∃ body, reply = .httpError body status ∧ env.Shows body shown) ∧
    (∀ ctx instanceName s s' shown, (EvolutionAdapter.findWebhook env ctx instanceName).run s = .ok shown s' →
      ∃ body, (env.findWebhook ctx instanceName s.world).1 = .ok body ∧ env.Shows body shown) ∧
    ∀ applied shown, responseWebhook env applied = some shown →
      ∃ body, applied = some body ∧ env.Shows body shown := by
  refine ⟨fun value => ?_, fun _ _ _ _ _ _ _ => ⟨fun _ => request_lines, fun _ _ => request_error⟩,
    fun _ _ _ _ _ => execution_error, fun _ _ _ _ _ => findWebhook_ok, fun applied shown hshown => ?_⟩
  · have hshows := withoutRelayToken_shows env value
    refine ⟨_, withoutRelayToken?_getD env value, hshows, fun other => Json.Loses.eq_without value, ?_,
      withoutRelayToken?_eq_none env⟩
    exact (withoutRelayToken?_eq_none env).mpr hshows.clean
  · obtain ⟨body, happlied, rfl⟩ := Option.map_eq_some_iff.mp hshown
    exact ⟨body, happlied, withoutRelayToken_shows env body⟩

end Exposure

end ConnectHub
