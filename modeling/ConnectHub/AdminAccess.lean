import ConnectHub.AdminTokens
import ConnectHub.Schema
import ConnectHub.Store.Pool

/-!
# Access of administrators

Tokens are issued to machines that present the secret of the Hub and to users who present their password; every other
request of an administrator carries one. A guard reads the token and nothing else, so that what becomes of a user later
does not matter to it. Users are made by a bootstrap with the secret, or by requests that a guard let through: whoever
gets in can be traced to one who knew the secret, as long as no signature is forged.
-/

namespace ConnectHub

open Store

section Model

/-- A user who administrates the Hub. -/
structure AdminUser where
  id : Uuid
  name : String
  email : String
  passwordHash : String
  type : String := "admin"
  isActive : Bool := true
deriving DecidableEq

instance : Keyed AdminUser Uuid := ⟨AdminUser.id⟩

/-- The settings that decide about access, and the functions of the runtime that it rests on. -/
structure AdminEnv where
  jwtSecret : String
  adminSecret : String
  adminJwtExpiry : ℕ
  allowBootstrap : Bool := true
  hmac : List UInt8 → List UInt8 → List UInt8
  compare : (password passwordHash : String) → Bool
  hash : (password salt : String) → String

/-- The users, and the clock in milliseconds. -/
structure AdminShared where
  now : ℕ
  users : Table AdminUser

/-- Whom a token is issued to. -/
inductive AdminSubject
  | machine
  | user (user : AdminUser)
deriving DecidableEq

/-- What the token of a subject claims. -/
def AdminSubject.claims : AdminSubject → List (String × Json)
  | .machine => [("sub", .str "admin"), ("role", .str "admin")]
  | .user found => [("sub", .str found.id.value), ("email", .str found.email), ("type", .str found.type)]

/-- The body of a request for a new user. -/
structure CreateUserDto where
  name : String
  email : String
  password : String
  type : Option String := none

/-- What of a user is to be changed. -/
structure UpdateUserDto where
  name : Option String := none
  type : Option String := none
  isActive : Option Bool := none

/-- A user who was asked for, under the identifier and the salt that are chosen. -/
def CreateUserDto.user (env : AdminEnv) (dto : CreateUserDto) (id : Uuid) (salt : String) : AdminUser where
  id := id
  name := dto.name
  email := dto.email
  passwordHash := env.hash dto.password salt
  type := dto.type.getD "admin"

/-- A user who is changed. -/
def AdminUser.updated (user : AdminUser) (dto : UpdateUserDto) : AdminUser :=
  { user with name := dto.name.getD user.name, type := dto.type.getD user.type,
              isActive := dto.isActive.getD user.isActive }

/-- What a request asks for once a guard let it through. -/
inductive AdminCall
  | create (dto : CreateUserDto) (id : Uuid) (salt : String)
  | update (id : String) (dto : UpdateUserDto)
  | deactivate (id : String)
  | getMe
  | other

/-- A request under way, before its next access. -/
inductive AdminTask
  | adminLogin (secret : String)
  | login (email password : String)
  | compare (user : AdminUser) (password : String)
  | canActivate (authorization : Option (List Char)) (call : AdminCall)
  | bootstrap (dto : CreateUserDto) (providedSecret : Option String) (id : Uuid) (salt : String)
  | create (dto : CreateUserDto) (id : Uuid) (salt : String)
  | insert (dto : CreateUserDto) (id : Uuid) (salt : String)
  | assertExists (id : String) (dto : UpdateUserDto)
  | update (id : String) (dto : UpdateUserDto)
  | getMe (userId : Option String)

/-- What is seen of a step; of a request that arrives, the secret that it presents. -/
inductive AdminEvent
  | ticked
  | arrived (secret : Option String)
  | lost
  | quiet
  | refused (message : String)
  | found (user : AdminUser)
  | issued (token : List Char) (subject : AdminSubject) (now : ℕ)
  | passed (token : List Char) (claims : Json) (now : ℕ)
  | bootstrapped
  | inserted (user : AdminUser)
  | shown (user : AdminUser)

variable (env : AdminEnv)

/-- A token for a subject. -/
def AdminEnv.token (subject : AdminSubject) (now : ℕ) : List Char :=
  signJwt env.hmac subject.claims env.jwtSecret env.adminJwtExpiry now

/-- The user of an identifier that a request gives as text. -/
def AdminShared.find (shared : AdminShared) (id : String) : Option AdminUser :=
  shared.users.rows.find? fun user => user.id.value = id

/-- Change the user of an identifier. -/
def AdminShared.update (shared : AdminShared) (id : String) (dto : UpdateUserDto) : AdminShared :=
  { shared with users := shared.users.modify (fun user => user.id.value = id) (·.updated dto) }

/-- What a request goes on with once a guard let it through. -/
def AdminCall.task (claims : Json) : AdminCall → Option AdminTask
  | .create dto id salt => some (.create dto id salt)
  | .update id dto => some (.assertExists id dto)
  | .deactivate id => some (.assertExists id { isActive := some false })
  | .getMe => some (.getMe ((claims.member? "sub").bind Json.str?))
  | .other => none

/-- The next access of a request: what it leaves, what is seen of it, and how the request goes on. -/
def AdminTask.run (shared : AdminShared) : AdminTask → AdminShared × AdminEvent × Option AdminTask
  | .adminLogin secret =>
    if secret ≠ env.adminSecret then (shared, .refused "Credenciais inválidas", none)
    else (shared, .issued (env.token .machine shared.now) .machine shared.now, none)
  | .login email password =>
    match (shared.users.rows.find? (·.email = email)).filter (·.isActive) with
    | none => (shared, .refused "Credenciais inválidas", none)
    | some user => (shared, .found user, some (.compare user password))
  | .compare user password =>
    if env.compare password user.passwordHash = false then (shared, .refused "Credenciais inválidas", none)
    else (shared, .issued (env.token (.user user) shared.now) (.user user) shared.now, none)
  | .canActivate authorization call =>
    match authorization.filter ("Bearer ".toList.isPrefixOf ·) with
    | none => (shared, .refused "Token JWT ausente ou mal formatado", none)
    | some header =>
      match verifyJwt env.hmac (header.drop 7) env.jwtSecret shared.now with
      | .error _ => (shared, .refused "Token JWT inválido ou expirado", none)
      | .ok claims => (shared, .passed (header.drop 7) claims shared.now, call.task claims)
  | .bootstrap dto providedSecret id salt =>
    if env.allowBootstrap = false then (shared, .refused "Bootstrap is disabled", none)
    else if truthy providedSecret = false ∨ providedSecret ≠ some env.adminSecret then
      (shared, .refused "Invalid admin secret", none)
    else if shared.users.rows.any (·.isActive) = true then
      (shared, .refused "An active admin user already exists", none)
    else (shared, .bootstrapped, some (.insert dto id salt))
  | .create dto id salt =>
    if shared.users.rows.any (·.email = dto.email) = true then (shared, .refused "Email already in use", none)
    else (shared, .quiet, some (.insert dto id salt))
  | .insert dto id salt =>
    if shared.users.rows.any (·.email = dto.email) = true then (shared, .refused "Unique constraint failed", none)
    else
      match shared.users.insert? (dto.user env id salt) with
      | none => (shared, .refused "Unique constraint failed", none)
      | some users => ({ shared with users }, .inserted (dto.user env id salt), none)
  | .assertExists id dto =>
    match shared.find id with
    | none => (shared, .refused ("AdminUser " ++ id ++ " not found"), none)
    | some _ => (shared, .quiet, some (.update id dto))
  | .update id dto => (shared.update id dto, .quiet, none)
  | .getMe userId =>
    match (userId.bind shared.find).filter (·.isActive) with
    | none => (shared, .refused "Usuário não encontrado", none)
    | some user => (shared, .shown user, none)

/-- What happens besides: time goes by, and requests arrive. -/
inductive AdminMove (shared : AdminShared) : AdminEvent → AdminShared → List AdminTask → Prop
  | tick (elapsed : ℕ) : AdminMove shared .ticked { shared with now := shared.now + elapsed } []
  | adminLogin (secret : String) : AdminMove shared (.arrived (some secret)) shared [.adminLogin secret]
  | login (email password : String) : AdminMove shared (.arrived none) shared [.login email password]
  | request (authorization : Option (List Char)) (call : AdminCall) :
      AdminMove shared (.arrived none) shared [.canActivate authorization call]
  | bootstrap (dto : CreateUserDto) (providedSecret : Option String) (id : Uuid) (salt : String) :
      AdminMove shared (.arrived providedSecret) shared [.bootstrap dto providedSecret id salt]

/-- Requests in any number, access by access and in any order, any of which may be lost. -/
def AdminStep : Pool AdminShared AdminTask → AdminEvent → Pool AdminShared AdminTask → Prop :=
  PoolStep (fun shared task e shared' next => task.run env shared = (shared', e, next)) AdminMove .lost

end Model

section Tracing

variable {env : AdminEnv} {initial : Table AdminUser} {hist : List AdminEvent} {shared : AdminShared}

/-- Whether someone was let in to make users: by a bootstrap, or by a guard. -/
def LetIn (hist : List AdminEvent) : Prop :=
  .bootstrapped ∈ hist ∨ ∃ token claims now, .passed token claims now ∈ hist

/-- What holds of the users and the clock, after what happened. -/
structure AdminHolds (env : AdminEnv) (initial : Table AdminUser) (hist : List AdminEvent) (shared : AdminShared) :
    Prop where
  issued : ∀ token subject now, .issued token subject now ∈ hist → token = env.token subject now ∧ now ≤ shared.now
  traced : ∀ user ∈ shared.users, (∃ first ∈ initial, first.id = user.id) ∨
    ∃ first, .inserted first ∈ hist ∧ first.id = user.id
  emails : (shared.users.rows.map (·.email)).Nodup

/-- What a request under way rests on. -/
def AdminTask.Asserts (hist : List AdminEvent) : AdminTask → Prop
  | .adminLogin secret => .arrived (some secret) ∈ hist
  | .bootstrap _ providedSecret _ _ => .arrived providedSecret ∈ hist
  | .compare user _ => .found user ∈ hist
  | .create _ _ _ => LetIn hist
  | .insert _ _ _ => LetIn hist
  | .assertExists _ _ => LetIn hist
  | .update _ _ => LetIn hist
  | _ => True

/-- Why an event may be seen after what happened. -/
def AdminEvent.Explained (env : AdminEnv) (hist : List AdminEvent) (shared : AdminShared) : AdminEvent → Prop
  | .found user => user ∈ shared.users ∧ user.isActive = true
  | .issued token (.user user) now => token = env.token (.user user) now ∧ now = shared.now ∧ .found user ∈ hist ∧
    ∃ password, env.compare password user.passwordHash = true
  | .issued token .machine now => token = env.token .machine now ∧ now = shared.now ∧
    .arrived (some env.adminSecret) ∈ hist
  | .bootstrapped => .arrived (some env.adminSecret) ∈ hist
  | .passed token claims now => now = shared.now ∧ verifyJwt env.hmac token env.jwtSecret now = .ok claims
  | .inserted _ => LetIn hist
  | .shown user => user ∈ shared.users ∧ user.isActive = true
  | _ => True

/-- Who was let in stays let in. -/
theorem LetIn.mono (h : LetIn hist) (e : AdminEvent) : LetIn (hist ++ [e]) := by
  rcases h with hboot | ⟨token, claims, now, hpassed⟩
  · exact .inl (List.mem_append_left _ hboot)
  · exact .inr ⟨token, claims, now, List.mem_append_left _ hpassed⟩

/-- What a request rests on, it still does later. -/
theorem AdminTask.Asserts.mono {task : AdminTask} (h : task.Asserts hist) (e : AdminEvent) :
    task.Asserts (hist ++ [e]) := by
  cases task with
  | adminLogin secret => exact List.mem_append_left _ h
  | bootstrap dto providedSecret id salt => exact List.mem_append_left _ h
  | compare user password => exact List.mem_append_left _ h
  | create dto id salt => exact LetIn.mono h e
  | insert dto id salt => exact LetIn.mono h e
  | assertExists id dto => exact LetIn.mono h e
  | update id dto => exact LetIn.mono h e
  | login email password => exact trivial
  | canActivate authorization call => exact trivial
  | getMe userId => exact trivial

/-- What leaves the users as they are, and issues no token. -/
theorem AdminHolds.quiet (h : AdminHolds env initial hist shared) {e : AdminEvent}
    (hquiet : ∀ token subject now, e ≠ .issued token subject now) : AdminHolds env initial (hist ++ [e]) shared := by
  refine ⟨fun token subject now hmem => ?_, fun user huser => ?_, h.emails⟩
  · rcases List.mem_append.mp hmem with hold | hnew
    · exact h.issued token subject now hold
    · exact absurd (List.mem_singleton.mp hnew).symm (hquiet token subject now)
  · exact (h.traced user huser).imp_right fun ⟨first, hfirst, hid⟩ => ⟨first, List.mem_append_left _ hfirst, hid⟩

/-- A token is issued. -/
theorem AdminHolds.issue (h : AdminHolds env initial hist shared) (subject : AdminSubject) :
    AdminHolds env initial (hist ++ [.issued (env.token subject shared.now) subject shared.now]) shared := by
  refine ⟨fun token other now hmem => ?_, fun user huser => ?_, h.emails⟩
  · rcases List.mem_append.mp hmem with hold | hnew
    · exact h.issued token other now hold
    · cases List.mem_singleton.mp hnew
      exact ⟨rfl, le_rfl⟩
  · exact (h.traced user huser).imp_right fun ⟨first, hfirst, hid⟩ => ⟨first, List.mem_append_left _ hfirst, hid⟩

/-- Time goes by. -/
theorem AdminHolds.tick (h : AdminHolds env initial hist shared) (elapsed : ℕ) :
    AdminHolds env initial (hist ++ [.ticked]) { shared with now := shared.now + elapsed } := by
  have hquiet := @AdminHolds.quiet _ _ _ _ h .ticked (fun _ _ _ => by simp)
  exact ⟨fun token subject now hmem => (hquiet.issued token subject now hmem).imp_right fun hle =>
    hle.trans (Nat.le_add_right _ _), hquiet.traced, hquiet.emails⟩

/-- A user is made. -/
theorem AdminHolds.insert (h : AdminHolds env initial hist shared) {user : AdminUser} {users : Table AdminUser}
    (hemail : shared.users.rows.any (·.email = user.email) = false) (hinsert : shared.users.insert? user = some users) :
    AdminHolds env initial (hist ++ [.inserted user]) { shared with users } := by
  have hquiet := @AdminHolds.quiet _ _ _ _ h (.inserted user) (fun _ _ _ => by simp)
  refine ⟨hquiet.issued, fun other hother => ?_, ?_⟩
  · rcases (Table.mem_insert? hinsert).mp hother with hold | rfl
    · exact hquiet.traced other hold
    · exact .inr ⟨other, List.mem_append_right _ List.mem_cons_self, rfl⟩
  · have hfree : ∀ other ∈ shared.users.rows, other.email ≠ user.email := fun other hother heq =>
      absurd (decide_eq_true heq) (List.any_eq_false.mp hemail other hother)
    rw [(Table.insert?_eq_some hinsert).2, List.map_append, List.nodup_append]
    refine ⟨h.emails, List.nodup_singleton _, fun a ha b hb hab => ?_⟩
    obtain ⟨other, hother, rfl⟩ := List.mem_map.mp ha
    exact hfree other hother (hab.trans (List.mem_singleton.mp hb))

/-- A user is changed. -/
theorem AdminHolds.update (h : AdminHolds env initial hist shared) (id : String) (dto : UpdateUserDto) :
    AdminHolds env initial (hist ++ [.quiet]) (shared.update id dto) := by
  have hquiet := @AdminHolds.quiet _ _ _ _ h .quiet (fun _ _ _ => by simp)
  refine ⟨hquiet.issued, fun other hother => ?_, ?_⟩
  · obtain ⟨user, huser, rfl⟩ := List.mem_map.mp hother
    have hid : (if decide (user.id.value = id) = true then user.updated dto else user).id = user.id := by
      split <;> rfl
    rw [hid]
    exact hquiet.traced user huser
  · have hemail : (fun user : AdminUser => user.email) ∘
        (fun user => if decide (user.id.value = id) = true then user.updated dto else user) = (·.email) := by
      funext user
      simp only [Function.comp_apply]
      split <;> rfl
    change ((shared.users.rows.map _).map _).Nodup
    rw [List.map_map, hemail]
    exact h.emails

/-- A step of a request, or of what happens besides, is explained by what happened, and keeps what holds and what the
others rest on. -/
theorem AdminTask.run_keeps {task : AdminTask} {s : AdminShared} {e : AdminEvent} {next : Option AdminTask}
    (h : AdminHolds env initial hist shared) (hasserts : task.Asserts hist)
    (hrun : task.run env shared = (s, e, next)) :
    e.Explained env hist shared ∧ AdminHolds env initial (hist ++ [e]) s ∧ ∀ t ∈ next, t.Asserts (hist ++ [e]) := by
  have hrefused : ∀ message, (.refused message : AdminEvent).Explained env hist shared ∧
      AdminHolds env initial (hist ++ [.refused message]) shared ∧
      ∀ t ∈ (none : Option AdminTask), t.Asserts (hist ++ [.refused message]) := fun message =>
    ⟨trivial, h.quiet fun _ _ _ => by simp, fun t ht => by cases ht⟩
  cases task with
  | adminLogin secret =>
    rw [run] at hrun
    split at hrun
    · cases hrun
      exact hrefused _
    · rename_i hsecret
      cases hrun
      rw [ne_eq, not_not] at hsecret
      exact ⟨⟨rfl, rfl, hsecret ▸ hasserts⟩, h.issue .machine, fun t ht => by cases ht⟩
  | login email password =>
    rw [run] at hrun
    split at hrun
    · cases hrun
      exact hrefused _
    · rename_i user huser
      cases hrun
      obtain ⟨hfound, hactive⟩ := Option.filter_eq_some_iff.mp huser
      refine ⟨⟨List.mem_of_find?_eq_some hfound, hactive⟩, h.quiet fun _ _ _ => by simp, fun t ht => ?_⟩
      cases ht
      exact List.mem_append_right _ List.mem_cons_self
  | compare user password =>
    rw [run] at hrun
    split at hrun
    · cases hrun
      exact hrefused _
    · rename_i hcompare
      cases hrun
      exact ⟨⟨rfl, rfl, hasserts, password, by simpa using hcompare⟩, h.issue (.user user), fun t ht => by cases ht⟩
  | canActivate authorization call =>
    rw [run] at hrun
    split at hrun
    · cases hrun
      exact hrefused _
    · rename_i header hheader
      split at hrun
      · cases hrun
        exact hrefused _
      · rename_i claims hverified
        cases hrun
        refine ⟨⟨rfl, hverified⟩, h.quiet fun _ _ _ => by simp, fun t ht => ?_⟩
        have hletIn : LetIn (hist ++ [.passed (header.drop 7) claims shared.now]) :=
          .inr ⟨_, _, _, List.mem_append_right _ List.mem_cons_self⟩
        cases call <;> cases ht <;> first | exact hletIn | exact trivial
  | bootstrap dto providedSecret id salt =>
    rw [run] at hrun
    split at hrun
    · cases hrun
      exact hrefused _
    · split at hrun
      · cases hrun
        exact hrefused _
      · rename_i hsecret
        rw [not_or, ne_eq, not_not] at hsecret
        have hpresented : AdminEvent.arrived providedSecret ∈ hist := hasserts
        rw [hsecret.2] at hpresented
        split at hrun
        · cases hrun
          exact hrefused _
        · cases hrun
          refine ⟨hpresented, h.quiet fun _ _ _ => by simp, fun t ht => ?_⟩
          cases ht
          exact .inl (List.mem_append_right _ List.mem_cons_self)
  | create dto id salt =>
    rw [run] at hrun
    split at hrun
    · cases hrun
      exact hrefused _
    · cases hrun
      refine ⟨trivial, h.quiet fun _ _ _ => by simp, fun t ht => ?_⟩
      cases ht
      exact LetIn.mono hasserts _
  | insert dto id salt =>
    rw [run] at hrun
    split at hrun
    · cases hrun
      exact hrefused _
    · rename_i hemail
      split at hrun
      · cases hrun
        exact hrefused _
      · rename_i users hinsert
        cases hrun
        exact ⟨hasserts, h.insert (Bool.eq_false_iff.mpr hemail) hinsert, fun t ht => by cases ht⟩
  | assertExists id dto =>
    rw [run] at hrun
    split at hrun
    · cases hrun
      exact hrefused _
    · cases hrun
      refine ⟨trivial, h.quiet fun _ _ _ => by simp, fun t ht => ?_⟩
      cases ht
      exact LetIn.mono hasserts _
  | update id dto =>
    rw [run] at hrun
    cases hrun
    exact ⟨trivial, h.update id dto, fun t ht => by cases ht⟩
  | getMe userId =>
    rw [run] at hrun
    split at hrun
    · cases hrun
      exact hrefused _
    · rename_i user huser
      cases hrun
      obtain ⟨hfound, hactive⟩ := Option.filter_eq_some_iff.mp huser
      obtain ⟨id, -, hid⟩ := Option.bind_eq_some_iff.mp hfound
      exact ⟨⟨List.mem_of_find?_eq_some hid, hactive⟩, h.quiet fun _ _ _ => by simp, fun t ht => by cases ht⟩

/-- What happens besides keeps what holds, and starts requests that rest on what they present. -/
theorem AdminMove.keeps {s : AdminShared} {e : AdminEvent} {new : List AdminTask}
    (h : AdminHolds env initial hist shared) (hmove : AdminMove shared e s new) :
    e.Explained env hist shared ∧ AdminHolds env initial (hist ++ [e]) s ∧ ∀ t ∈ new, t.Asserts (hist ++ [e]) := by
  cases hmove with
  | tick elapsed => exact ⟨trivial, h.tick elapsed, fun t ht => absurd ht List.not_mem_nil⟩
  | adminLogin secret =>
    exact ⟨trivial, h.quiet fun _ _ _ => by simp,
      List.forall_mem_singleton.mpr (List.mem_append_right _ List.mem_cons_self)⟩
  | login email password =>
    exact ⟨trivial, h.quiet fun _ _ _ => by simp, List.forall_mem_singleton.mpr trivial⟩
  | request authorization call =>
    exact ⟨trivial, h.quiet fun _ _ _ => by simp, List.forall_mem_singleton.mpr trivial⟩
  | bootstrap dto providedSecret id salt =>
    exact ⟨trivial, h.quiet fun _ _ _ => by simp,
      List.forall_mem_singleton.mpr (List.mem_append_right _ List.mem_cons_self)⟩

/-- What every request rests on survives the others. -/
theorem adminDiscipline (env : AdminEnv) (initial : Table AdminUser) :
    Discipline (fun shared task e shared' next => AdminTask.run env shared task = (shared', e, next)) AdminMove .lost
      (AdminHolds env initial) (fun hist _ task => task.Asserts hist) fun _ _ _ _ => True where
  statement_ok hholds hasserts hrun :=
    have hkeeps := AdminTask.run_keeps hholds hasserts hrun
    ⟨hkeeps.2.1, trivial, hkeeps.2.2⟩
  environment_ok hholds hmove :=
    have hkeeps := AdminMove.keeps hholds hmove
    ⟨hkeeps.2.1, trivial, hkeeps.2.2⟩
  lost_ok hholds := ⟨hholds.quiet fun _ _ _ => by simp, trivial⟩
  stable hasserts _ := hasserts.mono _

/-- Every event of a step is explained by what happened before. -/
theorem AdminStep.explained {p q : Pool AdminShared AdminTask} {e : AdminEvent}
    (hright : p.Right (AdminHolds env initial) (fun hist _ task => task.Asserts hist) hist)
    (hstep : AdminStep env p e q) : e.Explained env hist p.shared := by
  cases hstep with
  | ran position run =>
    exact (AdminTask.run_keeps hright.1 (hright.2 _ (position ▸ List.mem_append_right _ List.mem_cons_self)) run).1
  | came move => exact (AdminMove.keeps hright.1 move).1
  | lost position => exact trivial

end Tracing

section Runs

variable {env : AdminEnv} {p q : Pool AdminShared AdminTask} {es : List AdminEvent}

/-- No signature is forged: what passes a guard was issued before. -/
def Unforged (es : List AdminEvent) : Prop :=
  ∀ before token claims now after, es = before ++ .passed token claims now :: after →
    ∃ subject issuedAt, .issued token subject issuedAt ∈ before

/-- An installation before any request. -/
structure AdminIdle (p : Pool AdminShared AdminTask) : Prop where
  tasks : p.tasks = []
  emails : (p.shared.users.rows.map (·.email)).Nodup

/-- What holds of an installation before any request. -/
theorem AdminIdle.right (h : AdminIdle p) (env : AdminEnv) :
    p.Right (AdminHolds env p.shared.users) (fun hist _ task => task.Asserts hist) [] := by
  refine ⟨⟨fun _ _ _ hmem => absurd hmem List.not_mem_nil, fun user huser => .inl ⟨user, huser, rfl⟩, h.emails⟩, ?_⟩
  rw [h.tasks]
  exact fun task htask => absurd htask List.not_mem_nil

/-- Every event of a run is explained by what happened before, in the state that it was seen in. -/
theorem AdminIdle.explained (h : AdminIdle p) (hrun : Run (AdminStep env) p es q) {before after : List AdminEvent}
    {e : AdminEvent} (hes : es = before ++ e :: after) :
    ∃ shared, AdminHolds env p.shared.users before shared ∧ e.Explained env before shared := by
  rw [hes] at hrun
  obtain ⟨middle, next, hbefore, hstep, -⟩ := hrun.exists_step
  have hright := hbefore.right (adminDiscipline env p.shared.users) (h.right env)
  rw [List.nil_append] at hright
  exact ⟨middle.shared, hright.1, hstep.explained hright⟩

/-- The claims of a subject are written well formed. -/
theorem AdminSubject.claims_wellFormed (subject : AdminSubject) : (Json.obj subject.claims).WellFormed := by
  cases subject <;>
  · refine ⟨by simp only [claims, List.map_cons, List.map_nil]; decide, ?_⟩
    exact ⟨trivial, by simp [Json.MembersWellFormed, Json.WellFormed]⟩

/-- An event by which someone gets in. -/
def AdminEvent.IsEntry : AdminEvent → Prop
  | .found _ => True
  | .issued _ _ _ => True
  | .passed _ _ _ => True
  | .inserted _ => True
  | _ => False

/-- A bootstrap goes through only after a request that presented the secret. -/
theorem AdminIdle.bootstrapped (h : AdminIdle p) (hrun : Run (AdminStep env) p es q) (hboot : .bootstrapped ∈ es) :
    .arrived (some env.adminSecret) ∈ es := by
  obtain ⟨before, after, hes⟩ := List.append_of_mem hboot
  obtain ⟨shared, -, hpresented⟩ := h.explained hrun hes
  rw [hes]
  exact List.mem_append_left _ hpresented

/-- Where no request presents the secret and there are no users, nobody ever gets in. -/
theorem AdminIdle.no_entry (h : AdminIdle p) (hrun : Run (AdminStep env) p es q) (hunforged : Unforged es)
    (hempty : p.shared.users.rows = []) (hsecret : .arrived (some env.adminSecret) ∉ es) (before : List AdminEvent) :
    ∀ after, es = before ++ after → ∀ e ∈ before, ¬e.IsEntry := by
  induction before using List.reverseRecOn with
  | nil => exact fun _ _ e he => absurd he List.not_mem_nil
  | append_singleton before e ih =>
    intro after hes other hother
    rw [List.append_assoc, List.singleton_append] at hes
    have hearlier := ih (e :: after) hes
    rcases List.mem_append.mp hother with hold | hnew
    · exact hearlier other hold
    · rw [List.mem_singleton.mp hnew]
      obtain ⟨shared, hholds, hexplained⟩ := h.explained hrun hes
      have hnotPresented : .arrived (some env.adminSecret) ∉ before := fun hmem =>
        hsecret (hes ▸ List.mem_append_left _ hmem)
      cases e with
      | found user =>
        rcases hholds.traced user hexplained.1 with ⟨first, hfirst, -⟩ | ⟨first, hfirst, -⟩
        · rw [← Table.mem_rows, hempty] at hfirst
          exact absurd hfirst List.not_mem_nil
        · exact absurd trivial (hearlier _ hfirst)
      | issued token subject now =>
        cases subject with
        | machine => exact absurd hexplained.2.2 hnotPresented
        | user user => exact absurd trivial (hearlier _ hexplained.2.2.1)
      | passed token claims now =>
        obtain ⟨subject, issuedAt, hissued⟩ := hunforged before token claims now after hes
        exact absurd trivial (hearlier _ hissued)
      | inserted user =>
        rcases hexplained with hboot | ⟨token, claims, now, hpassed⟩
        · exact absurd (h.bootstrapped hrun (hes ▸ List.mem_append_left _ hboot)) hsecret
        · exact absurd trivial (hearlier _ hpassed)
      | ticked => exact id
      | arrived secret => exact id
      | lost => exact id
      | quiet => exact id
      | refused message => exact id
      | bootstrapped => exact id
      | shown user => exact id

/-- A token that was issued is read as the claims of its subject, until it expires. -/
theorem AdminEnv.verifyJwt_token (env : AdminEnv) (subject : AdminSubject) {issuedAt : ℕ}
    (hsafe : unixSeconds issuedAt + env.adminJwtExpiry ≤ maxSafeInteger) (now : ℕ) :
    verifyJwt env.hmac (env.token subject issuedAt) env.jwtSecret now =
      if unixSeconds issuedAt + env.adminJwtExpiry < unixSeconds now then .error "Token JWT expirado"
      else .ok (.obj (issuedClaims subject.claims env.adminJwtExpiry issuedAt)) :=
  verifyJwt_signJwt subject.claims_wellFormed env.jwtSecret hsafe now

/-- Until then it passes a guard. -/
theorem AdminEnv.canActivate_token (env : AdminEnv) (subject : AdminSubject) {issuedAt : ℕ}
    (hsafe : unixSeconds issuedAt + env.adminJwtExpiry ≤ maxSafeInteger) {shared : AdminShared} (call : AdminCall)
    (hnow : unixSeconds shared.now ≤ unixSeconds issuedAt + env.adminJwtExpiry) :
    (AdminTask.canActivate (some ("Bearer ".toList ++ env.token subject issuedAt)) call).run env shared =
      (shared, .passed (env.token subject issuedAt)
        (.obj (issuedClaims subject.claims env.adminJwtExpiry issuedAt)) shared.now,
        call.task (.obj (issuedClaims subject.claims env.adminJwtExpiry issuedAt))) := by
  have hverified := env.verifyJwt_token subject hsafe shared.now
  rw [if_neg (Nat.not_lt.mpr hnow)] at hverified
  have hbearer : (some ("Bearer ".toList ++ env.token subject issuedAt)).filter ("Bearer ".toList.isPrefixOf ·) =
      some ("Bearer ".toList ++ env.token subject issuedAt) :=
    Option.filter_some_pos (List.isPrefixOf_iff_prefix.mpr ⟨_, rfl⟩)
  have hdrop : ("Bearer ".toList ++ env.token subject issuedAt).drop 7 = env.token subject issuedAt := rfl
  simp only [AdminTask.run, hbearer, hdrop, hverified]

end Runs

/-- Whatever requests of administrators come, in any order and lost at any point, as long as no signature is forged and
the clock is one that is counted exactly: what passes a guard claims what its subject was issued, did not expire, and
has the signature of its claims. A machine is issued a token only after a request that presented the secret of the Hub,
and so does a bootstrap go through; a user is issued one only after being found active, with a password that compares; a
user is made only by a bootstrap or by a request that was let through, and shown only while active. Without users at
first, and if no request presents the secret, nobody ever gets in. A token passes until it expires, whatever became of
its user, and no two users have one address. -/
theorem admin_access {env : AdminEnv} {p q : Pool AdminShared AdminTask} {es : List AdminEvent} (hidle : AdminIdle p)
    (hrun : Run (AdminStep env) p es q) (hunforged : Unforged es)
    (hsafe : ∀ token subject now, .issued token subject now ∈ es →
      unixSeconds now + env.adminJwtExpiry ≤ maxSafeInteger) :
    (∀ before token claims now after, es = before ++ AdminEvent.passed token claims now :: after → ∃ subject issuedAt,
      .issued token subject issuedAt ∈ before ∧
      claims = .obj (issuedClaims subject.claims env.adminJwtExpiry issuedAt) ∧
      unixSeconds now ≤ unixSeconds issuedAt + env.adminJwtExpiry) ∧
    (∀ token claims now, .passed token claims now ∈ es → ∃ encodedHeader encodedPayload,
      token = encodedHeader ++ '.' :: (encodedPayload ++ '.' ::
        jwtSignature env.hmac env.jwtSecret encodedHeader encodedPayload) ∧
      Json.parse (utf8Decode none (base64urlBytes encodedPayload)) = some claims ∧ jwtExpired claims now = false) ∧
    (∀ before e after, es = before ++ e :: after → ((∃ token now, e = .issued token .machine now) ∨ e = .bootstrapped) →
      .arrived (some env.adminSecret) ∈ before) ∧
    (∀ before token user now after, es = before ++ AdminEvent.issued token (.user user) now :: after →
      .found user ∈ before ∧ user.isActive = true ∧ ∃ password, env.compare password user.passwordHash = true) ∧
    (∀ before user after, es = before ++ AdminEvent.inserted user :: after → LetIn before) ∧
    (∀ before user after, es = before ++ AdminEvent.shown user :: after → user.isActive = true) ∧
    (p.shared.users.rows = [] → .arrived (some env.adminSecret) ∉ es →
      q.shared.users.rows = [] ∧ ∀ e ∈ es, ¬e.IsEntry) ∧
    (∀ token subject issuedAt, .issued token subject issuedAt ∈ es → ∀ shared call,
      unixSeconds shared.now ≤ unixSeconds issuedAt + env.adminJwtExpiry →
      ∃ claims, claims = .obj (issuedClaims subject.claims env.adminJwtExpiry issuedAt) ∧
        (AdminTask.canActivate (some ("Bearer ".toList ++ token)) call).run env shared =
          (shared, .passed token claims shared.now, call.task claims)) ∧
    (q.shared.users.rows.map (·.email)).Nodup := by
  have hright := hrun.right (adminDiscipline env p.shared.users) (hidle.right env)
  rw [List.nil_append] at hright
  refine ⟨fun before token claims now after hes => ?_, fun token claims now hpassed => ?_,
    fun before e after hes hlet => ?_, fun before token user now after hes => ?_, fun before user after hes => ?_,
    fun before user after hes => ?_, fun hempty hsecret => ?_,
    fun token subject issuedAt hissued shared call hnow => ?_, hright.1.emails⟩
  · obtain ⟨subject, issuedAt, hissued⟩ := hunforged before token claims now after hes
    obtain ⟨shared, hholds, hnow, hverified⟩ := hidle.explained hrun hes
    obtain ⟨htoken, -⟩ := hholds.issued token subject issuedAt hissued
    have hmem : AdminEvent.issued token subject issuedAt ∈ es := hes ▸ List.mem_append_left _ hissued
    rw [htoken, env.verifyJwt_token subject (hsafe _ _ _ hmem)] at hverified
    split at hverified
    · cases hverified
    · rename_i hvalid
      exact ⟨subject, issuedAt, hissued, (Except.ok.inj hverified).symm, Nat.le_of_not_lt hvalid⟩
  · obtain ⟨before, after, hes⟩ := List.append_of_mem hpassed
    obtain ⟨shared, -, -, hverified⟩ := hidle.explained hrun hes
    exact verifyJwt_ok hverified
  · obtain ⟨shared, -, hexplained⟩ := hidle.explained hrun hes
    rcases hlet with ⟨token, now, rfl⟩ | rfl
    · exact hexplained.2.2
    · exact hexplained
  · obtain ⟨shared, -, -, -, hfound, hpassword⟩ := hidle.explained hrun hes
    obtain ⟨earlier, later, hbefore⟩ := List.append_of_mem hfound
    rw [hbefore, List.append_assoc, List.cons_append] at hes
    obtain ⟨found, -, -, hactive⟩ := hidle.explained hrun hes
    exact ⟨hfound, hactive, hpassword⟩
  · obtain ⟨shared, -, hletIn⟩ := hidle.explained hrun hes
    exact hletIn
  · obtain ⟨shared, -, -, hactive⟩ := hidle.explained hrun hes
    exact hactive
  · have hnone := hidle.no_entry hrun hunforged hempty hsecret es [] (List.append_nil es).symm
    refine ⟨List.eq_nil_iff_forall_not_mem.mpr fun user huser => ?_, hnone⟩
    rcases hright.1.traced user huser with ⟨first, hfirst, -⟩ | ⟨first, hfirst, -⟩
    · rw [← Table.mem_rows, hempty] at hfirst
      exact absurd hfirst List.not_mem_nil
    · exact hnone _ hfirst trivial
  · obtain ⟨htoken, -⟩ := hright.1.issued token subject issuedAt hissued
    rw [htoken]
    exact ⟨_, rfl, env.canActivate_token subject (hsafe _ _ _ hissued) call hnow⟩

/-- The header and the claims of a token there. -/
def smallClaimed : List Char :=
  "eyJhbGciOiJIUzI1NiIsInR5cCI6IkpXVCJ9".toList ++ '.' :: ("eyJzdWIiOiJhZG1pbiIsInJvbGUiOiJhZG1pbiIs".toList ++
    "ImlhdCI6MTcwMDAwMDAwMCwiZXhwIjoxNzAwMDg2NDAwfQ".toList)

/-- The settings of a small installation. The signature is that of the token that a machine is issued there. -/
def smallAccess : AdminEnv where
  jwtSecret := "jwt-secret"
  adminSecret := "admin-secret"
  adminJwtExpiry := 86400
  hmac key message :=
    if key = utf8 "jwt-secret".toList ∧ message = utf8 smallClaimed then
      [55, 44, 149, 205, 169, 51, 72, 190, 40, 231, 45, 191, 43, 168, 103, 213, 155, 87, 244, 238, 158, 107, 112, 169,
        111, 53, 218, 141, 202, 211, 43, 38]
    else []
  compare password passwordHash := password = passwordHash
  hash password _ := password

/-- The token of a machine there. -/
def smallToken : List Char := smallClaimed ++ '.' :: "NyyVzakzSL4o5y2_K6hn1ZtX9O6ea3CpbzXajcrTKyY".toList

/-- Its claims. -/
def smallClaims : Json := .obj (issuedClaims AdminSubject.machine.claims 86400 1700000000000)

/-- A machine presents the secret, is issued a token, and makes a request with it an hour later. -/
def smallAdminRun : List AdminEvent :=
  [.arrived (some "admin-secret"), .issued smallToken .machine 1700000000000, .ticked, .arrived none,
    .passed smallToken smallClaims 1700003600000]

/-- The installation at an instant, with requests under way. -/
def smallInstallation (now : ℕ) (tasks : List AdminTask) : Pool AdminShared AdminTask := ⟨⟨now, Table.empty⟩, tasks⟩

/-- A request that has no further access ends. -/
theorem smallEnd {now : ℕ} {task : AdminTask} {e : AdminEvent}
    (hrun : task.run smallAccess ⟨now, Table.empty⟩ = (⟨now, Table.empty⟩, e, none)) :
    AdminStep smallAccess (smallInstallation now [task]) e (smallInstallation now []) := by
  change PoolStep (fun shared task e shared' next => AdminTask.run smallAccess shared task = (shared', e, next))
    AdminMove .lost _ _ ⟨_, (none : Option AdminTask).toList ++ []⟩
  exact .first rfl hrun

/-- The run is one of the installation. -/
theorem smallAdminRun_run : Run (AdminStep smallAccess) (smallInstallation 1700000000000 []) smallAdminRun
    (smallInstallation 1700003600000 []) := by
  have htoken : smallAccess.token .machine 1700000000000 = smallToken := by decide +kernel
  have hissued : (AdminTask.adminLogin "admin-secret").run smallAccess ⟨1700000000000, Table.empty⟩ =
      (⟨1700000000000, Table.empty⟩, .issued smallToken .machine 1700000000000, none) := by
    rw [← htoken]
    rfl
  have hpassed : (AdminTask.canActivate (some ("Bearer ".toList ++ smallToken)) .other).run smallAccess
      ⟨1700003600000, Table.empty⟩ =
      (⟨1700003600000, Table.empty⟩, .passed smallToken smallClaims 1700003600000, none) := by
    rw [← htoken]
    exact smallAccess.canActivate_token .machine (by decide) .other (by decide)
  exact .cons (.came (.adminLogin "admin-secret")) <| .cons (smallEnd hissued) <| .cons (.came (.tick 3600000)) <|
    .cons (.came (.request (some ("Bearer ".toList ++ smallToken)) .other)) <| .single (smallEnd hpassed)

/-- What passed there claims what the machine was issued, after the secret was presented. -/
theorem admin_access_small :
    (∃ subject issuedAt, .issued smallToken subject issuedAt ∈ smallAdminRun.take 4 ∧
      smallClaims = .obj (issuedClaims subject.claims smallAccess.adminJwtExpiry issuedAt) ∧
      unixSeconds 1700003600000 ≤ unixSeconds issuedAt + smallAccess.adminJwtExpiry) ∧
      .arrived (some smallAccess.adminSecret) ∈ smallAdminRun.take 1 := by
  have hidle : AdminIdle (smallInstallation 1700000000000 []) := ⟨rfl, List.nodup_nil⟩
  have hunforged : Unforged smallAdminRun := by
    intro before token claims now after hes
    have hpassed : AdminEvent.passed token claims now ∈ smallAdminRun :=
      hes ▸ List.mem_append_right _ List.mem_cons_self
    simp only [smallAdminRun, List.mem_cons, List.not_mem_nil, or_false, reduceCtorEq, false_or,
      AdminEvent.passed.injEq] at hpassed
    rw [hpassed.1]
    refine ⟨.machine, 1700000000000, ?_⟩
    match before, hes with
    | [], hes => cases hes
    | [_], hes => cases hes
    | _ :: _ :: _, hes =>
      rw [← (List.cons.inj (List.cons.inj hes).2).1]
      exact List.mem_cons_of_mem _ List.mem_cons_self
  have hsafe : ∀ token subject now, AdminEvent.issued token subject now ∈ smallAdminRun →
      unixSeconds now + smallAccess.adminJwtExpiry ≤ maxSafeInteger := by
    intro token subject now hissued
    simp only [smallAdminRun, List.mem_cons, List.not_mem_nil, or_false, reduceCtorEq, false_or,
      AdminEvent.issued.injEq] at hissued
    rw [hissued.2.2]
    decide
  have haccess := admin_access hidle smallAdminRun_run hunforged hsafe
  exact ⟨haccess.1 (smallAdminRun.take 4) _ _ _ [] rfl,
    haccess.2.2.1 (smallAdminRun.take 1) _ (smallAdminRun.drop 2) rfl (.inl ⟨_, _, rfl⟩)⟩

end ConnectHub
