import ConnectHub.MediaSourcePolicy

/-!
# Fetching media

The client follows the redirects of a source for at most six connections. Each hop is resolved by the policy
anew, and the connection goes to the very address that the policy judged. No name that a redirect leads to, no
answer to its lookup and no response can make the client connect elsewhere.
-/

namespace ConnectHub

open Store

/-- How far a fetch has come. -/
inductive SourceStage
  | resolve | request | response | redirect | decode | download
deriving DecidableEq, Repr

/-- What is kept of a fetch for its diagnosis. -/
structure SourceDiagnostics where
  host : Option String := none
  stage : Option SourceStage := none
  statusCode : Option ℕ := none
  errorCode : Option String := none
deriving DecidableEq, Repr

/-- A connection that the client opens. -/
structure SourceConnection where
  url : MediaUrl
  secure : Bool
  address : String
  family : ℕ
  servername : Option String
  host : String
deriving DecidableEq, Repr

/-- The response to a request. -/
structure SourceResponse where
  status : ℕ := 0
  location : Option String := none
  /-- The content encoding, without blanks at its ends and in lower case. -/
  encoding : Option String := none
  contentType : Option String := none
  /-- The content length, if it is a number other than zero. -/
  contentLength : Option ℕ := none
deriving DecidableEq, Repr

/-- How a body is decoded. -/
inductive SourceDecoder
  | plain | gunzip | inflate | brotli
deriving DecidableEq, Repr

/-- A source that is ready to be read. -/
structure RemoteMedia where
  decoder : SourceDecoder
  contentType : Option String
  contentLength : Option ℕ
deriving DecidableEq, Repr

/-- What happens outside at each hop. -/
structure SourceWorld where
  active : ℕ → Except SourceFailure Unit
  lookup : ℕ → Except SourceFailure (List DnsRecord)
  stillActive : ℕ → Except SourceFailure Unit
  respond : ℕ → Except SourceFailure SourceResponse

/-- What a fetch has done so far. -/
structure SourceRun where
  diagnostics : SourceDiagnostics := {}
  connections : List SourceConnection := []
deriving DecidableEq, Repr

section Client

variable (network : Network MediaUrl) (policy : MediaSourcePolicy network) (world : SourceWorld)

/-- The connection to a target. -/
def connectionTo (target : MediaTarget) : SourceConnection where
  url := target.url
  secure := target.url.protocol = "https:"
  address := target.address
  family := target.family
  servername :=
    if network.isIP (unbracketed target.url.hostname) ≠ 0 then none else some (unbracketed target.url.hostname)
  host := target.url.host

/-- Where a redirect leads. -/
def followRedirect (redirects : ℕ) (url : MediaUrl) (response : SourceResponse) : Except SourceFailure MediaUrl :=
  match response.location.filter (· ≠ "") with
  | none => .error (.badGateway "Media source redirect limit exceeded")
  | some location =>
    if redirects = 5 then .error (.badGateway "Media source redirect limit exceeded")
    else
      match network.relative location url with
      | none => .error (.thrown (some "ERR_INVALID_URL"))
      | some next =>
        if url.protocol = "https:" ∧ next.protocol ≠ "https:" then
          .error (.badRequest "Media source redirect downgrades HTTPS")
        else .ok next

/-- What a status tells the sender. -/
def statusReason (status : ℕ) : String :=
  if status = 401 then ": autenticação exigida"
  else if status = 403 then ": acesso negado"
  else if status = 404 then ": arquivo não encontrado"
  else if status = 429 then ": limite de requisições da origem atingido"
  else ""

/-- The decoder of an encoding, if it has one. -/
def decoderOf (encoding : String) : Option SourceDecoder :=
  if encoding = "gzip" then some .gunzip
  else if encoding = "deflate" then some .inflate
  else if encoding = "br" then some .brotli
  else none

/-- Take the media of a response that is no redirect. -/
def takeMedia (diagnostics : SourceDiagnostics) (response : SourceResponse) :
    SourceDiagnostics × Except SourceFailure RemoteMedia :=
  if response.status ≠ 200 then
    ({ diagnostics with errorCode := some "HTTP_STATUS" },
      .error (.badGateway ("Não foi possível baixar a mídia. O servidor do arquivo respondeu HTTP " ++
        response.status.repr ++ statusReason response.status ++ ". O envio à Evolution não foi iniciado.")))
  else
    match response.encoding.filter fun encoding => encoding ≠ "" && encoding ≠ "identity" with
    | none =>
      ({ diagnostics with stage := some .download },
        .ok { decoder := .plain, contentType := response.contentType, contentLength := response.contentLength })
    | some encoding =>
      match decoderOf encoding with
      | none =>
        ({ diagnostics with stage := some .decode }, .error (.badGateway "Unsupported media source encoding"))
      | some decoder =>
        ({ diagnostics with stage := some .download },
          .ok { decoder := decoder, contentType := response.contentType, contentLength := none })

/-- Follow a source for as many hops as are left. -/
def openHops : ℕ → ℕ → String → SourceRun → SourceRun × Except SourceFailure RemoteMedia
  | 0, _, _, run => (run, .error (.badGateway "Media source redirect limit exceeded"))
  | left + 1, redirects, current, run =>
    let resolving : SourceDiagnostics :=
      { stage := some .resolve, host := (network.url current).map (·.hostname) }
    match policy.resolve network (world.active redirects) (world.lookup redirects) (world.stillActive redirects)
        current with
    | .error failure => ({ run with diagnostics := resolving }, .error failure)
    | .ok target =>
      let connections := run.connections ++ [connectionTo network target]
      match world.respond redirects with
      | .error failure =>
        ({ diagnostics := { resolving with stage := some .request }, connections := connections }, .error failure)
      | .ok response =>
        let answered := { resolving with stage := some .response, statusCode := some response.status }
        if [301, 302, 303, 307, 308].contains response.status then
          let redirected := { answered with stage := some .redirect }
          match followRedirect network redirects target.url response with
          | .error failure => ({ diagnostics := redirected, connections := connections }, .error failure)
          | .ok next =>
            openHops left (redirects + 1) next.href { diagnostics := redirected, connections := connections }
        else
          let taken := takeMedia answered response
          ({ diagnostics := taken.1, connections := connections }, taken.2)

/-- Open a source: redirects are followed five times. -/
def openSource (value : String) : SourceRun × Except SourceFailure RemoteMedia :=
  openHops network policy world 6 0 value {}

/-- Whether a code may be kept: a short identifier in upper case. -/
def isErrorIdentifier (code : String) : Bool :=
  match code.toList with
  | [] => false
  | first :: rest =>
    first.isUpper && rest.length ≤ 63 && rest.all fun c => c.isUpper || c.isDigit || c == '_'

/-- Keep the code of a failure, unless another is there. -/
def recordError (diagnostics : SourceDiagnostics) (failure : SourceFailure) : SourceDiagnostics :=
  match diagnostics.errorCode, failure with
  | none, .thrown (some code) =>
    if isErrorIdentifier code then { diagnostics with errorCode := some code } else diagnostics
  | _, _ => diagnostics

/-- Open a source and keep the code of its failure. -/
def openMedia (value : String) : SourceRun × Except SourceFailure RemoteMedia :=
  let opened := openSource network policy world value
  match opened.2 with
  | .ok _ => opened
  | .error failure =>
    ({ opened.1 with diagnostics := recordError opened.1.diagnostics failure }, opened.2)

end Client

section Safety

variable {network : Network MediaUrl} {policy : MediaSourcePolicy network} {world : SourceWorld}

/-- A connection that media may be fetched over: to an address that the policy accepts for its own origin, as it
accepts every address of its name. -/
structure SafeConnection (policy : MediaSourcePolicy network) (lookup : Except SourceFailure (List DnsRecord))
    (connection : SourceConnection) : Prop where
  accepted : isAllowedMediaAddress network connection.address
    (policy.allowedOrigins.contains connection.url.origin) = .ok true
  answer : ∃ records, addressesOf network lookup connection.url = .ok records ∧
    records.head? = some ⟨connection.address, connection.family⟩ ∧
    ∀ record ∈ records, isAllowedMediaAddress network record.address
      (policy.allowedOrigins.contains connection.url.origin) = .ok true
  judged : ∃ normalized address, normalizedAddress network connection.address = .ok normalized ∧
    network.address normalized = some address ∧ deniedAddresses.check address = false ∧
    (privateAddresses.check address = true → connection.url.origin ∈ policy.allowedOrigins)
  scheme : connection.url.protocol = "http:" ∨ connection.url.protocol = "https:"
  secure : connection.secure = true ↔ connection.url.protocol = "https:"
  username : connection.url.username = ""
  password : connection.url.password = ""

/-- What is judged is an address that the platform reads. -/
theorem checkAddress_ok {list : BlockList} {text : String} {found : Bool}
    (h : checkAddress network list text = .ok found) :
    ∃ address, network.address text = some address ∧ list.check address = found := by
  unfold checkAddress at h
  cases haddress : network.address text with
  | none => rw [haddress] at h; cases h
  | some address =>
    rw [haddress] at h
    cases h
    exact ⟨address, rfl, rfl⟩

/-- An address that is accepted is not reserved, and private only where private ones are allowed. -/
theorem isAllowedMediaAddress_ok {text : String} {allowPrivate : Bool}
    (h : isAllowedMediaAddress network text allowPrivate = .ok true) :
    ∃ normalized address, normalizedAddress network text = .ok normalized ∧
      network.address normalized = some address ∧ deniedAddresses.check address = false ∧
      (privateAddresses.check address = true → allowPrivate = true) := by
  obtain ⟨normalized, hnormalized, h⟩ := Store.except_bind_ok.mp h
  by_cases hzero : network.isIP normalized = 0
  · rw [if_pos hzero] at h
    cases h
  · rw [if_neg hzero] at h
    obtain ⟨denied, hdenied, h⟩ := Store.except_bind_ok.mp h
    cases denied with
    | true => cases h
    | false =>
      obtain ⟨onPrivate, hprivate, h⟩ := Store.except_bind_ok.mp h
      obtain ⟨address, haddress, hcheck⟩ := checkAddress_ok hdenied
      obtain ⟨same, hsame, hother⟩ := checkAddress_ok hprivate
      have heq : same = address := Option.some.inj (hsame.symm.trans haddress)
      refine ⟨normalized, address, hnormalized, haddress, hcheck, ?_⟩
      intro hpositive
      rw [← heq, hother] at hpositive
      rw [hpositive] at h
      cases allowPrivate with
      | true => rfl
      | false => cases h

/-- Addresses are not refused when each is accepted. -/
theorem anyRefused_ok {allowPrivate : Bool} {records : List DnsRecord}
    (h : anyRefused network allowPrivate records = .ok false) :
    ∀ record ∈ records, isAllowedMediaAddress network record.address allowPrivate = .ok true := by
  induction records with
  | nil =>
    intro record hrecord
    cases hrecord
  | cons first records ih =>
    obtain ⟨allowed, hallowed, h⟩ := Store.except_bind_ok.mp h
    cases allowed with
    | false => cases h
    | true =>
      intro record hrecord
      cases List.mem_cons.mp hrecord with
      | inl hhere => rw [hhere]; exact hallowed
      | inr hthere => exact ih h record hthere

/-- A target that the policy resolves may be connected to. -/
theorem resolve_ok {active stillActive : Except SourceFailure Unit} {lookup : Except SourceFailure (List DnsRecord)}
    {value : String} {target : MediaTarget}
    (h : policy.resolve network active lookup stillActive value = .ok target) :
    network.url value = some target.url ∧ SafeConnection policy lookup (connectionTo network target) := by
  obtain ⟨_, _, h⟩ := Store.except_bind_ok.mp h
  cases hurl : network.url value with
  | none => rw [hurl] at h; cases h
  | some url =>
    rw [hurl] at h
    change (if _ then _ else _) = _ at h
    by_cases hbad : (!(["http:", "https:"].contains url.protocol) || url.username ≠ "" || url.password ≠ "") = true
    · rw [if_pos hbad] at h
      cases h
    · rw [if_neg hbad] at h
      obtain ⟨records, hrecords, h⟩ := Store.except_bind_ok.mp h
      obtain ⟨_, _, h⟩ := Store.except_bind_ok.mp h
      obtain ⟨refused, hrefused, h⟩ := Store.except_bind_ok.mp h
      have hparts : (url.protocol = "http:" ∨ url.protocol = "https:") ∧ url.username = "" ∧ url.password = "" := by
        simpa [not_or, and_assoc, or_iff_not_imp_left] using hbad
      cases records with
      | nil => cases h
      | cons record records =>
        cases refused with
        | true => cases h
        | false =>
          cases h
          have hall := anyRefused_ok hrefused
          have hfirst := hall record List.mem_cons_self
          obtain ⟨normalized, address, hnormalized, haddress, hdenied, hprivate⟩ := isAllowedMediaAddress_ok hfirst
          have horigin : privateAddresses.check address = true → url.origin ∈ policy.allowedOrigins :=
            fun hpositive => List.contains_iff_mem.mp (hprivate hpositive)
          exact ⟨rfl, {
            accepted := hfirst
            answer := ⟨_, hrecords, rfl, hall⟩
            judged := ⟨normalized, address, hnormalized, haddress, hdenied, horigin⟩
            scheme := hparts.1
            secure := decide_eq_true_iff
            username := hparts.2.1
            password := hparts.2.2 }⟩

/-- A redirect from HTTPS leads to HTTPS, and is read as where it leads. -/
theorem followRedirect_ok (hnetwork : network.Specified) {redirects : ℕ} {url next : MediaUrl}
    {response : SourceResponse} (h : followRedirect network redirects url response = .ok next) :
    network.url next.href = some next ∧ (url.protocol = "https:" → next.protocol = "https:") := by
  unfold followRedirect at h
  split at h
  · cases h
  · rename_i location _
    split at h
    · cases h
    · split at h
      · cases h
      · rename_i found hfound
        split at h
        · cases h
        · rename_i hdown
          cases h
          refine ⟨hnetwork.readsBack location url _ hfound, ?_⟩
          intro hsecure
          by_contra hplain
          exact hdown ⟨hsecure, hplain⟩

/-- The hops that are followed: as many as are left at most, each over a connection that is safe for its own
lookup, and none without HTTPS after one with it. -/
theorem openHops_safe (hnetwork : network.Specified) (left redirects : ℕ) (current : String) (run : SourceRun) :
    ∃ opened, (openHops network policy world left redirects current run).1.connections = run.connections ++ opened ∧
      opened.length ≤ left ∧
      (∀ hop connection, opened[hop]? = some connection →
        SafeConnection policy (world.lookup (redirects + hop)) connection) ∧
      opened.Pairwise (fun earlier later => earlier.secure = true → later.secure = true) ∧
      ∀ first, opened.head? = some first → network.url current = some first.url := by
  induction left generalizing redirects current run with
  | zero =>
    refine ⟨[], (List.append_nil _).symm, Nat.le_refl _, ?_, List.Pairwise.nil, ?_⟩
    · intro hop connection h
      cases h
    · intro first h
      cases h
  | succ left ih =>
    rw [openHops]
    cases hresolve : policy.resolve network (world.active redirects) (world.lookup redirects)
        (world.stillActive redirects) current with
    | error failure =>
      refine ⟨[], (List.append_nil _).symm, Nat.zero_le _, ?_, List.Pairwise.nil, ?_⟩
      · intro hop connection h
        cases h
      · intro first h
        cases h
    | ok target =>
      obtain ⟨hurl, hsafe⟩ := resolve_ok hresolve
      have hsingle : ∀ hop connection, [connectionTo network target][hop]? = some connection →
          SafeConnection policy (world.lookup (redirects + hop)) connection := by
        intro hop connection h
        cases hop with
        | zero =>
          cases h
          exact hsafe
        | succ hop => cases h
      have hhead : ∀ (rest : List SourceConnection) first,
          (connectionTo network target :: rest).head? = some first → network.url current = some first.url := by
        intro rest first h
        cases h
        exact hurl
      simp only
      cases hrespond : world.respond redirects with
      | error failure =>
        exact ⟨[connectionTo network target], rfl, Nat.succ_le_succ (Nat.zero_le _), hsingle,
          List.pairwise_singleton _ _, hhead []⟩
      | ok response =>
        simp only
        by_cases hstatus : [301, 302, 303, 307, 308].contains response.status = true
        · rw [if_pos hstatus]
          cases hfollow : followRedirect network redirects target.url response with
          | error failure =>
            exact ⟨[connectionTo network target], rfl, Nat.succ_le_succ (Nat.zero_le _), hsingle,
              List.pairwise_singleton _ _, hhead []⟩
          | ok next =>
            obtain ⟨hreads, hstays⟩ := followRedirect_ok hnetwork hfollow
            simp only
            obtain ⟨opened, hopened, hlength, hsafes, hmonotone, hfirst⟩ := ih (redirects + 1) next.href _
            refine ⟨connectionTo network target :: opened, ?_, Nat.succ_le_succ hlength, ?_, ?_, hhead opened⟩
            · rw [hopened, List.append_assoc, List.singleton_append]
            · intro hop connection h
              cases hop with
              | zero =>
                cases h
                exact hsafe
              | succ hop =>
                have hlater := hsafes hop connection h
                have hcount : redirects + 1 + hop = redirects + (hop + 1) := by omega
                rw [hcount] at hlater
                exact hlater
            · refine List.Pairwise.cons ?_ hmonotone
              intro later hlater hsecure
              cases opened with
              | nil => cases hlater
              | cons second others =>
                have hsame : next = second.url := Option.some.inj (hreads.symm.trans (hfirst second rfl))
                have hsecond : second.secure = true := by
                  have hnext := hstays (hsafe.secure.mp hsecure)
                  rw [hsame] at hnext
                  exact (hsafes 0 second rfl).secure.mpr hnext
                cases List.mem_cons.mp hlater with
                | inl hhere => rw [hhere]; exact hsecond
                | inr hthere => exact List.rel_of_pairwise_cons hmonotone hthere hsecond
        · rw [if_neg hstatus]
          exact ⟨[connectionTo network target], rfl, Nat.succ_le_succ (Nat.zero_le _), hsingle,
            List.pairwise_singleton _ _, hhead []⟩

/-- The code of a failure is kept after the connections were made. -/
theorem openMedia_connections (value : String) : (openMedia network policy world value).1.connections =
    (openSource network policy world value).1.connections := by
  unfold openMedia
  dsimp only
  split <;> rfl

/-- Whatever the names are looked up as and wherever the responses redirect to, a source is opened over at most six
connections, each of them safe for the lookup of its own hop, none without HTTPS after one with it, and media over no
others; and an address of version 4 is judged alike in both of its forms. -/
theorem openSource_safe (hnetwork : network.Specified) (policy : MediaSourcePolicy network) (world : SourceWorld)
    (value : String) :
    (openSource network policy world value).1.connections.length ≤ 6 ∧
      (∀ hop connection, (openSource network policy world value).1.connections[hop]? = some connection →
        SafeConnection policy (world.lookup hop) connection) ∧
      (openSource network policy world value).1.connections.Pairwise
        (fun earlier later => earlier.secure = true → later.secure = true) ∧
      (openMedia network policy world value).1.connections = (openSource network policy world value).1.connections ∧
      ∀ text mapped address allowPrivate, network.address text = some (.v4 address) →
        network.address mapped = some (.v6 (mappedAddress address)) →
          isAllowedMediaAddress network mapped allowPrivate = isAllowedMediaAddress network text allowPrivate := by
  obtain ⟨opened, hopened, hlength, hsafes, hmonotone, -⟩ :=
    @openHops_safe network policy world hnetwork 6 0 value {}
  have hconnections : (openSource network policy world value).1.connections = opened := hopened
  rw [openMedia_connections, hconnections]
  refine ⟨hlength, ?_, hmonotone, rfl, ?_⟩
  · intro hop connection h
    have hsafe := hsafes hop connection h
    rw [Nat.zero_add] at hsafe
    exact hsafe
  · intro text mapped address allowPrivate htext hmapped
    exact isAllowedMediaAddress_mapped hnetwork htext hmapped allowPrivate

end Safety

section Example

/-- The URL of a plain source. -/
def plainUrl : MediaUrl where
  href := "http://media.test/a"
  protocol := "http:"
  hostname := "media.test"
  host := "media.test"
  origin := "http://media.test"

/-- The URL of a secure source. -/
def secureUrl : MediaUrl where
  href := "https://media.test/a"
  protocol := "https:"
  hostname := "media.test"
  host := "media.test"
  origin := "https://media.test"

/-- A network with two URLs and one address, which it reads in both of its forms. -/
def smallNetwork : Network MediaUrl where
  isIP text := if text = "1.2.3.4" then 4 else if text = "::ffff:102:304" then 6 else 0
  hostOf text := if text = "::ffff:102:304" then some text else none
  address text :=
    if text = "1.2.3.4" then some (.v4 0x01020304)
    else if text = "::ffff:102:304" then some (.v6 (mappedAddress 0x01020304))
    else none
  url text := if text = plainUrl.href then some plainUrl else if text = secureUrl.href then some secureUrl else none
  relative location _ := if location = "https://media.test/a" then some secureUrl else none

/-- The network reads what it knows as specified. -/
theorem smallNetwork_specified : smallNetwork.Specified where
  four := by
    intro text
    simp only [smallNetwork]
    by_cases hfour : text = "1.2.3.4"
    · simp [hfour]
    · by_cases hsix : text = "::ffff:102:304"
      · simp [hsix]
      · simp [hfour, hsix]
  six := by
    intro text address h
    simp only [smallNetwork] at h ⊢
    by_cases hfour : text = "1.2.3.4"
    · rw [if_pos hfour] at h
      cases h
    · by_cases hsix : text = "::ffff:102:304"
      · rw [if_neg hfour, if_pos hsix] at h
        cases h
        rw [if_neg hfour, if_pos hsix, if_pos hsix, hsix]
        exact ⟨rfl, by decide +kernel⟩
      · rw [if_neg hfour, if_neg hsix] at h
        cases h
  decimal := by
    intro text address h
    simp only [smallNetwork] at h
    by_cases hfour : text = "1.2.3.4"
    · rw [if_pos hfour] at h
      cases h
    · by_cases hsix : text = "::ffff:102:304"
      · rw [if_neg hfour, if_pos hsix] at h
        have hmapped : mappedAddress 0x01020304 = mappedAddress address := IpAddress.v6.inj (Option.some.inj h)
        have hsame : some (0x01020304 : BitVec 32) = some address := by
          rw [← unmapped_mappedAddress, ← unmapped_mappedAddress, hmapped]
        cases hsame
        decide +kernel
      · rw [if_neg hfour, if_neg hsix] at h
        cases h
  readsBack := by
    intro location base url h
    simp only [smallNetwork] at h ⊢
    by_cases hlocation : location = "https://media.test/a"
    · rw [if_pos hlocation] at h
      cases h
      decide +kernel
    · rw [if_neg hlocation] at h
      cases h

/-- A policy that lists no private origins. -/
def smallPolicy : MediaSourcePolicy smallNetwork where
  hosts := ""
  allowedOrigins := []
  configured := by decide +kernel

/-- A plain source that redirects to a secure one, which is looked up as the mapped form of its address. -/
def smallWorld : SourceWorld where
  active _ := .ok ()
  lookup hop := .ok [if hop = 0 then ⟨"1.2.3.4", 4⟩ else ⟨"::ffff:102:304", 6⟩]
  stillActive _ := .ok ()
  respond hop := .ok (if hop = 0 then { status := 302, location := some "https://media.test/a" } else { status := 200 })

/-- It is fetched over two connections. -/
theorem openSource_safe_small : smallNetwork.Specified ∧
    (openSource smallNetwork smallPolicy smallWorld "http://media.test/a").1.connections.map (·.address) =
      ["1.2.3.4", "::ffff:102:304"] ∧
    (openSource smallNetwork smallPolicy smallWorld "http://media.test/a").1.connections.Pairwise
      (fun earlier later => earlier.secure = true → later.secure = true) ∧
    (openMedia smallNetwork smallPolicy smallWorld "http://media.test/a").1.connections.length ≤ 6 := by
  obtain ⟨hlength, -, hsecure, hsame, -⟩ :=
    openSource_safe smallNetwork_specified smallPolicy smallWorld "http://media.test/a"
  exact ⟨smallNetwork_specified, by decide +kernel, hsecure, hsame ▸ hlength⟩

end Example

end ConnectHub
