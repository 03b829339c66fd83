import ConnectHub.Batch
import ConnectHub.RelayIngress

/-!
# The address a callback came from

A callback without a token is authorised by the address it came from: that of the peer, or behind trusted proxies
the one that the nearest untrusted hop had. The header that names the hops is read from right to left, as each
proxy appends the address it saw; what a client writes before it is never reached.
-/

namespace ConnectHub

open Store

/-- A header as the server receives it. -/
inductive HeaderValue
  | missing
  | text (value : String)
  | list (values : List String)
deriving DecidableEq, Repr

/-- What tells where a callback came from. -/
structure RelayRequestOrigin where
  ip : Option String := none
  remoteAddress : Option String := none
  forwardedFor : HeaderValue := .missing
deriving DecidableEq, Repr

/-- An address without the prefix of its mapped form. -/
def normalizeIp (ip : String) : String :=
  if "::ffff:".toList.isPrefixOf ip.toList then String.ofList (ip.toList.drop 7) else ip

/-- The addresses that a list names. -/
def ipChain (value : String) : List String :=
  (value.toList.splitOn ',').map fun ip => normalizeIp (trimmed (String.ofList ip))

/-- The proxies that a configuration trusts. -/
def trustedProxies (trustedProxyIps : String) : List String :=
  (ipChain trustedProxyIps).filter (· ≠ "")

/-- The peer of a callback. -/
def RelayRequestOrigin.peer (request : RelayRequestOrigin) : String :=
  normalizeIp ((request.remoteAddress.or request.ip).getD "")

/-- Go on from an address to the next one as long as it is trusted. -/
def walkBack (trusted : List String) : String → List String → String
  | source, [] => source
  | source, next :: hops => if source ∈ trusted then walkBack trusted next hops else source

section Source

variable (isIP : String → Bool)

/-- The address that a callback is authorised by, or nothing. -/
def relaySourceIp (request : RelayRequestOrigin) (trustedProxyIps : String) : String :=
  let trusted := trustedProxies trustedProxyIps
  let source := request.peer
  if !isIP source then ""
  else if source ∈ trusted then
    match request.forwardedFor with
    | .text header =>
      let chain := ipChain header
      if chain = [] ∨ chain.any (fun ip => !isIP ip) then "" else walkBack trusted source chain.reverse
    | _ => ""
  else source

/-- The providers that have an address. -/
def Database.providersAt (db : Database) (ipOf : Uuid → String) (adapterType ip : String) : List Uuid :=
  (db.providers.rows.filter fun p => p.adapterType = adapterType && db.vpsActive p && ipOf p.vpsId = ip).map (·.id)

/-- Accept a callback that came from the address of a provider. -/
def receiveLegacy (db : Database) (ipOf : Uuid → String) (trustedProxyIps adapterType : String) (body : Json)
    (request : RelayRequestOrigin) : Option RelayTask :=
  let ip := relaySourceIp isIP request trustedProxyIps
  let providers := if ip ≠ "" then db.providersAt ipOf adapterType ip else []
  if providers = [] then none else some (.accept adapterType body (.peerIp providers))

end Source

section Spec

/-- The hops that a header names, the nearest one first. -/
def RelayRequestOrigin.hops (request : RelayRequestOrigin) : List String :=
  match request.forwardedFor with
  | .text header => (ipChain header).reverse
  | _ => []

/-- The first address that is not trusted, or the last one. -/
def firstUntrusted (trusted : List String) (source : String) (hops : List String) : String :=
  ((source :: hops).find? (· ∉ trusted)).getD ((source :: hops).getLast (List.cons_ne_nil source hops))

end Spec

section Chain

/-- A blank before a text is trimmed. -/
theorem trimmed_space (text : List Char) : trimmed (String.ofList (' ' :: text)) = trimmed (String.ofList text) := by
  have hblank : isTrimmed ' ' = true := by decide
  simp only [trimmed, String.toList_ofList, List.dropWhile_cons, hblank, if_true]

/-- What is written before a header comes before it in the chain. -/
theorem ipChain_append (front header : String) :
    ipChain (front ++ ", " ++ header) = ipChain front ++ ipChain header := by
  have htext : (front ++ ", " ++ header).toList = front.toList ++ ',' :: ' ' :: header.toList := by
    simp only [String.toList_append, List.append_assoc]
    rfl
  have hspace : ((' ' :: header.toList).splitOn ',').map (fun ip => normalizeIp (trimmed (String.ofList ip))) =
      (header.toList.splitOn ',').map fun ip => normalizeIp (trimmed (String.ofList ip)) := by
    rw [List.splitOn_cons_eq_if_modifyHead, if_neg (by decide)]
    cases hparts : header.toList.splitOn ',' with
    | nil => rfl
    | cons part parts =>
      rw [List.modifyHead_cons, List.map_cons, List.map_cons, trimmed_space]
  rw [ipChain, htext, List.splitOn_append_cons_self, List.map_append, hspace]
  rfl

variable {trusted : List String}

/-- The walk ends at the first address that is not trusted, or at the last one. -/
theorem walkBack_eq (source : String) (hops : List String) :
    walkBack trusted source hops = firstUntrusted trusted source hops := by
  unfold firstUntrusted
  induction hops generalizing source with
  | nil =>
    rw [walkBack]
    by_cases hsource : source ∈ trusted
    · simp [hsource]
    · simp [hsource]
  | cons next hops ih =>
    rw [walkBack]
    by_cases hsource : source ∈ trusted
    · rw [if_pos hsource, ih]
      simp [hsource]
    · rw [if_neg hsource]
      simp [hsource]

/-- The walk does not go beyond an address that is not trusted. -/
theorem walkBack_append {source : String} {hops : List String} (h : ∃ hop ∈ hops, hop ∉ trusted)
    (others : List String) : walkBack trusted source (hops ++ others) = walkBack trusted source hops := by
  induction hops generalizing source with
  | nil =>
    obtain ⟨hop, hhop, _⟩ := h
    cases hhop
  | cons next hops ih =>
    rw [List.cons_append, walkBack, walkBack]
    by_cases hsource : source ∈ trusted
    · rw [if_pos hsource, if_pos hsource]
      by_cases hnext : next ∈ trusted
      · apply ih
        obtain ⟨hop, hhop, hout⟩ := h
        cases List.mem_cons.mp hhop with
        | inl hhere => exact absurd (hhere ▸ hnext) hout
        | inr hthere => exact ⟨hop, hthere, hout⟩
      · have hstop : ∀ rest, walkBack trusted next rest = next := by
          intro rest
          cases rest with
          | nil => rfl
          | cons other rest => exact if_neg hnext
        rw [hstop, hstop]
    · rw [if_neg hsource, if_neg hsource]

end Chain

section Authority

variable {isIP : String → Bool} {request : RelayRequestOrigin} {trustedProxyIps : String}

/-- The request with another header. -/
def RelayRequestOrigin.withHeader (request : RelayRequestOrigin) (header : HeaderValue) : RelayRequestOrigin :=
  { request with forwardedFor := header }

/-- A header counts only behind a trusted peer. -/
theorem relaySourceIp_untrusted (h : request.peer ∉ trustedProxies trustedProxyIps) :
    relaySourceIp isIP request trustedProxyIps = if !isIP request.peer then "" else request.peer := by
  unfold relaySourceIp
  simp only [if_neg h]

/-- Behind a trusted peer the address is found on the walk back, if every hop is an address. -/
theorem relaySourceIp_trusted {header : String} (hpeer : request.peer ∈ trustedProxies trustedProxyIps)
    (hheader : request.forwardedFor = .text header) :
    relaySourceIp isIP request trustedProxyIps =
      if isIP request.peer = true ∧ ipChain header ≠ [] ∧ ∀ ip ∈ ipChain header, isIP ip = true then
        walkBack (trustedProxies trustedProxyIps) request.peer (ipChain header).reverse
      else "" := by
  have hany : ((ipChain header).any fun ip => !isIP ip) = true ↔ ¬ ∀ ip ∈ ipChain header, isIP ip = true := by
    simp
  unfold relaySourceIp
  simp only [if_pos hpeer, hheader, hany]
  cases hip : isIP request.peer with
  | false => simp
  | true =>
    rw [Bool.not_true, if_neg Bool.false_ne_true]
    by_cases hnil : ipChain header = []
    · simp [hnil]
    · by_cases hall : ∀ ip ∈ ipChain header, isIP ip = true
      · have hgood : ¬ (ipChain header = [] ∨ ¬ ∀ ip ∈ ipChain header, isIP ip = true) := by
          rw [not_or, not_not]
          exact ⟨hnil, hall⟩
        rw [if_neg hgood, if_pos ⟨rfl, hnil, hall⟩]
      · have hbad : ipChain header = [] ∨ ¬ ∀ ip ∈ ipChain header, isIP ip = true := .inr hall
        rw [if_pos hbad, if_neg (fun h => hall h.2.2)]

/-- A callback is authorised by the first untrusted address on the way back from its peer. -/
theorem relaySourceIp_eq (isIP : String → Bool) (request : RelayRequestOrigin) (trustedProxyIps : String) :
    relaySourceIp isIP request trustedProxyIps = "" ∨
      relaySourceIp isIP request trustedProxyIps =
        firstUntrusted (trustedProxies trustedProxyIps) request.peer request.hops := by
  by_cases hpeer : request.peer ∈ trustedProxies trustedProxyIps
  · cases hheader : request.forwardedFor with
    | missing =>
      left
      unfold relaySourceIp
      simp only [if_pos hpeer, hheader]
      split
      · rfl
      · rfl
    | list values =>
      left
      unfold relaySourceIp
      simp only [if_pos hpeer, hheader]
      split
      · rfl
      · rfl
    | text header =>
      have hhops : request.hops = (ipChain header).reverse := by
        rw [RelayRequestOrigin.hops, hheader]
      rw [relaySourceIp_trusted hpeer hheader]
      split
      · right
        rw [walkBack_eq, hhops]
      · exact .inl rfl
  · rw [relaySourceIp_untrusted hpeer]
    split
    · exact .inl rfl
    · right
      simp [firstUntrusted, hpeer]

/-- Text before a header that names an untrusted hop changes nothing but whether the callback is refused. -/
theorem relaySourceIp_forged (front : String) {header : String}
    (h : ∃ ip ∈ ipChain header, ip ∉ trustedProxies trustedProxyIps) :
    relaySourceIp isIP (request.withHeader (.text (front ++ ", " ++ header))) trustedProxyIps = "" ∨
      relaySourceIp isIP (request.withHeader (.text (front ++ ", " ++ header))) trustedProxyIps =
        relaySourceIp isIP (request.withHeader (.text header)) trustedProxyIps := by
  by_cases hpeer : request.peer ∈ trustedProxies trustedProxyIps
  · have hforged := @relaySourceIp_trusted isIP (request.withHeader (.text (front ++ ", " ++ header)))
      trustedProxyIps _ hpeer rfl
    have hhonest := @relaySourceIp_trusted isIP (request.withHeader (.text header)) trustedProxyIps _ hpeer rfl
    rw [hforged, hhonest]
    split
    · rename_i hvalid
      right
      rw [ipChain_append] at hvalid
      have hnil : ipChain header ≠ [] := by
        obtain ⟨ip, hip, _⟩ := h
        exact List.ne_nil_of_mem hip
      have hall : ∀ ip ∈ ipChain header, isIP ip = true :=
        fun ip hip => hvalid.2.2 ip (List.mem_append_right _ hip)
      have hhops : ∃ hop ∈ (ipChain header).reverse, hop ∉ trustedProxies trustedProxyIps := by
        obtain ⟨ip, hip, hout⟩ := h
        exact ⟨ip, List.mem_reverse.mpr hip, hout⟩
      rw [if_pos ⟨hvalid.1, hnil, hall⟩, ipChain_append, List.reverse_append, walkBack_append hhops]
      rfl
    · exact .inl rfl
  · right
    have hforged := @relaySourceIp_untrusted isIP (request.withHeader (.text (front ++ ", " ++ header)))
      trustedProxyIps hpeer
    have hhonest := @relaySourceIp_untrusted isIP (request.withHeader (.text header)) trustedProxyIps hpeer
    rw [hforged, hhonest]
    rfl

/-- The address that a callback is authorised by is the first one outside the trusted proxies on the way back from
its peer, a header counts only behind a trusted peer, and a client that writes before an honest header is refused
or taken for whom that header names, by the address and by the providers it is accepted for. -/
theorem relaySourceIp_authority (isIP : String → Bool) (request : RelayRequestOrigin) (trustedProxyIps : String) :
    (relaySourceIp isIP request trustedProxyIps = "" ∨
      relaySourceIp isIP request trustedProxyIps =
        firstUntrusted (trustedProxies trustedProxyIps) request.peer request.hops) ∧
    (request.peer ∉ trustedProxies trustedProxyIps → ∀ header,
      relaySourceIp isIP (request.withHeader header) trustedProxyIps =
        relaySourceIp isIP request trustedProxyIps) ∧
    ∀ front header, (∃ ip ∈ ipChain header, ip ∉ trustedProxies trustedProxyIps) →
      (relaySourceIp isIP (request.withHeader (.text (front ++ ", " ++ header))) trustedProxyIps = "" ∨
        relaySourceIp isIP (request.withHeader (.text (front ++ ", " ++ header))) trustedProxyIps =
          relaySourceIp isIP (request.withHeader (.text header)) trustedProxyIps) ∧
      ∀ db ipOf adapterType body,
        receiveLegacy isIP db ipOf trustedProxyIps adapterType body
            (request.withHeader (.text (front ++ ", " ++ header))) = none ∨
          receiveLegacy isIP db ipOf trustedProxyIps adapterType body
              (request.withHeader (.text (front ++ ", " ++ header))) =
            receiveLegacy isIP db ipOf trustedProxyIps adapterType body (request.withHeader (.text header)) := by
  refine ⟨relaySourceIp_eq isIP request trustedProxyIps, ?_, ?_⟩
  · intro hpeer header
    have hother := @relaySourceIp_untrusted isIP (request.withHeader header) trustedProxyIps hpeer
    rw [hother, relaySourceIp_untrusted hpeer]
    rfl
  · intro front header h
    have hforged := @relaySourceIp_forged isIP request trustedProxyIps front header h
    refine ⟨hforged, ?_⟩
    intro db ipOf adapterType body
    cases hforged with
    | inl hnone =>
      left
      rw [receiveLegacy, hnone]
      rfl
    | inr hsame =>
      right
      rw [receiveLegacy, hsame, receiveLegacy]

/-- A client behind one proxy writes an address before the one that the proxy appends. -/
theorem relaySourceIp_authority_small :
    let isIP := fun ip => ["10.0.0.1", "1.2.3.4", "9.9.9.9"].contains ip
    let request : RelayRequestOrigin := { remoteAddress := some "::ffff:10.0.0.1" }
    relaySourceIp isIP (request.withHeader (.text ("9.9.9.9" ++ ", " ++ "1.2.3.4"))) "10.0.0.1" = "1.2.3.4" ∧
      (relaySourceIp isIP (request.withHeader (.text ("9.9.9.9" ++ ", " ++ "1.2.3.4"))) "10.0.0.1" = "" ∨
        relaySourceIp isIP (request.withHeader (.text ("9.9.9.9" ++ ", " ++ "1.2.3.4"))) "10.0.0.1" =
          relaySourceIp isIP (request.withHeader (.text "1.2.3.4")) "10.0.0.1") := by
  intro isIP request
  have hout : ∃ ip ∈ ipChain "1.2.3.4", ip ∉ trustedProxies "10.0.0.1" :=
    ⟨"1.2.3.4", by decide +kernel, by decide +kernel⟩
  exact ⟨by decide +kernel,
    ((relaySourceIp_authority isIP request "10.0.0.1").2.2 "9.9.9.9" "1.2.3.4" hout).1⟩

end Authority

end ConnectHub
