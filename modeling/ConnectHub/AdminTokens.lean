import ConnectHub.PreparedMedia
import ConnectHub.Store.Double
import ConnectHub.Store.Utf8

/-!
# Admin tokens

A token is three texts between points: a header, claims with the second it was issued in and the last one it is good
for, and a signature of the two. A token that was issued verifies to its claims until it expires, whatever else it
claims, and only with the very signature it was given does a header with claims verify at all.
-/

namespace ConnectHub

open Store

section Texts

/-- The letter of six bits in the alphabet for URLs. -/
def urlChar (sextet : ℕ) : Char :=
  if sextet < 62 then Char.ofNat (sextetUnit sextet) else if sextet = 62 then '-' else '_'

/-- The six bits of a letter of either alphabet. -/
def urlSextet (c : Char) : Option ℕ :=
  if c = '-' then some 62 else if c = '_' then some 63 else unitSextet c.toNat

/-- Bytes as text for URLs, without padding. -/
def base64url (bytes : List UInt8) : List Char := (toSextets bytes).map urlChar

/-- The bytes of such a text: padding ends it, and what is no letter is passed over. -/
def base64urlBytes (text : List Char) : List UInt8 := ofSextets ((text.takeWhile (· ≠ '=')).filterMap urlSextet)

/-- A letter is read as its six bits, and is neither padding nor a point. -/
theorem urlSextet_urlChar {sextet : ℕ} (h : sextet < 64) :
    urlSextet (urlChar sextet) = some sextet ∧ urlChar sextet ≠ '=' ∧ urlChar sextet ≠ '.' := by
  have hall : ∀ sextet < 64,
      urlSextet (urlChar sextet) = some sextet ∧ urlChar sextet ≠ '=' ∧ urlChar sextet ≠ '.' := by decide
  exact hall sextet h

/-- A letter of a text stands for six bits. -/
theorem mem_base64url {bytes : List UInt8} {c : Char} (h : c ∈ base64url bytes) : c ≠ '=' ∧ c ≠ '.' := by
  obtain ⟨sextet, hsextet, rfl⟩ := List.mem_map.mp h
  exact (urlSextet_urlChar (sextets_toSextets bytes sextet hsextet)).2

/-- Bytes come back from their text. -/
theorem base64urlBytes_base64url (bytes : List UInt8) : base64urlBytes (base64url bytes) = bytes := by
  have hletters : (base64url bytes).takeWhile (· ≠ '=') = base64url bytes :=
    List.takeWhile_eq_self_iff.mpr fun c hc => decide_eq_true (mem_base64url hc).1
  have hsextets : (base64url bytes).filterMap urlSextet = toSextets bytes := by
    rw [base64url, List.filterMap_map]
    have hsame : ∀ sextet ∈ toSextets bytes, (urlSextet ∘ urlChar) sextet = some sextet := fun sextet hmem =>
      (urlSextet_urlChar (sextets_toSextets bytes sextet hmem)).1
    rw [List.filterMap_congr hsame, List.filterMap_some]
  rw [base64urlBytes, hletters, hsextets, ofSextets_toSextets]

end Texts

section Members

variable {name : String} {value : Json} {members : List (String × Json)}

/-- The names of an object of which a member is given a value. -/
theorem setMember_names (name : String) (value : Json) (members : List (String × Json)) :
    (setMember name value members).map (·.1) =
      if name ∈ members.map (·.1) then members.map (·.1) else members.map (·.1) ++ [name] := by
  induction members with
  | nil => rfl
  | cons member members ih =>
    by_cases hsame : name = member.1
    · rw [setMember, if_pos hsame, List.map_cons, List.map_cons, if_pos (hsame ▸ List.mem_cons_self)]
    · rw [setMember, if_neg hsame, List.map_cons, List.map_cons, ih]
      by_cases hmem : name ∈ members.map (·.1)
      · rw [if_pos hmem, if_pos (List.mem_cons_of_mem _ hmem)]
      · rw [if_neg hmem, if_neg fun hfound => (List.mem_cons.mp hfound).elim hsame hmem, List.cons_append]

/-- What is found under the name that is given a value. -/
theorem lookup_setMember (name : String) (value : Json) (members : List (String × Json)) :
    (setMember name value members).lookup name = some value := by
  induction members with
  | nil => rw [setMember, List.lookup_cons, beq_self_eq_true]
  | cons member members ih =>
    by_cases hsame : name = member.1
    · rw [setMember, if_pos hsame, List.lookup_cons, beq_iff_eq.mpr hsame]
    · rw [setMember, if_neg hsame, List.lookup_cons, beq_eq_false_iff_ne.mpr hsame]
      exact ih

/-- A member that is given a well formed value leaves its object well formed. -/
theorem wellFormed_setMember (h : (Json.obj members).WellFormed) (hvalue : value.WellFormed) (name : String) :
    (Json.obj (setMember name value members)).WellFormed := by
  obtain ⟨honce, hmembers⟩ := h
  refine ⟨?_, ?_⟩
  · rw [setMember_names]
    split
    · exact honce
    · rename_i hnew
      exact List.nodup_append.mpr ⟨honce, List.nodup_singleton _, fun a ha b hb hab =>
        hnew (List.mem_singleton.mp hb ▸ hab ▸ ha)⟩
  · clear honce
    induction members with
    | nil => exact ⟨hvalue, trivial⟩
    | cons member members ih =>
      obtain ⟨hfirst, hrest⟩ := hmembers
      by_cases hsame : name = member.1
      · rw [setMember, if_pos hsame]
        exact ⟨hvalue, hrest⟩
      · rw [setMember, if_neg hsame]
        exact ⟨hfirst, ih hrest⟩

end Members

section Tokens

/-- The header of every token. -/
def jwtHeader : Json := .obj [("alg", .str "HS256"), ("typ", .str "JWT")]

/-- The second of an instant in milliseconds. -/
def unixSeconds (now : ℕ) : ℕ := now / 1000

/-- The claims of a token that is issued at an instant. -/
def issuedClaims (payload : List (String × Json)) (expiresInSeconds now : ℕ) : List (String × Json) :=
  setMember "exp" (.number (Nat.repr (unixSeconds now + expiresInSeconds)))
    (setMember "iat" (.number (Nat.repr (unixSeconds now))) payload)

variable (hmac : List UInt8 → List UInt8 → List UInt8)

/-- The signature of a header and claims. -/
def jwtSignature (secret : String) (encodedHeader encodedPayload : List Char) : List Char :=
  base64url (hmac (utf8 secret.toList) (utf8 (encodedHeader ++ '.' :: encodedPayload)))

/-- Issue a token. -/
def signJwt (payload : List (String × Json)) (secret : String) (expiresInSeconds now : ℕ) : List Char :=
  let encodedHeader := base64url (utf8 jwtHeader.stringify)
  let encodedPayload := base64url (utf8 (Json.obj (issuedClaims payload expiresInSeconds now)).stringify)
  encodedHeader ++ '.' :: (encodedPayload ++ '.' :: jwtSignature hmac secret encodedHeader encodedPayload)

/-- Whether claims are over: only a number limits them. -/
def jwtExpired (payload : Json) (now : ℕ) : Bool :=
  match payload.member? "exp" with
  | some (.number numeral) => toDouble (numeralValue numeral.toList) < unixSeconds now
  | _ => false

/-- Read a token: the signature must be the one of its header and claims, and the claims must not be over. -/
def verifyJwt (token : List Char) (secret : String) (now : ℕ) : Except String Json :=
  match token.splitOn '.' with
  | [encodedHeader, encodedPayload, signature] =>
    if signature ≠ jwtSignature hmac secret encodedHeader encodedPayload then .error "Assinatura JWT inválida"
    else
      match (Json.parse (utf8Decode none (base64urlBytes encodedPayload))).filter (Json.nonNull ∘ some) with
      | none => .error "Unexpected token in JSON"
      | some payload => if jwtExpired payload now = true then .error "Token JWT expirado" else .ok payload
  | _ => .error "Token JWT malformado"

variable {hmac}

/-- The claims of a payload that is written well formed. -/
theorem issuedClaims_wellFormed {payload : List (String × Json)} (h : (Json.obj payload).WellFormed)
    (expiresInSeconds now : ℕ) : (Json.obj (issuedClaims payload expiresInSeconds now)).WellFormed := by
  have hnumber : ∀ n : ℕ, (Json.number (Nat.repr n)).WellFormed := fun n => isNumeral_repr n
  exact wellFormed_setMember (wellFormed_setMember h (hnumber _) _) (hnumber _) _

/-- An issued token falls into its three pieces. -/
theorem splitOn_signJwt (payload : List (String × Json)) (secret : String) (expiresInSeconds now : ℕ) :
    (signJwt hmac payload secret expiresInSeconds now).splitOn '.' =
      [base64url (utf8 jwtHeader.stringify),
        base64url (utf8 (Json.obj (issuedClaims payload expiresInSeconds now)).stringify),
        jwtSignature hmac secret (base64url (utf8 jwtHeader.stringify))
          (base64url (utf8 (Json.obj (issuedClaims payload expiresInSeconds now)).stringify))] := by
  have hnone : ∀ bytes : List UInt8, '.' ∉ base64url bytes := fun bytes hmem => (mem_base64url hmem).2 rfl
  rw [signJwt, List.splitOn_append_cons_self_of_not_mem (hnone _), List.splitOn_append_cons_self_of_not_mem (hnone _),
    jwtSignature, List.splitOn_eq_singleton (hnone _)]

/-- Claims that were issued are over from the second after the last one. -/
theorem jwtExpired_issuedClaims (payload : List (String × Json)) {expiresInSeconds issuedAt : ℕ}
    (hsafe : unixSeconds issuedAt + expiresInSeconds ≤ maxSafeInteger) (now : ℕ) :
    jwtExpired (.obj (issuedClaims payload expiresInSeconds issuedAt)) now =
      decide (unixSeconds issuedAt + expiresInSeconds < unixSeconds now) := by
  have hexp : (Json.obj (issuedClaims payload expiresInSeconds issuedAt)).member? "exp" =
      some (.number (Nat.repr (unixSeconds issuedAt + expiresInSeconds))) := lookup_setMember _ _ _
  rw [jwtExpired, hexp]
  simp only [numeralValue_repr, toDouble_natCast hsafe, Nat.cast_lt]

/-- A token that was issued verifies to its claims, until it expires. -/
theorem verifyJwt_signJwt {payload : List (String × Json)} (h : (Json.obj payload).WellFormed) (secret : String)
    {expiresInSeconds issuedAt : ℕ} (hsafe : unixSeconds issuedAt + expiresInSeconds ≤ maxSafeInteger) (now : ℕ) :
    verifyJwt hmac (signJwt hmac payload secret expiresInSeconds issuedAt) secret now =
      if unixSeconds issuedAt + expiresInSeconds < unixSeconds now then .error "Token JWT expirado"
      else .ok (.obj (issuedClaims payload expiresInSeconds issuedAt)) := by
  have hread : Json.parse (utf8Decode none (base64urlBytes (base64url (utf8
      (Json.obj (issuedClaims payload expiresInSeconds issuedAt)).stringify)))) =
      some (.obj (issuedClaims payload expiresInSeconds issuedAt)) := by
    rw [base64urlBytes_base64url, utf8, utf8Decode_encode, parse_stringify (issuedClaims_wellFormed h _ _)]
  have hobject : (some (Json.obj (issuedClaims payload expiresInSeconds issuedAt))).filter (Json.nonNull ∘ some) =
      some (.obj (issuedClaims payload expiresInSeconds issuedAt)) := rfl
  simp only [verifyJwt, splitOn_signJwt, ne_eq, not_true_eq_false, if_false, hread, hobject,
    jwtExpired_issuedClaims payload hsafe, decide_eq_true_eq]

/-- A token that verifies is the one that its header and claims were given by the secret. -/
theorem verifyJwt_ok {token : List Char} {secret : String} {now : ℕ} {claims : Json}
    (h : verifyJwt hmac token secret now = .ok claims) :
    ∃ encodedHeader encodedPayload, token = encodedHeader ++ '.' :: (encodedPayload ++ '.' ::
      jwtSignature hmac secret encodedHeader encodedPayload) ∧
      Json.parse (utf8Decode none (base64urlBytes encodedPayload)) = some claims ∧ jwtExpired claims now = false := by
  unfold verifyJwt at h
  split at h
  · rename_i encodedHeader encodedPayload signature hsplit
    split at h
    · cases h
    · rename_i hsignature
      rw [ne_eq, not_not] at hsignature
      split at h
      · cases h
      · rename_i payload hread
        split at h
        · cases h
        · rename_i hvalid
          cases h
          refine ⟨encodedHeader, encodedPayload, ?_, (Option.filter_eq_some_iff.mp hread).1,
            Bool.eq_false_iff.mpr hvalid⟩
          have hjoin : ['.'].intercalate (token.splitOn '.') = token := List.intercalate_splitOn '.'
          rw [hsplit, hsignature] at hjoin
          rw [← hjoin]
          simp [List.intercalate]
  · cases h

end Tokens

end ConnectHub
