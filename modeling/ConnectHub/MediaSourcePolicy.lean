import ConnectHub.Batch
import ConnectHub.JsonText
import ConnectHub.Store.IpAddress

/-!
# Where media may come from

A source of media is an HTTP or HTTPS URL without credentials. It is fetched from the first address of its name,
and only if every address of the name is one that media may come from: none that is reserved, and a private one
only for origins that the configuration lists. An address of version 4 is judged alike in its own form and in
the mapped one.
-/

namespace ConnectHub

open Store

/-- Why a source is refused. -/
inductive SourceFailure
  | badRequest (message : String)
  | badGateway (message : String)
  | thrown (code : Option String)
deriving DecidableEq, Repr

/-- What the platform reads URLs and addresses as. -/
structure Network (Url : Type) where
  /-- The version of the address that a text is, or zero. -/
  isIP : String → ℕ
  /-- The host of the URL of an address of version 6, without its brackets. -/
  hostOf : String → Option String
  /-- The address that a text stands for. -/
  address : String → Option IpAddress
  /-- The URL that a text is. -/
  url : String → Option Url
  /-- The URL that a text is relative to another. -/
  relative : String → Url → Option Url

/-- A URL, as the platform takes it apart. -/
structure MediaUrl where
  href : String
  protocol : String
  username : String := ""
  password : String := ""
  hostname : String
  host : String
  origin : String
  pathname : String := "/"
  search : String := ""
  hash : String := ""
deriving DecidableEq, Repr

/-- The platform reads addresses and URLs as specified. -/
structure Network.Specified (network : Network MediaUrl) : Prop where
  /-- A text is an address of version 4 when it stands for one. -/
  four : ∀ text, network.isIP text = 4 ↔ ∃ address, network.address text = some (.v4 address)
  /-- A text that stands for an address of version 6 is one, and its URL has the canonical text of the address. -/
  six : ∀ text address, network.address text = some (.v6 address) →
    network.isIP text = 6 ∧ network.hostOf text = some (serializeV6 address)
  /-- An address that is read in its mapped form is read in its decimal one. -/
  decimal : ∀ text address, network.address text = some (.v6 (mappedAddress address)) →
    network.address (serializeV4 address) = some (.v4 address)
  /-- A URL reads back from its text. -/
  readsBack : ∀ location base url, network.relative location base = some url → network.url url.href = some url

section Addresses

/-- A subnet of version 4. -/
def subnet4 (a b c d bits : ℕ) : Subnet 32 := ⟨BitVec.ofNat 32 (((a * 256 + b) * 256 + c) * 256 + d), bits⟩

/-- A subnet of version 6, by its first three pieces and its last one. -/
def subnet6 (a b c last bits : ℕ) : Subnet 128 :=
  ⟨BitVec.ofNat 128 (a * 2 ^ 112 + b * 2 ^ 96 + c * 2 ^ 80 + last), bits⟩

/-- The addresses that media never comes from. -/
def deniedAddresses : BlockList where
  v4 := [
    subnet4 0 0 0 0 8,
    subnet4 100 64 0 0 10,
    subnet4 127 0 0 0 8,
    subnet4 169 254 0 0 16,
    subnet4 192 0 0 0 24,
    subnet4 192 0 2 0 24,
    subnet4 192 88 99 0 24,
    subnet4 198 18 0 0 15,
    subnet4 198 51 100 0 24,
    subnet4 203 0 113 0 24,
    subnet4 224 0 0 0 4,
    subnet4 240 0 0 0 4,
    subnet4 168 63 129 16 32]
  v6 := [
    subnet6 0 0 0 0 128,
    subnet6 0 0 0 1 128,
    subnet6 0xfe80 0 0 0 10,
    subnet6 0xff00 0 0 0 8,
    subnet6 0x2001 0 0 0 23,
    subnet6 0x2001 0xdb8 0 0 32,
    subnet6 0x2002 0 0 0 16,
    subnet6 0x3fff 0 0 0 20,
    subnet6 0xfd00 0xec2 0 0x254 128]

/-- The private addresses. -/
def privateAddresses : BlockList where
  v4 := [subnet4 10 0 0 0 8, subnet4 172 16 0 0 12, subnet4 192 168 0 0 16]
  v6 := [subnet6 0xfc00 0 0 0 7]

/-- The public addresses of version 6. -/
def globalV6 : BlockList where
  v6 := [subnet6 0x2000 0 0 0 3]

/-- Whether a character is a hexadecimal digit. -/
def isHexDigit (c : Char) : Bool := (hexValue c).isSome

/-- The number that hexadecimal digits stand for. -/
def parseHex (digits : List Char) : ℕ :=
  digits.foldl (fun value digit => value * 16 + (hexValue digit).getD 0) 0

/-- The two last pieces of the text of a mapped address. -/
def mappedParts (text : List Char) : Option (List Char × List Char) :=
  if (text.take 7).map Char.toLower = [':', ':', 'f', 'f', 'f', 'f', ':'] then
    match (text.drop 7).dropWhile isHexDigit with
    | ':' :: low =>
      let high := (text.drop 7).takeWhile isHexDigit
      if high ≠ [] ∧ low ≠ [] ∧ low.all isHexDigit then some (high, low) else none
    | _ => none
  else none

variable {Url : Type} (network : Network Url)

/-- An address in the form it is judged in: a mapped one as the address it stands for. -/
def normalizedAddress (address : String) : Except SourceFailure String :=
  if network.isIP address ≠ 6 then .ok address
  else
    match network.hostOf address with
    | none => .error (.thrown (some "ERR_INVALID_URL"))
    | some normalized =>
      match mappedParts normalized.toList with
      | none => .ok normalized
      | some (high, low) =>
        .ok (String.ofList (dotted [parseHex high / 256, parseHex high % 256, parseHex low / 256, parseHex low % 256]))

/-- Whether a list has an address; a text that is none is an error. -/
def checkAddress (list : BlockList) (text : String) : Except SourceFailure Bool :=
  match network.address text with
  | some address => .ok (list.check address)
  | none => .error (.thrown (some "ERR_INVALID_ADDRESS"))

/-- Whether media may come from an address. -/
def isAllowedMediaAddress (address : String) (allowPrivate : Bool) : Except SourceFailure Bool := do
  let normalized ← normalizedAddress network address
  if network.isIP normalized = 0 then pure false
  else
    let denied ← checkAddress network deniedAddresses normalized
    if denied then pure false
    else
      let onPrivate ← checkAddress network privateAddresses normalized
      if onPrivate then pure allowPrivate
      else if network.isIP normalized = 4 then pure true
      else checkAddress network globalV6 normalized

end Addresses

section Origins

variable (network : Network MediaUrl)

/-- The origins that a configuration lists. -/
def mediaAllowedOrigins (value : String) : Except SourceFailure (List String) :=
  if trimmed value = "" then .ok []
  else
    (value.splitOn ",").mapM fun entry =>
      match network.url (trimmed entry) with
      | none => .error (.thrown (some "ERR_INVALID_URL"))
      | some url =>
        if !(["http:", "https:"].contains url.protocol) || url.username ≠ "" || url.password ≠ "" ||
            url.pathname ≠ "/" || url.search ≠ "" || url.hash ≠ "" then
          .error (.thrown none)
        else .ok url.origin

/-- The configured policy. -/
structure MediaSourcePolicy where
  hosts : String
  allowedOrigins : List String
  /-- The origins are those of the configuration. -/
  configured : mediaAllowedOrigins network hosts = .ok allowedOrigins

end Origins

/-- An address that a name stands for. -/
structure DnsRecord where
  address : String
  family : ℕ
deriving DecidableEq, Repr

/-- Where a source is fetched from. -/
structure MediaTarget where
  url : MediaUrl
  address : String
  family : ℕ
deriving DecidableEq, Repr

section Resolving

variable (network : Network MediaUrl)

/-- A host name without the brackets around an address. -/
def unbracketed (hostname : String) : String :=
  let opened := if hostname.toList.head? = some '[' then hostname.toList.drop 1 else hostname.toList
  String.ofList (if opened.getLast? = some ']' then opened.dropLast else opened)

/-- The addresses of a URL: its own, or those that its name is looked up as. -/
def addressesOf (lookup : Except SourceFailure (List DnsRecord)) (url : MediaUrl) :
    Except SourceFailure (List DnsRecord) :=
  let hostname := unbracketed url.hostname
  if network.isIP hostname ≠ 0 then .ok [⟨hostname, network.isIP hostname⟩] else lookup

/-- Whether some address is one that media may not come from. -/
def anyRefused (allowPrivate : Bool) : List DnsRecord → Except SourceFailure Bool
  | [] => .ok false
  | record :: records => do
    let allowed ← isAllowedMediaAddress network record.address allowPrivate
    if !allowed then pure true else anyRefused allowPrivate records

/-- Take the first address of a URL that may be fetched. -/
def MediaSourcePolicy.resolve (policy : MediaSourcePolicy network) (active : Except SourceFailure Unit)
    (lookup : Except SourceFailure (List DnsRecord)) (stillActive : Except SourceFailure Unit) (value : String) :
    Except SourceFailure MediaTarget := do
  active
  match network.url value with
  | none => .error (.badRequest "Invalid media URL")
  | some url =>
    if !(["http:", "https:"].contains url.protocol) || url.username ≠ "" || url.password ≠ "" then
      .error (.badRequest "Media source must be HTTP(S) without credentials")
    else
      let records ← addressesOf network lookup url
      stillActive
      let refused ← anyRefused network (policy.allowedOrigins.contains url.origin) records
      match records, refused with
      | record :: _, false => pure { url := url, address := record.address, family := record.family }
      | _, _ => .error (.badRequest "Media source address is not allowed")

end Resolving

section Mapped

/-- The digits of a number stand for it. -/
theorem parseHex_toDigits (n : ℕ) : parseHex (Nat.toDigits 16 n) = n := by
  induction n using Nat.strongRecOn with
  | ind n ih =>
    by_cases hsmall : n < 16
    · rw [Nat.toDigits_of_lt_base hsmall, parseHex, List.foldl_cons, hexValue_digitChar hsmall]
      simp only [List.foldl_nil, Option.getD_some]
      omega
    · have hrest := ih (n / 16) (by omega)
      have hlast : n % 16 < 16 := Nat.mod_lt _ (by omega)
      rw [parseHex] at hrest ⊢
      rw [Nat.toDigits_of_base_le (by omega) (by omega), List.foldl_append, hrest, List.foldl_cons, List.foldl_nil,
        hexValue_digitChar hlast, Option.getD_some]
      omega

/-- The digits of a number are hexadecimal ones. -/
theorem isHexDigit_toDigits (n : ℕ) : ∀ c ∈ Nat.toDigits 16 n, isHexDigit c = true := by
  induction n using Nat.strongRecOn with
  | ind n ih =>
    intro c hc
    by_cases hsmall : n < 16
    · rw [Nat.toDigits_of_lt_base hsmall, List.mem_singleton] at hc
      rw [hc, isHexDigit, hexValue_digitChar hsmall]
      rfl
    · rw [Nat.toDigits_of_base_le (by omega) (by omega), List.mem_append, List.mem_singleton] at hc
      cases hc with
      | inl hfront => exact ih (n / 16) (by omega) c hfront
      | inr hlast =>
        rw [hlast, isHexDigit, hexValue_digitChar (Nat.mod_lt _ (by omega))]
        rfl

/-- A number has a digit. -/
theorem toDigits_ne_nil (n : ℕ) : Nat.toDigits 16 n ≠ [] := by
  by_cases hsmall : n < 16
  · rw [Nat.toDigits_of_lt_base hsmall]
    exact List.cons_ne_nil _ _
  · rw [Nat.toDigits_of_base_le (by omega) (by omega)]
    exact List.append_ne_nil_of_right_ne_nil _ (List.cons_ne_nil _ _)

/-- The last pieces of the text of a mapped address are the halves of the address it stands for. -/
theorem mappedParts_serializeV6 (address : BitVec 32) :
    mappedParts (serializeV6 (mappedAddress address)).toList =
      some (Nat.toDigits 16 (address.toNat / 2 ^ 16), Nat.toDigits 16 (address.toNat % 2 ^ 16)) := by
  let high := Nat.toDigits 16 (address.toNat / 2 ^ 16)
  let low := Nat.toDigits 16 (address.toNat % 2 ^ 16)
  have hcolon : isHexDigit ':' = false := by decide
  have htake : (high ++ ':' :: low).takeWhile isHexDigit = high := by
    rw [List.takeWhile_append_of_pos (isHexDigit_toDigits _), List.takeWhile_cons, hcolon]
    exact List.append_nil high
  have hdrop : (high ++ ':' :: low).dropWhile isHexDigit = ':' :: low := by
    rw [List.dropWhile_append_of_pos (isHexDigit_toDigits _), List.dropWhile_cons, hcolon]
    rfl
  have hlow : low.all isHexDigit = true := List.all_eq_true.mpr (isHexDigit_toDigits _)
  have hprefix : (([':', ':', 'f', 'f', 'f', 'f', ':'] ++ (high ++ ':' :: low)).take 7).map Char.toLower =
      [':', ':', 'f', 'f', 'f', 'f', ':'] := by
    rfl
  have hrest : ([':', ':', 'f', 'f', 'f', 'f', ':'] ++ (high ++ ':' :: low)).drop 7 = high ++ ':' :: low := rfl
  rw [serializeV6_mappedAddress, String.toList_ofList, mappedParts, if_pos hprefix, hrest, hdrop]
  simp only [htake]
  exact if_pos ⟨toDigits_ne_nil _, toDigits_ne_nil _, hlow⟩

variable {network : Network MediaUrl}

/-- A mapped address is judged as the address it stands for. -/
theorem normalizedAddress_mapped (h : network.Specified) {text : String} {address : BitVec 32}
    (haddress : network.address text = some (.v6 (mappedAddress address))) :
    normalizedAddress network text = .ok (serializeV4 address) := by
  have hsix := h.six text _ haddress
  have hlt := address.isLt
  have hoctets : [address.toNat / 2 ^ 16 / 256, address.toNat / 2 ^ 16 % 256, address.toNat % 2 ^ 16 / 256,
      address.toNat % 2 ^ 16 % 256] = octets address := by
    have hfirst : address.toNat / 2 ^ 16 / 256 = address.toNat / 2 ^ 24 := by omega
    have hthird : address.toNat % 2 ^ 16 / 256 = address.toNat / 2 ^ 8 % 2 ^ 8 := by omega
    have hlast : address.toNat % 2 ^ 16 % 256 = address.toNat % 2 ^ 8 := by omega
    rw [hfirst, hthird, hlast]
    rfl
  rw [normalizedAddress, if_neg (not_not_intro hsix.1), hsix.2]
  simp only [mappedParts_serializeV6, parseHex_toDigits, hoctets]
  rfl

/-- Media may come from an address of version 4 exactly when it may come from its mapped form. -/
theorem isAllowedMediaAddress_mapped (h : network.Specified) {text mapped : String} {address : BitVec 32}
    (htext : network.address text = some (.v4 address))
    (hmapped : network.address mapped = some (.v6 (mappedAddress address))) (allowPrivate : Bool) :
    isAllowedMediaAddress network mapped allowPrivate = isAllowedMediaAddress network text allowPrivate := by
  have hfour : network.isIP text = 4 := (h.four text).mpr ⟨address, htext⟩
  have hdecimal : network.isIP (serializeV4 address) = 4 := (h.four _).mpr ⟨address, h.decimal mapped address hmapped⟩
  have hplain : normalizedAddress network text = .ok text := by
    rw [normalizedAddress, hfour]
    rfl
  have hchecks : ∀ list : BlockList, checkAddress network list (serializeV4 address) =
      checkAddress network list text := by
    intro list
    rw [checkAddress, checkAddress, h.decimal mapped address hmapped, htext]
  rw [isAllowedMediaAddress, isAllowedMediaAddress, normalizedAddress_mapped h hmapped, hplain]
  change (if network.isIP (serializeV4 address) = 0 then _ else _) = (if network.isIP text = 0 then _ else _)
  simp only [hdecimal, hfour, hchecks]

end Mapped

end ConnectHub
