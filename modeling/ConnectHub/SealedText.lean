import ConnectHub.PreparedMedia
import ConnectHub.Provisioning
import ConnectHub.Store.Double
import ConnectHub.Store.Utf8

/-!
# Sealed text

What is kept under the key of the Hub is text: the initialisation vector, the tag and the encrypted bytes, as
hexadecimal digits between colons. The rest of this development speaks of what such a text opens to. Here the two are
connected: what was sealed opens to itself, what opens at all was sealed, and the request of a creation comes back from
its text as it was.
-/

namespace ConnectHub

open Store

section Hexadecimal

/-- The two digits of a byte. -/
def hexPair (byte : UInt8) : List Char := [(byte.toNat / 16).digitChar, (byte.toNat % 16).digitChar]

/-- Bytes as hexadecimal digits. -/
def hexText (bytes : List UInt8) : List Char := bytes.flatMap hexPair

/-- The bytes of hexadecimal digits, up to the first two characters that are none. -/
def hexBytes : List Char → List UInt8
  | a :: b :: text =>
    match hexValue a, hexValue b with
    | some high, some low => UInt8.ofNat (high * 16 + low) :: hexBytes text
    | _, _ => []
  | _ => []

/-- Whether a character is a hexadecimal digit. -/
def isHex (c : Char) : Bool := (hexValue c).isSome

/-- Two digits are read as their byte. -/
theorem hexBytes_cons {a b : Char} {high low : ℕ} (ha : hexValue a = some high) (hb : hexValue b = some low)
    (text : List Char) : hexBytes (a :: b :: text) = UInt8.ofNat (high * 16 + low) :: hexBytes text := by
  simp only [hexBytes, ha, hb]

/-- Bytes come back from their digits. -/
theorem hexBytes_hexText (bytes : List UInt8) : hexBytes (hexText bytes) = bytes := by
  induction bytes with
  | nil => rfl
  | cons byte bytes ih =>
    have hbyte := byte.toNat_lt
    have hhigh : hexValue (byte.toNat / 16).digitChar = some (byte.toNat / 16) := hexValue_digitChar (by omega)
    have hlow : hexValue (byte.toNat % 16).digitChar = some (byte.toNat % 16) := hexValue_digitChar (by omega)
    have hwhole : UInt8.ofNat (byte.toNat / 16 * 16 + byte.toNat % 16) = byte := ofNat_eq_of_toNat (by omega)
    rw [hexText, List.flatMap_cons, hexPair, List.cons_append, List.singleton_append, hexBytes_cons hhigh hlow, hwhole,
      ← hexText, ih]

/-- A digit is no colon. -/
theorem not_colon_of_isHex {c : Char} (h : isHex c = true) : c ≠ ':' := by
  rintro rfl
  cases h

/-- Digits are digits. -/
theorem isHex_hexText (bytes : List UInt8) : ∀ c ∈ hexText bytes, isHex c = true := by
  intro c hc
  obtain ⟨byte, -, hpair⟩ := List.mem_flatMap.mp hc
  have hbyte := byte.toNat_lt
  rcases List.mem_cons.mp hpair with rfl | hlast
  · rw [isHex, hexValue_digitChar (by omega)]
    rfl
  · rw [List.mem_singleton.mp hlast, isHex, hexValue_digitChar (by omega)]
    rfl

/-- Pairs of characters are all read as bytes exactly when they are digits. -/
theorem length_hexBytes_iff (text : List Char) (heven : text.length % 2 = 0) :
    (hexBytes text).length * 2 = text.length ↔ ∀ c ∈ text, isHex c = true := by
  induction text using hexBytes.induct with
  | case1 a b text high low ha hb ih =>
    have hrest : text.length % 2 = 0 := by
      simp only [List.length_cons] at heven
      omega
    rw [hexBytes_cons hb ha, List.forall_mem_cons, List.forall_mem_cons, ← ih hrest, isHex, isHex, hb, ha]
    simp only [List.length_cons, Option.isSome_some, true_and]
    omega
  | case2 a b text hnone =>
    have hbytes : hexBytes (a :: b :: text) = [] := by
      unfold hexBytes
      split
      · rename_i high low ha hb
        exact absurd hb (hnone high low ha)
      · rfl
    rw [hbytes]
    refine iff_of_false (by simp) fun hall => ?_
    obtain ⟨high, hhigh⟩ := Option.isSome_iff_exists.mp (hall a List.mem_cons_self)
    obtain ⟨low, hlow⟩ := Option.isSome_iff_exists.mp (hall b (List.mem_cons_of_mem _ List.mem_cons_self))
    exact hnone high low hhigh hlow
  | case3 text hshort =>
    rcases text with _ | ⟨a, _ | ⟨b, text⟩⟩
    · exact iff_of_true rfl fun c hc => absurd hc List.not_mem_nil
    · cases heven
    · exact absurd rfl (hshort a b text)

end Hexadecimal

section Sealing

/-- The cipher of the runtime. It is deterministic, and opens what it sealed under the same key and vector, by any of
the tags that begin the whole one. -/
structure Aes256Gcm where
  encrypt : (key iv plain : List UInt8) → List UInt8 × List UInt8
  decrypt : (key iv tag encrypted : List UInt8) → Option (List UInt8)
  length_tag : ∀ key iv plain, (encrypt key iv plain).2.length = 16
  decrypt_eq_some : ∀ key iv tag encrypted plain,
    decrypt key iv tag encrypted = some plain ↔ (encrypt key iv plain).1 = encrypted ∧ tag <+: (encrypt key iv plain).2

/-- The sixteen random bytes that a sealing begins with. -/
structure Iv where
  bytes : List UInt8
  length_bytes : bytes.length = 16

/-- The lengths of a tag that the runtime takes. -/
def tagLengths : List ℕ := [4, 8, 12, 13, 14, 15, 16]

variable (gcm : Aes256Gcm)

/-- Seal a text; a key that is not 32 bytes long is refused. -/
def encryptAES256GCM (iv : Iv) (text keyHex : List Char) : Option (List Char) :=
  let key := hexBytes keyHex
  if key.length = 32 then
    let sealed := gcm.encrypt key iv.bytes (utf8 text)
    some (hexText iv.bytes ++ ':' :: (hexText sealed.2 ++ ':' :: hexText sealed.1))
  else none

/-- Open a text: its first three pieces are the vector, the tag and the encrypted bytes. -/
def decryptAES256GCM (encryptedStr keyHex : List Char) : Option (List Char) :=
  match encryptedStr.splitOn ':' with
  | ivHex :: authTagHex :: encryptedHex :: _ =>
    let key := hexBytes keyHex
    let iv := hexBytes ivHex
    let authTag := hexBytes authTagHex
    if key.length = 32 ∧ iv ≠ [] ∧ authTag.length ∈ tagLengths then
      (gcm.decrypt key iv authTag (hexBytes encryptedHex)).map (utf8Decode none)
    else none
  | _ => none

variable {gcm} {iv : Iv} {text keyHex encryptedStr : List Char}

/-- What was sealed falls into its three pieces. -/
theorem splitOn_sealed (a b c : List UInt8) :
    (hexText a ++ ':' :: (hexText b ++ ':' :: hexText c)).splitOn ':' = [hexText a, hexText b, hexText c] := by
  have hnone : ∀ bytes : List UInt8, ':' ∉ hexText bytes := fun bytes hmem =>
    not_colon_of_isHex (isHex_hexText bytes ':' hmem) rfl
  rw [List.splitOn_append_cons_self_of_not_mem (hnone a), List.splitOn_append_cons_self_of_not_mem (hnone b),
    List.splitOn_eq_singleton (hnone c)]

/-- What was sealed opens to itself, under the same key. -/
theorem decrypt_encrypt (h : encryptAES256GCM gcm iv text keyHex = some encryptedStr) :
    decryptAES256GCM gcm encryptedStr keyHex = some text := by
  unfold encryptAES256GCM at h
  simp only at h
  split at h
  · rename_i hkey
    cases h
    have hiv : iv.bytes ≠ [] := by
      intro hnil
      have hlength := iv.length_bytes
      rw [hnil] at hlength
      cases hlength
    have htag : (gcm.encrypt (hexBytes keyHex) iv.bytes (utf8 text)).2.length ∈ tagLengths := by
      rw [gcm.length_tag]
      decide
    have hopen : gcm.decrypt (hexBytes keyHex) iv.bytes (gcm.encrypt (hexBytes keyHex) iv.bytes (utf8 text)).2
        (gcm.encrypt (hexBytes keyHex) iv.bytes (utf8 text)).1 = some (utf8 text) :=
      (gcm.decrypt_eq_some _ _ _ _ _).mpr ⟨rfl, List.prefix_refl _⟩
    simp only [decryptAES256GCM, splitOn_sealed, hexBytes_hexText]
    rw [if_pos ⟨hkey, hiv, htag⟩, hopen, Option.map_some, utf8, utf8Decode_encode]
  · cases h

/-- A text that opens was sealed: its pieces are a vector, a tag and the encrypted bytes of something that reads as
what it opens to. -/
theorem decrypt_eq_some (h : decryptAES256GCM gcm encryptedStr keyHex = some text) :
    ∃ ivHex authTagHex encryptedHex rest plain, encryptedStr.splitOn ':' = ivHex :: authTagHex :: encryptedHex :: rest ∧
      utf8Decode none plain = text ∧
      (gcm.encrypt (hexBytes keyHex) (hexBytes ivHex) plain).1 = hexBytes encryptedHex ∧
      hexBytes authTagHex <+: (gcm.encrypt (hexBytes keyHex) (hexBytes ivHex) plain).2 := by
  unfold decryptAES256GCM at h
  split at h
  · rename_i ivHex authTagHex encryptedHex rest hsplit
    simp only at h
    split at h
    · obtain ⟨plain, hplain, htext⟩ := Option.map_eq_some_iff.mp h
      exact ⟨ivHex, authTagHex, encryptedHex, rest, plain, hsplit, htext, (gcm.decrypt_eq_some _ _ _ _ _).mp hplain⟩
    · cases h
  · cases h

/-- A key of 64 characters seals exactly when they are digits. -/
theorem encrypt_isSome_iff (gcm : Aes256Gcm) (iv : Iv) (text : List Char) (hlength : keyHex.length = 64) :
    (encryptAES256GCM gcm iv text keyHex).isSome = true ↔ ∀ c ∈ keyHex, isHex c = true := by
  rw [← length_hexBytes_iff keyHex (by rw [hlength]), hlength, encryptAES256GCM]
  simp only
  split
  · rename_i hkey
    exact iff_of_true rfl (by rw [hkey])
  · rename_i hkey
    exact iff_of_false Bool.false_ne_true fun hdouble => hkey (by omega)

end Sealing

section Members

/-- A member that is written unless it is undefined. -/
def optionalMember (name : String) (value : Option Json) : List (String × Json) :=
  (value.map fun found => (name, found)).toList

/-- The value of a truth value. -/
def Json.bool? : Json → Option Bool
  | .bool b => some b
  | _ => none

/-- The texts of an array of texts. -/
def Json.texts? : Json → Option (List String)
  | .arr items => items.mapM Json.str?
  | _ => none

/-- The texts of an object of texts, by name. -/
def Json.record? : Json → Option (List (String × String))
  | .obj members => members.mapM fun member => member.2.str?.map fun text => (member.1, text)
  | _ => none

/-- A member that may be missing. -/
def Json.optional? {α : Type} (name : String) (read : Json → Option α) (value : Json) : Option (Option α) :=
  match value.member? name with
  | some found => (read found).map some
  | none => some none

/-- A webhook configuration as it is written. -/
def InstanceDefaultWebhookConfig.toJson (webhook : InstanceDefaultWebhookConfig) : Json :=
  .obj (optionalMember "enabled" (webhook.enabled.map .bool) ++ ([("url", .str webhook.url)] ++
    (optionalMember "headers" (webhook.headers.map fun headers =>
      .obj (headers.map fun header => (header.1, .str header.2))) ++
    (optionalMember "byEvents" (webhook.byEvents.map .bool) ++ (optionalMember "base64" (webhook.base64.map .bool) ++
    optionalMember "events" (webhook.events.map fun events => .arr (events.map .str)))))))

/-- A webhook configuration as it is read. -/
def InstanceDefaultWebhookConfig.ofJson (value : Json) : Option InstanceDefaultWebhookConfig := do
  let enabled ← value.optional? "enabled" Json.bool?
  let url ← (value.member? "url").bind Json.str?
  let headers ← value.optional? "headers" Json.record?
  let byEvents ← value.optional? "byEvents" Json.bool?
  let base64 ← value.optional? "base64" Json.bool?
  let events ← value.optional? "events" Json.texts?
  pure { enabled, url, headers, byEvents, base64, events }

/-- The body of a creation request as it is written. -/
def CreateInstanceDto.toJson (dto : CreateInstanceDto) : Json :=
  .obj ([("instanceName", .str dto.instanceName)] ++ (optionalMember "token" (dto.token.map .str) ++
    (optionalMember "qrcode" (dto.qrcode.map .bool) ++ (optionalMember "integration" (dto.integration.map .str) ++
    optionalMember "webhook" (dto.webhook.map (·.toJson))))))

/-- The body of a creation request as it is read. -/
def CreateInstanceDto.ofJson (value : Json) : Option CreateInstanceDto := do
  let instanceName ← (value.member? "instanceName").bind Json.str?
  let token ← value.optional? "token" Json.str?
  let qrcode ← value.optional? "qrcode" Json.bool?
  let integration ← value.optional? "integration" Json.str?
  let webhook ← value.optional? "webhook" InstanceDefaultWebhookConfig.ofJson
  pure { instanceName, token, qrcode, integration, webhook }

/-- What a creation needs, as it is written. -/
def ProvisioningPayload.toJson (payload : ProvisioningPayload) : Json :=
  .obj ([("token", .str payload.token)] ++ (optionalMember "clientToken" (payload.clientToken.map .str) ++
    ([("request", payload.request.toJson)] ++ ([("webhookApplied", .bool payload.webhookApplied)] ++
    optionalMember "webhook" (payload.webhook.map (·.toJson))))))

/-- What a creation needs, as it is read. -/
def ProvisioningPayload.ofJson (value : Json) : Option ProvisioningPayload := do
  let token ← (value.member? "token").bind Json.str?
  let clientToken ← value.optional? "clientToken" Json.str?
  let request ← (value.member? "request").bind CreateInstanceDto.ofJson
  let webhookApplied ← (value.member? "webhookApplied").bind Json.bool?
  let webhook ← value.optional? "webhook" InstanceDefaultWebhookConfig.ofJson
  pure { token, clientToken, request, webhook, webhookApplied }

/-- What is found under a name that is written. -/
theorem lookup_singleton (name key : String) (value : Json) :
    List.lookup key [(name, value)] = if key = name then some value else none := by
  rw [List.lookup_cons, List.lookup_nil]
  by_cases h : key = name
  · rw [if_pos h, beq_iff_eq.mpr h]
  · rw [if_neg h, beq_eq_false_iff_ne.mpr h]

/-- What is found under a name that is written unless it is undefined. -/
theorem lookup_member (name key : String) (value : Option Json) :
    (optionalMember name value).lookup key = if key = name then value else none := by
  cases value with
  | none => exact (ite_self none).symm
  | some found => exact lookup_singleton name key found

/-- A member that may be missing is read back, if its value is. -/
theorem optional?_of_member {α : Type} {name : String} {read : Json → Option α} (write : α → Json) {value : Json}
    {found : Option α} (hmember : value.member? name = found.map write) (hread : ∀ a ∈ found, read (write a) = some a) :
    value.optional? name read = some found := by
  rw [Json.optional?, hmember]
  cases found with
  | none => rfl
  | some a =>
    change (read (write a)).map some = _
    rw [hread a rfl, Option.map_some]

/-- Texts are read back. -/
theorem texts?_arr (texts : List String) : Json.texts? (.arr (texts.map .str)) = some texts := by
  rw [Json.texts?]
  induction texts with
  | nil => rfl
  | cons text texts ih => rw [List.map_cons, List.mapM_cons, ih]; rfl

/-- Named texts are read back. -/
theorem record?_obj (members : List (String × String)) :
    Json.record? (.obj (members.map fun member => (member.1, .str member.2))) = some members := by
  rw [Json.record?]
  induction members with
  | nil => rfl
  | cons member members ih => rw [List.map_cons, List.mapM_cons, ih]; rfl

/-- A webhook configuration is read back. -/
theorem InstanceDefaultWebhookConfig.ofJson_toJson (webhook : InstanceDefaultWebhookConfig) :
    ofJson webhook.toJson = some webhook := by
  have hmember : ∀ name, webhook.toJson.member? name =
      (if name = "enabled" then webhook.enabled.map Json.bool else none).or
      ((if name = "url" then some (.str webhook.url) else none).or
      ((if name = "headers" then webhook.headers.map fun headers =>
        Json.obj (headers.map fun header => (header.1, .str header.2)) else none).or
      ((if name = "byEvents" then webhook.byEvents.map Json.bool else none).or
      ((if name = "base64" then webhook.base64.map Json.bool else none).or
      (if name = "events" then webhook.events.map fun events => Json.arr (events.map .str) else none))))) := by
    intro name
    simp only [toJson, Json.member?, List.lookup_append, lookup_member, lookup_singleton]
  have henabled : webhook.toJson.optional? "enabled" Json.bool? = some webhook.enabled :=
    optional?_of_member Json.bool (by rw [hmember]; simp) fun _ _ => rfl
  have hheaders : webhook.toJson.optional? "headers" Json.record? = some webhook.headers :=
    optional?_of_member _ (by rw [hmember]; simp) fun headers _ => record?_obj headers
  have hbyEvents : webhook.toJson.optional? "byEvents" Json.bool? = some webhook.byEvents :=
    optional?_of_member Json.bool (by rw [hmember]; simp) fun _ _ => rfl
  have hbase64 : webhook.toJson.optional? "base64" Json.bool? = some webhook.base64 :=
    optional?_of_member Json.bool (by rw [hmember]; simp) fun _ _ => rfl
  have hevents : webhook.toJson.optional? "events" Json.texts? = some webhook.events :=
    optional?_of_member _ (by rw [hmember]; simp) fun events _ => texts?_arr events
  have hurl : webhook.toJson.member? "url" = some (.str webhook.url) := by
    rw [hmember]
    simp
  rw [ofJson, henabled, hurl, hheaders, hbyEvents, hbase64, hevents]
  rfl

/-- The body of a creation request is read back. -/
theorem CreateInstanceDto.ofJson_toJson (dto : CreateInstanceDto) : ofJson dto.toJson = some dto := by
  have hmember : ∀ name, dto.toJson.member? name =
      (if name = "instanceName" then some (.str dto.instanceName) else none).or
      ((if name = "token" then dto.token.map Json.str else none).or
      ((if name = "qrcode" then dto.qrcode.map Json.bool else none).or
      ((if name = "integration" then dto.integration.map Json.str else none).or
      (if name = "webhook" then dto.webhook.map (·.toJson) else none)))) := by
    intro name
    simp only [toJson, Json.member?, List.lookup_append, lookup_member, lookup_singleton]
  have hname : dto.toJson.member? "instanceName" = some (.str dto.instanceName) := by
    rw [hmember]
    simp
  have htoken : dto.toJson.optional? "token" Json.str? = some dto.token :=
    optional?_of_member Json.str (by rw [hmember]; simp) fun _ _ => rfl
  have hqrcode : dto.toJson.optional? "qrcode" Json.bool? = some dto.qrcode :=
    optional?_of_member Json.bool (by rw [hmember]; simp) fun _ _ => rfl
  have hintegration : dto.toJson.optional? "integration" Json.str? = some dto.integration :=
    optional?_of_member Json.str (by rw [hmember]; simp) fun _ _ => rfl
  have hwebhook : dto.toJson.optional? "webhook" InstanceDefaultWebhookConfig.ofJson = some dto.webhook :=
    optional?_of_member _ (by rw [hmember]; simp) fun webhook _ => webhook.ofJson_toJson
  rw [ofJson, hname, htoken, hqrcode, hintegration, hwebhook]
  rfl

/-- The token of what a creation needs, and the name that it asks for, as they are written. -/
theorem ProvisioningPayload.member_toJson (payload : ProvisioningPayload) (name : String) :
    payload.toJson.member? name = (if name = "token" then some (.str payload.token) else none).or
      ((if name = "clientToken" then payload.clientToken.map Json.str else none).or
      ((if name = "request" then some payload.request.toJson else none).or
      ((if name = "webhookApplied" then some (.bool payload.webhookApplied) else none).or
      (if name = "webhook" then payload.webhook.map (·.toJson) else none)))) := by
  simp only [toJson, Json.member?, List.lookup_append, lookup_member, lookup_singleton]

/-- What a creation needs is read back. -/
theorem ProvisioningPayload.ofJson_toJson (payload : ProvisioningPayload) : ofJson payload.toJson = some payload := by
  have htoken : payload.toJson.member? "token" = some (.str payload.token) := by
    rw [member_toJson]
    simp
  have hclient : payload.toJson.optional? "clientToken" Json.str? = some payload.clientToken :=
    optional?_of_member Json.str (by rw [member_toJson]; simp) fun _ _ => rfl
  have hrequest : payload.toJson.member? "request" = some payload.request.toJson := by
    rw [member_toJson]
    simp
  have happlied : payload.toJson.member? "webhookApplied" = some (.bool payload.webhookApplied) := by
    rw [member_toJson]
    simp
  have hwebhook : payload.toJson.optional? "webhook" InstanceDefaultWebhookConfig.ofJson = some payload.webhook :=
    optional?_of_member _ (by rw [member_toJson]; simp) fun webhook _ => webhook.ofJson_toJson
  rw [ofJson, htoken, hclient, hrequest, happlied, hwebhook]
  simp only [Option.bind_some, Json.str?, Json.bool?, CreateInstanceDto.ofJson_toJson, Option.bind_eq_bind,
    Option.pure_def]

/-- A member that is written unless it is undefined has its name. -/
theorem member_names (name : String) (value : Option Json) :
    ((optionalMember name value).map (·.1)).Sublist [name] := by
  cases value with
  | none => exact List.nil_sublist _
  | some found => exact List.Sublist.refl _

/-- What holds of a value holds of its member, if there is one. -/
theorem forall_optional {name : String} {value : Option Json} {P : Json → Prop} (h : ∀ found ∈ value, P found) :
    ∀ member ∈ optionalMember name value, P member.2 := by
  intro member hmember
  obtain ⟨found, hfound, rfl⟩ := Option.map_eq_some_iff.mp (Option.mem_toList.mp hmember)
  exact h found hfound

/-- Members among given names are well formed if their values are. -/
theorem wellFormed_obj {members : List (String × Json)} {names : List String}
    (hnames : (members.map (·.1)).Sublist names) (honce : names.Nodup)
    (hvalues : ∀ member ∈ members, member.2.WellFormed) : (Json.obj members).WellFormed :=
  ⟨honce.sublist hnames, membersWellFormed_iff.mpr hvalues⟩

/-- A webhook configuration that names each header once. -/
def InstanceDefaultWebhookConfig.NamesOnce (webhook : InstanceDefaultWebhookConfig) : Prop :=
  ∀ headers ∈ webhook.headers, (headers.map (·.1)).Nodup

/-- What a creation needs, with webhook configurations that name each header once. -/
structure ProvisioningPayload.NamesOnce (payload : ProvisioningPayload) : Prop where
  request : ∀ webhook ∈ payload.request.webhook, webhook.NamesOnce
  webhook : ∀ webhook ∈ payload.webhook, webhook.NamesOnce

/-- A truth value is well formed. -/
theorem wellFormed_bool (value : Option Bool) : ∀ found ∈ value.map Json.bool, found.WellFormed := by
  rintro found hfound
  obtain ⟨b, -, rfl⟩ := Option.map_eq_some_iff.mp hfound
  exact trivial

/-- A text is well formed. -/
theorem wellFormed_str (value : Option String) : ∀ found ∈ value.map Json.str, found.WellFormed := by
  rintro found hfound
  obtain ⟨s, -, rfl⟩ := Option.map_eq_some_iff.mp hfound
  exact trivial

/-- Texts are well formed. -/
theorem itemsWellFormed_str (texts : List String) : Json.ItemsWellFormed (texts.map .str) := by
  induction texts with
  | nil => exact trivial
  | cons text texts ih => exact ⟨trivial, ih⟩

/-- A webhook configuration is written well formed. -/
theorem InstanceDefaultWebhookConfig.NamesOnce.wellFormed {webhook : InstanceDefaultWebhookConfig}
    (h : webhook.NamesOnce) : webhook.toJson.WellFormed := by
  have hheaders : ∀ found ∈ webhook.headers.map fun headers =>
      Json.obj (headers.map fun header => (header.1, .str header.2)), found.WellFormed := by
    intro found hfound
    obtain ⟨headers, hheaders, rfl⟩ := Option.map_eq_some_iff.mp hfound
    refine ⟨?_, membersWellFormed_iff.mpr fun member hmember => ?_⟩
    · rw [List.map_map]
      exact h headers hheaders
    · obtain ⟨header, -, rfl⟩ := List.mem_map.mp hmember
      exact trivial
  have hevents : ∀ found ∈ webhook.events.map fun events => Json.arr (events.map .str), found.WellFormed := by
    intro found hfound
    obtain ⟨events, -, rfl⟩ := Option.map_eq_some_iff.mp hfound
    exact itemsWellFormed_str events
  refine @wellFormed_obj _ ["enabled", "url", "headers", "byEvents", "base64", "events"] ?_ (by decide) ?_
  · simp only [List.map_append]
    exact (member_names _ _).append ((List.Sublist.refl _).append ((member_names _ _).append
      ((member_names _ _).append ((member_names _ _).append (member_names _ _)))))
  · exact List.forall_mem_append.mpr ⟨forall_optional (wellFormed_bool _), List.forall_mem_append.mpr
      ⟨List.forall_mem_singleton.mpr trivial, List.forall_mem_append.mpr ⟨forall_optional hheaders,
        List.forall_mem_append.mpr ⟨forall_optional (wellFormed_bool _), List.forall_mem_append.mpr
          ⟨forall_optional (wellFormed_bool _), forall_optional hevents⟩⟩⟩⟩⟩

/-- What a creation needs is written well formed. -/
theorem ProvisioningPayload.NamesOnce.wellFormed {payload : ProvisioningPayload} (h : payload.NamesOnce) :
    payload.toJson.WellFormed := by
  have hwebhook : ∀ given : Option InstanceDefaultWebhookConfig, (∀ webhook ∈ given, webhook.NamesOnce) →
      ∀ found ∈ given.map (·.toJson), found.WellFormed := by
    intro given hgiven found hfound
    obtain ⟨webhook, hmem, rfl⟩ := Option.map_eq_some_iff.mp hfound
    exact (hgiven webhook hmem).wellFormed
  have hrequest : payload.request.toJson.WellFormed := by
    refine @wellFormed_obj _ ["instanceName", "token", "qrcode", "integration", "webhook"] ?_ (by decide) ?_
    · simp only [List.map_append]
      exact (List.Sublist.refl _).append ((member_names _ _).append ((member_names _ _).append
        ((member_names _ _).append (member_names _ _))))
    · exact List.forall_mem_append.mpr ⟨List.forall_mem_singleton.mpr trivial, List.forall_mem_append.mpr
        ⟨forall_optional (wellFormed_str _), List.forall_mem_append.mpr ⟨forall_optional (wellFormed_bool _),
          List.forall_mem_append.mpr ⟨forall_optional (wellFormed_str _),
            forall_optional (hwebhook _ h.request)⟩⟩⟩⟩
  refine @wellFormed_obj _ ["token", "clientToken", "request", "webhookApplied", "webhook"] ?_ (by decide) ?_
  · simp only [List.map_append]
    exact (List.Sublist.refl _).append ((member_names _ _).append ((List.Sublist.refl _).append
      ((List.Sublist.refl _).append (member_names _ _))))
  · exact List.forall_mem_append.mpr ⟨List.forall_mem_singleton.mpr trivial, List.forall_mem_append.mpr
      ⟨forall_optional (wellFormed_str _), List.forall_mem_append.mpr ⟨List.forall_mem_singleton.mpr hrequest,
        List.forall_mem_append.mpr ⟨List.forall_mem_singleton.mpr trivial,
          forall_optional (hwebhook _ h.webhook)⟩⟩⟩⟩

end Members

section Payloads

variable (gcm : Aes256Gcm)

/-- Whether a value counts as true. -/
def Json.truthy : Json → Bool
  | .null => false
  | .bool b => b
  | .number numeral => toDouble (numeralValue numeral.toList) ≠ 0
  | .str s => s ≠ ""
  | .arr _ => true
  | .obj _ => true

/-- What a text opens to, read as a value. -/
def openJson (text keyHex : List Char) : Option Json := (decryptAES256GCM gcm text keyHex).bind Json.parse

/-- Seal what a creation needs. -/
def encodePayloadText (iv : Iv) (payload : ProvisioningPayload) (keyHex : List Char) : Option (List Char) :=
  encryptAES256GCM gcm iv payload.toJson.stringify keyHex

/-- Open what a creation needs. -/
def decodePayloadText (value : Option (List Char)) (keyHex : List Char) : Except HubError Json :=
  match value.filter (· ≠ []) with
  | none => .error (.internal "Missing provisioning evidence")
  | some text =>
    match openJson gcm text keyHex with
    | none => .error (.internal "Unreadable provisioning evidence")
    | some payload =>
      if (payload.member? "token").any Json.truthy = true ∧
          ((payload.member? "request").bind (Json.member? "instanceName")).any Json.truthy = true then .ok payload
      else .error (.internal "Invalid provisioning evidence")

/-- The sealed value that a text stands for. -/
def sealedAs (value : Option (List Char)) (keyHex : List Char) : Option (Sealed ProvisioningPayload) :=
  (value.filter (· ≠ [])).map fun text => ⟨(openJson gcm text keyHex).bind ProvisioningPayload.ofJson⟩

variable {gcm} {iv : Iv} {keyHex : List Char} {payload : ProvisioningPayload}

/-- A value that is written well formed comes back from its sealed text. -/
theorem openJson_encrypt {value : Json} {text : List Char} (hvalue : value.WellFormed)
    (h : encryptAES256GCM gcm iv value.stringify keyHex = some text) : openJson gcm text keyHex = some value := by
  rw [openJson, decrypt_encrypt h, Option.bind_some, parse_stringify hvalue]

/-- A value that reads as a text is one. -/
theorem str?_eq_some {value : Json} {s : String} (h : value.str? = some s) : value = .str s := by
  cases value <;> cases h
  rfl

/-- A text counts as true unless it is empty. -/
theorem truthy_of_str? {found : Option Json} {s : String} (h : found.bind Json.str? = some s) :
    found.any Json.truthy = decide (s ≠ "") := by
  obtain ⟨value, rfl, hvalue⟩ := Option.bind_eq_some_iff.mp h
  rw [str?_eq_some hvalue]
  rfl

/-- What is checked of a value that reads as what a creation needs. -/
theorem ProvisioningPayload.truthy_ofJson {value : Json} (h : ofJson value = some payload) :
    (value.member? "token").any Json.truthy = decide (payload.token ≠ "") ∧
      ((value.member? "request").bind (Json.member? "instanceName")).any Json.truthy =
        decide (payload.request.instanceName ≠ "") := by
  simp only [ofJson, Option.bind_eq_bind, Option.bind_eq_some_iff, Option.pure_def, Option.some.injEq] at h
  obtain ⟨token, htoken, clientToken, -, request, ⟨found, hfound, hrequest⟩, webhookApplied, -, webhook, -, rfl⟩ := h
  simp only [CreateInstanceDto.ofJson, Option.bind_eq_bind, Option.bind_eq_some_iff, Option.pure_def,
    Option.some.injEq] at hrequest
  obtain ⟨instanceName, hname, requestToken, -, qrcode, -, integration, -, supplied, -, rfl⟩ := hrequest
  refine ⟨truthy_of_str? (Option.bind_eq_some_iff.mpr htoken), ?_⟩
  rw [hfound, Option.bind_some]
  exact truthy_of_str? (Option.bind_eq_some_iff.mpr hname)

/-- Opening the sealed value that a text stands for. -/
theorem decodePayload_run (payload : ProvisioningPayload) (db : Database) :
    (decodePayload (some ⟨some payload⟩)).run db =
      if payload.token = "" ∨ payload.request.instanceName = "" then
        .error (.internal "Invalid provisioning evidence")
      else .ok (payload, db) := by
  rw [decodePayload, throwWhen_bind_run]
  rfl

/-- A text that opens to a value of what a creation needs, or not at all. -/
def Readable (gcm : Aes256Gcm) (value : Option (List Char)) (keyHex : List Char) : Prop :=
  ∀ text ∈ value, ∀ json, openJson gcm text keyHex = some json →
    ∃ payload, ProvisioningPayload.ofJson json = some payload

/-- Opening a text agrees with opening the sealed value that it stands for. -/
theorem decodePayloadText_refines {value : Option (List Char)} (hreadable : Readable gcm value keyHex) (db : Database) :
    (decodePayloadText gcm value keyHex).map ProvisioningPayload.ofJson =
      ((decodePayload (sealedAs gcm value keyHex)).run db).map fun opened => some opened.1 := by
  unfold decodePayloadText sealedAs
  cases hvalue : value.filter (· ≠ []) with
  | none => rfl
  | some text =>
    obtain ⟨hmem, -⟩ := Option.filter_eq_some_iff.mp hvalue
    rw [Option.map_some]
    simp only
    cases hopen : openJson gcm text keyHex with
    | none => rfl
    | some json =>
      obtain ⟨payload, hpayload⟩ := hreadable text hmem json hopen
      obtain ⟨htoken, hname⟩ := ProvisioningPayload.truthy_ofJson hpayload
      rw [Option.bind_some, hpayload, decodePayload_run]
      simp only [htoken, hname, decide_eq_true_eq]
      by_cases hnamed : payload.token = "" ∨ payload.request.instanceName = ""
      · rw [if_pos hnamed, if_neg (by tauto)]
        rfl
      · rw [if_neg hnamed, if_pos (by tauto)]
        exact congrArg Except.ok hpayload

/-- An empty text does not open. -/
theorem openJson_nil (gcm : Aes256Gcm) (keyHex : List Char) : openJson gcm [] keyHex = none := rfl

/-- They disagree on a text that opens to something else. -/
theorem readable_of_refines {value : Option (List Char)} {db : Database}
    (h : (decodePayloadText gcm value keyHex).map ProvisioningPayload.ofJson =
      ((decodePayload (sealedAs gcm value keyHex)).run db).map fun opened => some opened.1) :
    Readable gcm value keyHex := by
  rintro text rfl json hopen
  by_contra hother
  have hnone : ProvisioningPayload.ofJson json = none :=
    Option.eq_none_iff_forall_not_mem.mpr fun payload hpayload => hother ⟨payload, hpayload⟩
  have hnonempty : text ≠ [] := by
    rintro rfl
    rw [openJson_nil] at hopen
    cases hopen
  have hsealed : sealedAs gcm (some text) keyHex = some ⟨none⟩ := by
    rw [sealedAs, Option.filter_some, if_pos (decide_eq_true hnonempty), Option.map_some, hopen, Option.bind_some,
      hnone]
  have hunreadable : (decodePayload (some ⟨none⟩)).run db =
      .error (.internal "Unreadable provisioning evidence") := rfl
  rw [hsealed, hunreadable, decodePayloadText, Option.filter_some, if_pos (decide_eq_true hnonempty)] at h
  simp only [hopen] at h
  split at h
  · cases h
  · injection h with h
    injection h with h
    exact absurd h (by decide)

end Payloads

/-- A key that the configuration accepts seals nothing if a character of it is no hexadecimal digit. Otherwise what a
creation needs is sealed as a text that stands for the sealed value of it, whatever the random bytes. Opening a text
and opening the sealed value that it stands for agree, in what they yield and in how they fail, exactly when the text
does not open to anything but what a creation needs. What opens at all was sealed under the key, and reads as the bytes
that were. -/
theorem sealed_payload_refines (gcm : Aes256Gcm) (keyHex : List Char) (hlength : keyHex.length = 64) :
    ((∃ c ∈ keyHex, isHex c = false) → ∀ iv text, encryptAES256GCM gcm iv text keyHex = none) ∧
      ((∀ c ∈ keyHex, isHex c = true) → ∀ iv payload, payload.NamesOnce → ∃ text,
        encodePayloadText gcm iv payload keyHex = some text ∧ Readable gcm (some text) keyHex ∧
          sealedAs gcm (some text) keyHex = some (encodePayload payload)) ∧
      (∀ value db, (decodePayloadText gcm value keyHex).map ProvisioningPayload.ofJson =
          (((decodePayload (sealedAs gcm value keyHex)).run db).map fun opened => some opened.1) ↔
        Readable gcm value keyHex) ∧
      ∀ encryptedStr text, decryptAES256GCM gcm encryptedStr keyHex = some text →
        ∃ ivHex authTagHex encryptedHex rest plain,
          encryptedStr.splitOn ':' = ivHex :: authTagHex :: encryptedHex :: rest ∧ utf8Decode none plain = text ∧
          (gcm.encrypt (hexBytes keyHex) (hexBytes ivHex) plain).1 = hexBytes encryptedHex ∧
          hexBytes authTagHex <+: (gcm.encrypt (hexBytes keyHex) (hexBytes ivHex) plain).2 := by
  refine ⟨fun ⟨c, hc, hnot⟩ iv text => ?_, fun hkey iv payload honce => ?_, fun value db =>
    ⟨readable_of_refines, fun hreadable => decodePayloadText_refines hreadable db⟩,
    fun encryptedStr text hopens => decrypt_eq_some hopens⟩
  · rw [← Option.not_isSome_iff_eq_none, encrypt_isSome_iff gcm iv text hlength]
    exact fun hall => Bool.false_ne_true (hnot.symm.trans (hall c hc))
  · obtain ⟨text, htext⟩ := Option.isSome_iff_exists.mp
      ((encrypt_isSome_iff gcm iv payload.toJson.stringify hlength).mpr hkey)
    have hopen : openJson gcm text keyHex = some payload.toJson := openJson_encrypt honce.wellFormed htext
    refine ⟨text, htext, fun found hfound json hjson => ?_, ?_⟩
    · cases hfound
      exact ⟨payload, Option.some.inj (hjson.symm.trans hopen) ▸ payload.ofJson_toJson⟩
    · have hnonempty : text ≠ [] := by
        rintro rfl
        have hsplit := decrypt_encrypt htext
        cases hsplit
      rw [sealedAs, Option.filter_some, if_pos (decide_eq_true hnonempty), Option.map_some, hopen, Option.bind_some,
        payload.ofJson_toJson]
      rfl

section Small

/-- Bytes under a mask, as long as it is. -/
def masked : List UInt8 → List UInt8 → List UInt8
  | byte :: bytes, mask :: masks => (byte ^^^ mask) :: masked bytes masks
  | bytes, _ => bytes

/-- A mask is taken off by the same mask. -/
theorem masked_masked (bytes masks : List UInt8) : masked (masked bytes masks) masks = bytes := by
  induction bytes generalizing masks with
  | nil => cases masks <;> rfl
  | cons byte bytes ih =>
    cases masks with
    | nil => rfl
    | cons mask masks => rw [masked, masked, ih, UInt8.xor_assoc, UInt8.xor_self, UInt8.xor_zero]

/-- What a creation needs of a session. -/
def smallSealedPayload : ProvisioningPayload where
  token := "token"
  request := { instanceName := "alice" }
  webhookApplied := true

/-- What AES-256 in counter mode masks its input with, under the key and the vector of zeros. -/
def smallMask (key iv : List UInt8) : List UInt8 :=
  if key = List.replicate 32 0 ∧ iv = List.replicate 16 0 then
    [223, 83, 192, 13, 48, 23, 62, 139, 156, 222, 61, 221, 44, 163, 198, 191, 70, 155, 87, 40, 50, 121, 241, 226, 199,
     150, 207, 186, 222, 159, 41, 53, 64, 147, 72, 242, 206, 196, 175, 106, 121, 149, 121, 94, 219, 170, 96, 86, 106,
     23, 175, 253, 245, 209, 97, 185, 103, 226, 52, 238, 16, 157, 196, 163, 190, 133, 95, 200, 90, 78, 210, 128, 80,
     248]
  else []

/-- Its tag of that session there. -/
def smallTag (key iv plain : List UInt8) : List UInt8 :=
  if key = List.replicate 32 0 ∧ iv = List.replicate 16 0 ∧ plain = utf8 smallSealedPayload.toJson.stringify then
    [201, 4, 64, 83, 101, 135, 231, 79, 5, 112, 135, 198, 47, 74, 71, 82]
  else List.replicate 16 0

/-- A cipher that seals that session as AES-256-GCM does. -/
def smallGcm : Aes256Gcm where
  encrypt key iv plain := (masked plain (smallMask key iv), smallTag key iv plain)
  decrypt key iv tag encrypted :=
    if tag.isPrefixOf (smallTag key iv (masked encrypted (smallMask key iv))) then
      some (masked encrypted (smallMask key iv))
    else none
  length_tag key iv plain := by
    unfold smallTag
    split <;> rfl
  decrypt_eq_some key iv tag encrypted plain := by
    rw [Option.ite_none_right_eq_some, List.isPrefixOf_iff_prefix, Option.some.injEq]
    constructor
    · rintro ⟨htag, rfl⟩
      exact ⟨masked_masked _ _, htag⟩
    · rintro ⟨rfl, htag⟩
      rw [masked_masked]
      exact ⟨htag, rfl⟩

/-- Under the key and the vector of zeros the session is sealed as a text that stands for it, and opens to it. -/
theorem sealed_payload_refines_small :
    let keyHex := List.replicate 64 '0'
    let text := List.replicate 32 '0' ++ ':' :: ("c90440536587e74f057087c62f4a4752".toList ++ ':' ::
      ("a471b4625b7250a9a6fc49b247c6a89d6ab9254d".toList ++ "430c9491b3b4f5c1fcf6474634f22691ab8ace07".toList ++
        "1cb7437cbac609350f35d2d1d7a604db0f8d5b85".toList ++ "51edb4cfd7e03bea603aa0f53585".toList))
    encodePayloadText smallGcm ⟨List.replicate 16 0, rfl⟩ smallSealedPayload keyHex = some text ∧
      sealedAs smallGcm (some text) keyHex = some (encodePayload smallSealedPayload) ∧
      (decodePayloadText smallGcm (some text) keyHex).map ProvisioningPayload.ofJson =
        .ok (some smallSealedPayload) := by
  intro keyHex text
  have hclaim := sealed_payload_refines smallGcm keyHex List.length_replicate
  have hsealed : encodePayloadText smallGcm ⟨List.replicate 16 0, rfl⟩ smallSealedPayload keyHex = some text := by
    decide +kernel
  obtain ⟨found, hfound, hreadable, hstands⟩ := hclaim.2.1
    (fun c hc => by rw [List.eq_of_mem_replicate hc]; rfl) ⟨List.replicate 16 0, rfl⟩ smallSealedPayload
    ⟨fun webhook hnone => (by cases hnone), fun webhook hnone => (by cases hnone)⟩
  obtain rfl : text = found := Option.some.inj (hsealed.symm.trans hfound)
  refine ⟨hsealed, hstands, ?_⟩
  rw [(hclaim.2.2.1 (some text) {}).mpr hreadable, hstands]
  rfl

end Small

end ConnectHub
