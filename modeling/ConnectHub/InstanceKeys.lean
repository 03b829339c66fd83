import ConnectHub.InstanceImport
import Mathlib.Data.List.Basic

/-!
# The keys of cached instances

A lookup by the id or the name of an instance of a product has one key, and no two lookups share theirs: the
parts of a key are written as components of an address, which read back as the bytes of their texts and hold no
colon. The keys that are deleted for an instance are those of every lookup that may find it, but for a lookup
of an empty remote id.
-/

namespace ConnectHub

section Components

/-- The value of a digit of an escape. -/
def hexDigitValue (c : Char) : ℕ := if c.isDigit then c.toNat - 48 else c.toNat - 55

/-- The bytes of a component of an address. -/
def componentBytes : List Char → List UInt8
  | '%' :: high :: low :: rest =>
    UInt8.ofNat (hexDigitValue high * 16 + hexDigitValue low) :: componentBytes rest
  | c :: rest => String.utf8EncodeChar c ++ componentBytes rest
  | [] => []

/-- A byte as it is escaped. -/
def escapedByte (byte : UInt8) : List Char :=
  ['%', (Nat.digitChar (byte.toNat / 16)).toUpper, (Nat.digitChar (byte.toNat % 16)).toUpper]

/-- A character as it is written. -/
def escapedChar (c : Char) : List Char :=
  if isUriUnreserved c then [c] else (String.singleton c).toUTF8.toList.flatMap escapedByte

/-- The bytes of a list are those it was made of. -/
theorem toList_toByteArray (bytes : List UInt8) : bytes.toByteArray.toList = bytes := by
  have hloop : ∀ (array : ByteArray) (i : ℕ) (before : List UInt8),
      ByteArray.toList.loop array i before = before.reverse ++ array.data.toList.drop i := by
    intro array i before
    induction i, before using ByteArray.toList.loop.induct array with
    | case1 i before hlt ih =>
      have hdrop : array.data.toList.drop i = array.get! i :: array.data.toList.drop (i + 1) := by
        rw [List.drop_eq_getElem_cons hlt]
        congr 1
        exact (getElem!_pos array.data i hlt).symm
      rw [ByteArray.toList.loop, if_pos hlt, ih, hdrop, List.reverse_cons, List.append_assoc,
        List.singleton_append]
    | case2 i before hge =>
      have hdrop : array.data.toList.drop i = [] := List.drop_of_length_le (Nat.le_of_not_lt hge)
      rw [ByteArray.toList.loop, if_neg hge, hdrop, List.append_nil]
  rw [ByteArray.toList, hloop]
  exact List.toList_data_toByteArray

/-- A digit of an escape reads back. -/
theorem hexDigitValue_digitChar {n : ℕ} (h : n < 16) : hexDigitValue (Nat.digitChar n).toUpper = n := by
  revert n
  decide

/-- So do escaped bytes. -/
theorem componentBytes_escaped (bytes : List UInt8) (rest : List Char) :
    componentBytes (bytes.flatMap escapedByte ++ rest) = bytes ++ componentBytes rest := by
  induction bytes with
  | nil => rfl
  | cons byte bytes ih =>
    have hhigh : byte.toNat / 16 < 16 := by
      have := byte.toNat_lt
      omega
    rw [List.flatMap_cons, List.append_assoc, escapedByte, List.cons_append, List.cons_append, List.cons_append,
      List.nil_append, componentBytes, ih, hexDigitValue_digitChar hhigh,
      hexDigitValue_digitChar (Nat.mod_lt _ (by decide)), Nat.mul_comm, Nat.div_add_mod, UInt8.ofNat_toNat]
    rfl

/-- So does a character, whether it is escaped or not. -/
theorem componentBytes_char (c : Char) (rest : List Char) :
    componentBytes (escapedChar c ++ rest) = String.utf8EncodeChar c ++ componentBytes rest := by
  unfold escapedChar
  split
  · next hplain =>
    have hpercent : c ≠ '%' := fun hc => by
      rw [hc] at hplain
      revert hplain
      decide
    rw [List.singleton_append, componentBytes]
    intro _ _ _ hc
    exact absurd hc hpercent
  · have hbytes : (String.singleton c).toUTF8.toList = String.utf8EncodeChar c := by
      change (String.singleton c).toByteArray.toList = _
      rw [String.toByteArray_singleton, List.utf8Encode_singleton, toList_toByteArray]
    rw [hbytes, componentBytes_escaped]

/-- A text is written character by character. -/
theorem toList_encodeURIComponent (text : String) :
    (encodeURIComponent text).toList = text.toList.flatMap escapedChar := by
  exact String.toList_ofList

/-- A component reads back as the bytes of its text. -/
theorem componentBytes_encodeURIComponent (text : String) :
    componentBytes (encodeURIComponent text).toList = text.toList.flatMap String.utf8EncodeChar := by
  rw [toList_encodeURIComponent]
  induction text.toList with
  | nil => rfl
  | cons c chars ih => rw [List.flatMap_cons, List.flatMap_cons, componentBytes_char, ih]

/-- Different texts are different components. -/
theorem encodeURIComponent_injective : Function.Injective encodeURIComponent := by
  intro text other hsame
  have hbytes : text.toList.flatMap String.utf8EncodeChar = other.toList.flatMap String.utf8EncodeChar := by
    rw [← componentBytes_encodeURIComponent, hsame, componentBytes_encodeURIComponent]
  rw [← String.toByteArray_inj, ← String.utf8Encode_toList, ← String.utf8Encode_toList]
  exact congrArg List.toByteArray hbytes

/-- No digit of an escape is a colon. -/
theorem colon_ne_digit {n : ℕ} (h : n < 16) : ':' ≠ (Nat.digitChar n).toUpper := by
  revert n
  decide

/-- No component holds a colon. -/
theorem colon_notMem_encodeURIComponent (text : String) : ':' ∉ (encodeURIComponent text).toList := by
  rw [toList_encodeURIComponent]
  intro hmem
  obtain ⟨c, -, hc⟩ := List.mem_flatMap.mp hmem
  unfold escapedChar at hc
  split at hc
  · next hplain =>
    rw [← List.mem_singleton.mp hc] at hplain
    revert hplain
    decide
  · obtain ⟨byte, -, hbyte⟩ := List.mem_flatMap.mp hc
    have hhigh : byte.toNat / 16 < 16 := by
      have := byte.toNat_lt
      omega
    simp only [escapedByte, List.mem_cons, List.not_mem_nil, or_false] at hbyte
    rcases hbyte with hpercent | hdigit | hdigit
    · revert hpercent
      decide
    · exact colon_ne_digit hhigh hdigit
    · exact colon_ne_digit (Nat.mod_lt _ (by decide)) hdigit

end Components

section Keys

/-- What an instance is looked up by. -/
inductive LookupKind
  | id | name
deriving DecidableEq, Repr

/-- The part of a key that tells. -/
def LookupKind.text : LookupKind → String
  | .id => "id"
  | .name => "name"

/-- Whether an instance is found by an identifier. -/
def Instance.answers (item : Instance) (identifier : String) : LookupKind → Bool
  | .name => item.instanceName = identifier
  | .id => item.id.value = identifier || item.providerInstanceId = some identifier

/-- Two texts that go on after the first colon are the same before and after it. -/
theorem eq_of_colon {before other after rest : List Char} (hbefore : ':' ∉ before) (hother : ':' ∉ other)
    (h : before ++ ':' :: after = other ++ ':' :: rest) : before = other ∧ after = rest := by
  induction before generalizing other with
  | nil =>
    cases other with
    | nil => exact ⟨rfl, List.tail_eq_of_cons_eq h⟩
    | cons c other =>
      have hhead := List.head_eq_of_cons_eq h
      exact absurd (hhead ▸ List.mem_cons_self) hother
  | cons c before ih =>
    cases other with
    | nil =>
      have hhead := List.head_eq_of_cons_eq h
      exact absurd (hhead ▸ List.mem_cons_self) hbefore
    | cons d other =>
      obtain ⟨hhead, htail⟩ := List.cons_eq_cons.mp h
      obtain ⟨hsame, hafter⟩ := ih (fun hmem => hbefore (List.mem_cons_of_mem _ hmem))
        (fun hmem => hother (List.mem_cons_of_mem _ hmem)) htail
      exact ⟨by rw [hhead, hsame], hafter⟩

/-- The parts of a key are set apart by colons. -/
theorem toList_instanceCacheKey (productId : Uuid) (kind identifier : String) :
    (instanceCacheKey productId kind identifier).toList = "instance:v2:".toList ++
      ((encodeURIComponent productId.value).toList ++
        ':' :: (kind.toList ++ ':' :: (encodeURIComponent identifier).toList)) := by
  have hcolon : ":".toList = [':'] := rfl
  unfold instanceCacheKey
  rw [String.toList_append, String.toList_append, String.toList_append, String.toList_append, String.toList_append,
    hcolon, List.append_assoc, List.append_assoc, List.append_assoc, List.append_assoc, List.singleton_append,
    List.singleton_append]

/-- No two lookups share their key. -/
theorem instanceCacheKey_injective {productId otherProduct : Uuid} {kind otherKind : LookupKind}
    {identifier other : String}
    (h : instanceCacheKey productId kind.text identifier = instanceCacheKey otherProduct otherKind.text other) :
    productId = otherProduct ∧ kind = otherKind ∧ identifier = other := by
  have hlist := congrArg String.toList h
  rw [toList_instanceCacheKey, toList_instanceCacheKey] at hlist
  replace hlist := List.append_cancel_left hlist
  obtain ⟨hproduct, hlist⟩ := eq_of_colon (colon_notMem_encodeURIComponent _) (colon_notMem_encodeURIComponent _)
    hlist
  have hkind : ∀ kind : LookupKind, ':' ∉ kind.text.toList := by
    intro kind
    cases kind <;> decide
  obtain ⟨hsame, hidentifier⟩ := eq_of_colon (hkind kind) (hkind otherKind) hlist
  refine ⟨?_, ?_, ?_⟩
  · have hvalue := encodeURIComponent_injective (String.toList_injective hproduct)
    cases productId
    cases otherProduct
    cases hvalue
    rfl
  · have htext := String.toList_injective hsame
    cases kind <;> cases otherKind
    · rfl
    · exact absurd htext (by decide)
    · exact absurd htext (by decide)
    · rfl
  · exact encodeURIComponent_injective (String.toList_injective hidentifier)

/-- The key of each lookup that may find an instance is deleted with it, but for one of an empty remote id. -/
theorem mem_instanceCacheKeys {item : Instance} {kind : LookupKind} {identifier : String}
    (hfound : item.answers identifier kind = true) (hnamed : kind = .id → identifier ≠ "") :
    instanceCacheKey item.productId kind.text identifier ∈ instanceCacheKeys item := by
  rw [instanceCacheKeys, List.mem_eraseDups, List.mem_append]
  cases kind with
  | name =>
    rw [← of_decide_eq_true hfound]
    exact .inl (List.mem_cons_of_mem _ List.mem_cons_self)
  | id =>
    rcases Bool.or_eq_true_iff.mp hfound with hid | hremote
    · rw [← of_decide_eq_true hid]
      exact .inl List.mem_cons_self
    · have hrecorded := of_decide_eq_true hremote
      have htruthy : truthy item.providerInstanceId = true := by
        rw [hrecorded]
        exact bne_iff_ne.mpr (hnamed rfl)
      rw [if_pos htruthy, hrecorded]
      exact .inr List.mem_cons_self

end Keys

end ConnectHub
