import Mathlib.Data.List.Basic

/-!
# Reading UTF-8

Bytes are read one by one. A character that is under way knows how many bytes it still needs and what the next one may
be; a byte that does not fit ends it as a replacement character and is read again from the start. Every text comes back
from its bytes.
-/

namespace Store

/-- A character under way: how many bytes it needs, the range of the next one, and its value so far. -/
structure Utf8State where
  needed : ℕ
  lower : ℕ := 0x80
  upper : ℕ := 0xBF
  value : ℕ

/-- The character that stands for bytes that are none. -/
def replacement : Char := Char.ofNat 0xFFFD

/-- The first byte of a character of several bytes. -/
def utf8Lead (byte : ℕ) : Option Utf8State :=
  if 0xC2 ≤ byte ∧ byte ≤ 0xDF then some { needed := 1, value := byte % 0x20 }
  else if 0xE0 ≤ byte ∧ byte ≤ 0xEF then
    some { needed := 2, lower := if byte = 0xE0 then 0xA0 else 0x80, upper := if byte = 0xED then 0x9F else 0xBF,
           value := byte % 0x10 }
  else if 0xF0 ≤ byte ∧ byte ≤ 0xF4 then
    some { needed := 3, lower := if byte = 0xF0 then 0x90 else 0x80, upper := if byte = 0xF4 then 0x8F else 0xBF,
           value := byte % 0x08 }
  else none

/-- Read a byte with no character under way. -/
def utf8First (byte : ℕ) : List Char × Option Utf8State :=
  if byte < 0x80 then ([Char.ofNat byte], none)
  else match utf8Lead byte with
    | some state => ([], some state)
    | none => ([replacement], none)

/-- Read a byte: the characters that are done, and the one under way. -/
def utf8Next : Option Utf8State → ℕ → List Char × Option Utf8State
  | none, byte => utf8First byte
  | some state, byte =>
    if state.lower ≤ byte ∧ byte ≤ state.upper then
      if state.needed = 1 then ([Char.ofNat (state.value * 0x40 + byte % 0x40)], none)
      else ([], some { needed := state.needed - 1, value := state.value * 0x40 + byte % 0x40 })
    else (replacement :: (utf8First byte).1, (utf8First byte).2)

/-- The characters of some bytes. -/
def utf8Decode : Option Utf8State → List UInt8 → List Char
  | none, [] => []
  | some _, [] => [replacement]
  | state, byte :: bytes => (utf8Next state byte.toNat).1 ++ utf8Decode (utf8Next state byte.toNat).2 bytes

/-- A byte that begins a character of several bytes. -/
theorem utf8Decode_lead {state : Utf8State} {byte : ℕ} (bytes : List UInt8) (hlead : utf8Lead byte = some state)
    (hlower : 0x80 ≤ byte) (hupper : byte < 256) :
    utf8Decode none (UInt8.ofNat byte :: bytes) = utf8Decode (some state) bytes := by
  rw [utf8Decode, UInt8.toNat_ofNat', Nat.mod_eq_of_lt hupper, utf8Next, utf8First, if_neg (by omega), hlead]
  rfl

/-- A byte that continues the character under way. -/
theorem utf8Decode_more {state : Utf8State} {byte : ℕ} (bytes : List UInt8) (hlower : state.lower ≤ byte)
    (hupper : byte ≤ state.upper) (hbyte : byte < 256) (hneeded : state.needed ≠ 1) :
    utf8Decode (some state) (UInt8.ofNat byte :: bytes) =
      utf8Decode (some { needed := state.needed - 1, value := state.value * 0x40 + byte % 0x40 }) bytes := by
  rw [utf8Decode, UInt8.toNat_ofNat', Nat.mod_eq_of_lt hbyte, utf8Next, if_pos ⟨hlower, hupper⟩, if_neg hneeded,
    List.nil_append]

/-- A byte that ends the character under way. -/
theorem utf8Decode_last {state : Utf8State} {byte : ℕ} (bytes : List UInt8) (hlower : state.lower ≤ byte)
    (hupper : byte ≤ state.upper) (hbyte : byte < 256) (hneeded : state.needed = 1) :
    utf8Decode (some state) (UInt8.ofNat byte :: bytes) =
      Char.ofNat (state.value * 0x40 + byte % 0x40) :: utf8Decode none bytes := by
  rw [utf8Decode, UInt8.toNat_ofNat', Nat.mod_eq_of_lt hbyte, utf8Next, if_pos ⟨hlower, hupper⟩, if_pos hneeded,
    List.singleton_append]

/-- A character that is written from its value. -/
theorem ofNat_eq_char {c : Char} {n : ℕ} (h : n = c.val.toNat) : Char.ofNat n = c := by
  rw [h]
  exact Char.ofNat_toNat c

/-- A character comes back from its bytes. -/
theorem utf8Decode_char (c : Char) (bytes : List UInt8) :
    utf8Decode none (String.utf8EncodeChar c ++ bytes) = c :: utf8Decode none bytes := by
  have hvalid : c.val.toNat < 0xD800 ∨ 0xDFFF < c.val.toNat ∧ c.val.toNat < 0x110000 := c.valid
  unfold String.utf8EncodeChar
  simp only
  generalize hv : c.val.toNat = v at hvalid
  split
  · have hbyte : v < 2 ^ 8 := by omega
    rw [List.singleton_append, utf8Decode, UInt8.toNat_ofNat', Nat.mod_eq_of_lt hbyte, utf8Next, utf8First,
      if_pos (by omega), ofNat_eq_char hv.symm]
    rfl
  · split
    · have hlead : utf8Lead (v / 64 % 0x20 + 0xc0) = some { needed := 1, value := v / 64 } := by
        rw [utf8Lead, if_pos (by omega)]
        congr 2
        omega
      have hchar : Char.ofNat (v / 64 * 0x40 + (v % 0x40 + 0x80) % 0x40) = c := ofNat_eq_char (by omega)
      rw [List.cons_append, List.singleton_append, utf8Decode_lead _ hlead (by omega) (by omega),
        utf8Decode_last _ (by simp) (by simp; omega) (by omega) rfl, hchar]
    · split
      · have hvalue : (v / 4096 % 0x10 + 0xe0) % 0x10 = v / 4096 := by omega
        have hfirst : (v / 4096 % 0x10 + 0xe0 = 0xE0) = (v / 4096 = 0) := propext (by omega)
        have hsurrogates : (v / 4096 % 0x10 + 0xe0 = 0xED) = (v / 4096 = 13) := propext (by omega)
        have hlead : utf8Lead (v / 4096 % 0x10 + 0xe0) =
            some { needed := 2, lower := if v / 4096 = 0 then 0xA0 else 0x80,
                   upper := if v / 4096 = 13 then 0x9F else 0xBF, value := v / 4096 } := by
          rw [utf8Lead, if_neg (by omega), if_pos (by omega)]
          simp only [hvalue, hfirst, hsurrogates]
        have hchar : Char.ofNat ((v / 4096 * 0x40 + (v / 64 % 0x40 + 0x80) % 0x40) * 0x40 +
            (v % 0x40 + 0x80) % 0x40) = c := ofNat_eq_char (by omega)
        rw [List.cons_append, List.cons_append, List.singleton_append,
          utf8Decode_lead _ hlead (by omega) (by omega),
          utf8Decode_more _ (by simp only; split <;> omega) (by simp only; split <;> omega) (by omega) (by simp),
          utf8Decode_last _ (by simp) (by simp; omega) (by omega) rfl, hchar]
      · have hvalue : (v / 262144 % 0x08 + 0xf0) % 0x08 = v / 262144 := by omega
        have hfirst : (v / 262144 % 0x08 + 0xf0 = 0xF0) = (v / 262144 = 0) := propext (by omega)
        have htop : (v / 262144 % 0x08 + 0xf0 = 0xF4) = (v / 262144 = 4) := propext (by omega)
        have hlead : utf8Lead (v / 262144 % 0x08 + 0xf0) =
            some { needed := 3, lower := if v / 262144 = 0 then 0x90 else 0x80,
                   upper := if v / 262144 = 4 then 0x8F else 0xBF, value := v / 262144 } := by
          rw [utf8Lead, if_neg (by omega), if_neg (by omega), if_pos (by omega)]
          simp only [hvalue, hfirst, htop]
        have hchar : Char.ofNat (((v / 262144 * 0x40 + (v / 4096 % 0x40 + 0x80) % 0x40) * 0x40 +
            (v / 64 % 0x40 + 0x80) % 0x40) * 0x40 + (v % 0x40 + 0x80) % 0x40) = c := ofNat_eq_char (by omega)
        rw [List.cons_append, List.cons_append, List.cons_append, List.singleton_append,
          utf8Decode_lead _ hlead (by omega) (by omega),
          utf8Decode_more _ (by simp only; split <;> omega) (by simp only; split <;> omega) (by omega) (by simp),
          utf8Decode_more _ (by simp) (by simp; omega) (by omega) (by simp),
          utf8Decode_last _ (by simp) (by simp; omega) (by omega) rfl, hchar]

/-- A text comes back from its bytes. -/
theorem utf8Decode_encode (text : List Char) : utf8Decode none (text.flatMap String.utf8EncodeChar) = text := by
  induction text with
  | nil => rfl
  | cons c text ih => rw [List.flatMap_cons, utf8Decode_char, ih]

end Store
