import Mathlib.Data.List.Basic

/-!
# Base64

Bytes as groups of six bits and back. Three bytes make four groups; one or two bytes at the end make two or
three, whose unused bits are zero. A list of groups stands for bytes exactly when they come back as the same
groups. The text of the bytes has one letter for each group and is filled up with padding; texts are lists of
code units.
-/

namespace Store

/-- The groups of six bits of some bytes. -/
def toSextets : List UInt8 → List Nat
  | a :: b :: c :: bytes =>
    a.toNat / 4 :: (a.toNat % 4 * 16 + b.toNat / 16) :: (b.toNat % 16 * 4 + c.toNat / 64) :: c.toNat % 64 ::
      toSextets bytes
  | [a, b] => [a.toNat / 4, a.toNat % 4 * 16 + b.toNat / 16, b.toNat % 16 * 4]
  | [a] => [a.toNat / 4, a.toNat % 4 * 16]
  | [] => []

/-- The bytes of some groups of six bits; bits that fill no byte are dropped. -/
def ofSextets : List Nat → List UInt8
  | a :: b :: c :: d :: sextets =>
    UInt8.ofNat (a * 4 + b / 16) :: UInt8.ofNat (b % 16 * 16 + c / 4) :: UInt8.ofNat (c % 4 * 64 + d) ::
      ofSextets sextets
  | [a, b, c] => [UInt8.ofNat (a * 4 + b / 16), UInt8.ofNat (b % 16 * 16 + c / 4)]
  | [a, b] => [UInt8.ofNat (a * 4 + b / 16)]
  | [_] => []
  | [] => []

/-- Groups that are six bits wide. -/
def Sextets (sextets : List Nat) : Prop := ∀ sextet ∈ sextets, sextet < 64

/-- A byte that is written from its value is the byte. -/
theorem ofNat_eq_of_toNat {n : Nat} {a : UInt8} (h : n = a.toNat) : UInt8.ofNat n = a := by
  rw [h, UInt8.ofNat_toNat]

/-- Bytes come back from their groups. -/
theorem ofSextets_toSextets (bytes : List UInt8) : ofSextets (toSextets bytes) = bytes := by
  induction bytes using toSextets.induct with
  | case1 a b c bytes ih =>
    have ha := a.toNat_lt
    have hb := b.toNat_lt
    have hc := c.toNat_lt
    have hfirst : UInt8.ofNat (a.toNat / 4 * 4 + (a.toNat % 4 * 16 + b.toNat / 16) / 16) = a :=
      ofNat_eq_of_toNat (by omega)
    have hsecond : UInt8.ofNat ((a.toNat % 4 * 16 + b.toNat / 16) % 16 * 16 +
        (b.toNat % 16 * 4 + c.toNat / 64) / 4) = b := ofNat_eq_of_toNat (by omega)
    have hthird : UInt8.ofNat ((b.toNat % 16 * 4 + c.toNat / 64) % 4 * 64 + c.toNat % 64) = c :=
      ofNat_eq_of_toNat (by omega)
    rw [toSextets, ofSextets, hfirst, hsecond, hthird, ih]
  | case2 a b =>
    have ha := a.toNat_lt
    have hb := b.toNat_lt
    have hfirst : UInt8.ofNat (a.toNat / 4 * 4 + (a.toNat % 4 * 16 + b.toNat / 16) / 16) = a :=
      ofNat_eq_of_toNat (by omega)
    have hsecond : UInt8.ofNat ((a.toNat % 4 * 16 + b.toNat / 16) % 16 * 16 + b.toNat % 16 * 4 / 4) = b :=
      ofNat_eq_of_toNat (by omega)
    rw [toSextets, ofSextets, hfirst, hsecond]
  | case3 a =>
    have ha := a.toNat_lt
    have hfirst : UInt8.ofNat (a.toNat / 4 * 4 + a.toNat % 4 * 16 / 16) = a := ofNat_eq_of_toNat (by omega)
    rw [toSextets, ofSextets, hfirst]
  | case4 => rfl

/-- The groups of bytes are six bits wide. -/
theorem sextets_toSextets (bytes : List UInt8) : Sextets (toSextets bytes) := by
  induction bytes using toSextets.induct with
  | case1 a b c bytes ih =>
    have ha := a.toNat_lt
    have hb := b.toNat_lt
    have hc := c.toNat_lt
    simp only [Sextets, toSextets, List.forall_mem_cons] at ih ⊢
    exact ⟨by omega, by omega, by omega, by omega, ih⟩
  | case2 a b =>
    have ha := a.toNat_lt
    have hb := b.toNat_lt
    intro sextet hsextet
    simp only [toSextets, List.mem_cons, List.not_mem_nil, or_false] at hsextet
    omega
  | case3 a =>
    have ha := a.toNat_lt
    intro sextet hsextet
    simp only [toSextets, List.mem_cons, List.not_mem_nil, or_false] at hsextet
    omega
  | case4 =>
    intro sextet hsextet
    cases hsextet

/-- How many groups some bytes make. -/
theorem length_toSextets (bytes : List UInt8) : (toSextets bytes).length = (bytes.length * 4 + 2) / 3 := by
  induction bytes using toSextets.induct with
  | case1 a b c bytes ih =>
    simp only [toSextets, List.length_cons, ih]
    omega
  | case2 a b => simp only [toSextets, List.length_cons, List.length_nil]
  | case3 a => simp only [toSextets, List.length_cons, List.length_nil]
  | case4 => rfl

/-- How many bytes some groups make. -/
theorem length_ofSextets (sextets : List Nat) : (ofSextets sextets).length = sextets.length * 3 / 4 := by
  induction sextets using ofSextets.induct with
  | case1 a b c d sextets ih =>
    simp only [ofSextets, List.length_cons, ih]
    omega
  | case2 a b c => simp only [ofSextets, List.length_cons, List.length_nil]
  | case3 a b => simp only [ofSextets, List.length_cons, List.length_nil]
  | case4 a => simp only [ofSextets, List.length_cons, List.length_nil]
  | case5 => rfl

/-- Whole quanta of groups are read on their own. -/
theorem ofSextets_append {sextets : List Nat} (others : List Nat) (h : sextets.length % 4 = 0) :
    ofSextets (sextets ++ others) = ofSextets sextets ++ ofSextets others := by
  induction sextets using ofSextets.induct with
  | case1 a b c d sextets ih =>
    have hrest : sextets.length % 4 = 0 := by
      simp only [List.length_cons] at h
      omega
    simp only [List.cons_append, ofSextets, ih hrest]
  | case2 a b c => cases h
  | case3 a b => cases h
  | case4 a => cases h
  | case5 => rfl

/-- Whole triples of bytes are written on their own. -/
theorem toSextets_append {bytes : List UInt8} (others : List UInt8) (h : bytes.length % 3 = 0) :
    toSextets (bytes ++ others) = toSextets bytes ++ toSextets others := by
  induction bytes using toSextets.induct with
  | case1 a b c bytes ih =>
    have hrest : bytes.length % 3 = 0 := by
      simp only [List.length_cons] at h
      omega
    simp only [List.cons_append, toSextets, ih hrest]
  | case2 a b => cases h
  | case3 a => cases h
  | case4 => rfl

/-- Whole quanta of groups come back from their bytes. -/
theorem toSextets_ofSextets_of_mod {sextets : List Nat} (h : Sextets sextets) (hlength : sextets.length % 4 = 0) :
    toSextets (ofSextets sextets) = sextets := by
  induction sextets using ofSextets.induct with
  | case1 a b c d sextets ih =>
    simp only [Sextets, List.forall_mem_cons] at h
    obtain ⟨ha, hb, hc, hd, hrest⟩ := h
    have hlength' : sextets.length % 4 = 0 := by
      simp only [List.length_cons] at hlength
      omega
    simp only [ofSextets, toSextets, UInt8.toNat_ofNat', ih hrest hlength', List.cons.injEq, and_true]
    omega
  | case2 a b c => cases hlength
  | case3 a b => cases hlength
  | case4 a => cases hlength
  | case5 => rfl

/-- Groups come back from their bytes exactly when those of the last quantum do. -/
theorem toSextets_ofSextets_append {sextets others : List Nat} (h : Sextets sextets)
    (hlength : sextets.length % 4 = 0) :
    toSextets (ofSextets (sextets ++ others)) = sextets ++ others ↔ toSextets (ofSextets others) = others := by
  have hbytes : (ofSextets sextets).length % 3 = 0 := by
    rw [length_ofSextets]
    omega
  rw [ofSextets_append others hlength, toSextets_append _ hbytes, toSextets_ofSextets_of_mod h hlength,
    List.append_right_inj]

/-- The code unit of the padding. -/
def padUnit : Nat := 61

/-- The letter of a group of six bits. -/
def sextetUnit (sextet : Nat) : Nat :=
  if sextet < 26 then sextet + 65
  else if sextet < 52 then sextet + 71
  else if sextet < 62 then sextet - 4
  else if sextet = 62 then 43
  else 47

/-- The group of six bits of a letter. -/
def unitSextet (unit : Nat) : Option Nat :=
  if 65 ≤ unit ∧ unit ≤ 90 then some (unit - 65)
  else if 97 ≤ unit ∧ unit ≤ 122 then some (unit - 71)
  else if 48 ≤ unit ∧ unit ≤ 57 then some (unit + 4)
  else if unit = 43 then some 62
  else if unit = 47 then some 63
  else none

/-- A group comes back from its letter. -/
theorem unitSextet_sextetUnit {sextet : Nat} (h : sextet < 64) : unitSextet (sextetUnit sextet) = some sextet := by
  have hall : ∀ sextet < 64, unitSextet (sextetUnit sextet) = some sextet := by decide
  exact hall sextet h

/-- A letter is the letter of its group. -/
theorem sextetUnit_of_unitSextet {unit sextet : Nat} (h : unitSextet unit = some sextet) :
    sextetUnit sextet = unit ∧ sextet < 64 := by
  unfold unitSextet at h
  unfold sextetUnit
  split at h
  · cases h
    grind
  · grind

/-- No letter is the padding. -/
theorem sextetUnit_ne_pad (sextet : Nat) : sextetUnit sextet ≠ padUnit := by
  unfold sextetUnit padUnit
  grind

/-- The text of some bytes without padding. -/
def encodeUnpadded (bytes : List UInt8) : List Nat := (toSextets bytes).map sextetUnit

/-- How much padding the text of some bytes has. -/
def paddingOf (bytes : List UInt8) : Nat := (3 - bytes.length % 3) % 3

/-- The text of some bytes. -/
def encodeBase64 (bytes : List UInt8) : List Nat :=
  encodeUnpadded bytes ++ List.replicate (paddingOf bytes) padUnit

/-- How long the text of some bytes is. -/
theorem length_encodeBase64 (bytes : List UInt8) : (encodeBase64 bytes).length = 4 * ((bytes.length + 2) / 3) := by
  simp only [encodeBase64, encodeUnpadded, paddingOf, List.length_append, List.length_map, length_toSextets,
    List.length_replicate]
  omega

/-- Whole triples of bytes are encoded on their own. -/
theorem encodeBase64_append {bytes : List UInt8} (others : List UInt8) (h : bytes.length % 3 = 0) :
    encodeBase64 (bytes ++ others) = encodeBase64 bytes ++ encodeBase64 others := by
  have hnone : paddingOf bytes = 0 := by
    unfold paddingOf
    omega
  have hsame : paddingOf (bytes ++ others) = paddingOf others := by
    unfold paddingOf
    rw [List.length_append]
    omega
  simp only [encodeBase64, encodeUnpadded, toSextets_append others h, hnone, hsame, List.map_append,
    List.replicate_zero, List.append_nil, List.append_assoc]

end Store
