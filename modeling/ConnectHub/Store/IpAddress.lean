import Mathlib.Algebra.GroupWithZero.Nat
import Mathlib.Data.Nat.Notation

/-!
# Internet addresses

Addresses of both families as bits, the subnets they lie in and lists of subnets. An address of version 4 has a
mapped form among those of version 6, and lists treat both alike. An address of version 6 is written in its
pieces, with the first longest run of zeros left out; the text of a mapped address shows the two halves of the
address it stands for.
-/

namespace Store

/-- An address of either version. -/
inductive IpAddress
  | v4 (address : BitVec 32)
  | v6 (address : BitVec 128)
deriving DecidableEq

/-- The addresses that begin with the same bits. -/
structure Subnet (width : ℕ) where
  network : BitVec width
  bits : ℕ
deriving DecidableEq

/-- Whether an address lies in a subnet. -/
def Subnet.contains {width : ℕ} (subnet : Subnet width) (address : BitVec width) : Bool :=
  address >>> (width - subnet.bits) == subnet.network >>> (width - subnet.bits)

/-- The mapped form of an address of version 4. -/
def mappedAddress (address : BitVec 32) : BitVec 128 := BitVec.ofNat 128 (0xffff * 2 ^ 32 + address.toNat)

/-- The address of version 4 that an address of version 6 stands for, if it is a mapped one. -/
def unmapped (address : BitVec 128) : Option (BitVec 32) :=
  if address.toNat / 2 ^ 32 = 0xffff then some (BitVec.ofNat 32 (address.toNat % 2 ^ 32)) else none

/-- A list of subnets of both versions. -/
structure BlockList where
  v4 : List (Subnet 32) := []
  v6 : List (Subnet 128) := []

/-- Whether an address lies in a subnet of a list; a mapped address is looked up in both forms. -/
def BlockList.check (list : BlockList) : IpAddress → Bool
  | .v4 address => list.v4.any (·.contains address) || list.v6.any (·.contains (mappedAddress address))
  | .v6 address => list.v6.any (·.contains address) ||
      (unmapped address).any fun inner => list.v4.any (·.contains inner)

/-- The pieces of 16 bits of an address. -/
def pieces (address : BitVec 128) : List ℕ :=
  [address.toNat / 2 ^ 112, address.toNat / 2 ^ 96 % 2 ^ 16, address.toNat / 2 ^ 80 % 2 ^ 16,
   address.toNat / 2 ^ 64 % 2 ^ 16, address.toNat / 2 ^ 48 % 2 ^ 16, address.toNat / 2 ^ 32 % 2 ^ 16,
   address.toNat / 2 ^ 16 % 2 ^ 16, address.toNat % 2 ^ 16]

/-- How many zeros a list begins with. -/
def zeroRun (list : List ℕ) : ℕ := (list.takeWhile (· = 0)).length

/-- Where the first longest run of zeros begins that is longer than the given one. -/
def longestZeros (index longest : ℕ) (found : Option ℕ) : List ℕ → Option ℕ
  | [] => found
  | piece :: rest =>
    if longest < zeroRun (piece :: rest) then longestZeros (index + 1) (zeroRun (piece :: rest)) (some index) rest
    else longestZeros (index + 1) longest found rest

/-- Pieces in hexadecimal digits with colons between them. -/
def hexPieces : List ℕ → List Char
  | [] => []
  | [piece] => Nat.toDigits 16 piece
  | piece :: other :: rest => Nat.toDigits 16 piece ++ ':' :: hexPieces (other :: rest)

/-- The text of pieces; the first longest run of two zeros or more is left out. -/
def piecesText (list : List ℕ) : List Char :=
  match longestZeros 0 1 none list with
  | none => hexPieces list
  | some index => hexPieces (list.take index) ++ [':', ':'] ++ hexPieces ((list.drop index).dropWhile (· = 0))

/-- The text of an address of version 6. -/
def serializeV6 (address : BitVec 128) : String := String.ofList (piecesText (pieces address))

/-- Numbers in decimal digits with dots between them. -/
def dotted : List ℕ → List Char
  | [] => []
  | [octet] => Nat.toDigits 10 octet
  | octet :: other :: rest => Nat.toDigits 10 octet ++ '.' :: dotted (other :: rest)

/-- The octets of an address of version 4. -/
def octets (address : BitVec 32) : List ℕ :=
  [address.toNat / 2 ^ 24, address.toNat / 2 ^ 16 % 2 ^ 8, address.toNat / 2 ^ 8 % 2 ^ 8, address.toNat % 2 ^ 8]

/-- The text of an address of version 4. -/
def serializeV4 (address : BitVec 32) : String := String.ofList (dotted (octets address))

/-- The number of a mapped address. -/
theorem toNat_mappedAddress (address : BitVec 32) :
    (mappedAddress address).toNat = 0xffff * 2 ^ 32 + address.toNat := by
  have hlt := address.isLt
  rw [mappedAddress, BitVec.toNat_ofNat]
  apply Nat.mod_eq_of_lt
  omega

/-- A mapped address stands for the address it was made of. -/
theorem unmapped_mappedAddress (address : BitVec 32) : unmapped (mappedAddress address) = some address := by
  have hlt := address.isLt
  have hhigh : (0xffff * 2 ^ 32 + address.toNat) / 2 ^ 32 = 0xffff := by omega
  have hlow : (0xffff * 2 ^ 32 + address.toNat) % 2 ^ 32 = address.toNat := by omega
  rw [unmapped, toNat_mappedAddress, if_pos hhigh, hlow, BitVec.ofNat_toNat, BitVec.setWidth_eq]

/-- The pieces of a mapped address. -/
theorem pieces_mappedAddress (address : BitVec 32) :
    pieces (mappedAddress address) =
      [0, 0, 0, 0, 0, 0xffff, address.toNat / 2 ^ 16, address.toNat % 2 ^ 16] := by
  have hlt := address.isLt
  simp only [pieces, toNat_mappedAddress, List.cons.injEq, and_true]
  omega

/-- The text of a mapped address shows the halves of the address it stands for. -/
theorem serializeV6_mappedAddress (address : BitVec 32) :
    serializeV6 (mappedAddress address) = String.ofList ([':', ':', 'f', 'f', 'f', 'f', ':'] ++
      (Nat.toDigits 16 (address.toNat / 2 ^ 16) ++ ':' :: Nat.toDigits 16 (address.toNat % 2 ^ 16))) := by
  have hfff : Nat.toDigits 16 0xffff = ['f', 'f', 'f', 'f'] := by decide
  have hindex : ∀ high low : ℕ, longestZeros 0 1 none [0, 0, 0, 0, 0, 0xffff, high, low] = some 0 := by
    intro high low
    by_cases hhigh : high = 0
    · by_cases hlow : low = 0
      · simp [longestZeros, zeroRun, hhigh, hlow]
      · simp [longestZeros, zeroRun, hhigh, hlow]
    · by_cases hlow : low = 0
      · simp [longestZeros, zeroRun, hhigh, hlow]
      · simp [longestZeros, zeroRun, hhigh, hlow]
  have hrest : ∀ high low : ℕ, ([0, 0, 0, 0, 0, 0xffff, high, low].drop 0).dropWhile (· = 0) =
      [0xffff, high, low] := by
    intro high low
    simp
  rw [serializeV6, pieces_mappedAddress, piecesText, hindex]
  simp only [hrest, List.take_zero, hexPieces, hfff, List.nil_append, List.cons_append]

end Store
