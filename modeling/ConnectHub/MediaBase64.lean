import ConnectHub.Store.Base64
import Mathlib.Data.List.DropRight

/-!
# Inline media

Media may come inside a request as base64, behind a data URI or alone. It is checked chunk by chunk, and
decoded chunk by chunk afterwards, with spaces and line breaks left out. A text is a list of UTF-16 code units.
What is accepted is exactly the canonical base64 of some bytes within the limit, whatever the chunks, and what
is decoded is those bytes.
-/

namespace ConnectHub

open Store

/-- How the preparation of media fails. -/
inductive MediaFailure
  | badRequest (message : String)
  | payloadTooLarge (message : String)
  | interrupted
deriving DecidableEq, Repr

/-- The code units of a plain text. -/
def ascii (text : String) : List Nat := text.toList.map Char.toNat

/-- How many code units a chunk has. -/
def mediaChunk : Nat := 64 * 1024

/-- Tabs, line feeds, carriage returns and spaces. -/
def isBlankUnit (unit : Nat) : Bool := [9, 10, 13, 32].contains unit

/-- A text without its blanks. -/
def compact (text : List Nat) : List Nat := text.filter fun unit => !isBlankUnit unit

/-- The chunks of a text, read by a loop that may go round as often as the text is long. -/
def chunks (size : Nat) : Nat → List Nat → List (List Nat)
  | 0, _ => []
  | _ + 1, [] => []
  | fuel + 1, text => text.take size :: chunks size fuel (text.drop size)

/-- The last code units of a text. -/
def lastUnits (count : Nat) (text : List Nat) : List Nat := text.drop (text.length - count)

section Header

/-- Letters, digits and the underscore. -/
def isWordUnit (unit : Nat) : Bool :=
  (48 ≤ unit && unit ≤ 57) || (65 ≤ unit && unit ≤ 90) || (97 ≤ unit && unit ≤ 122) || unit == 95

/-- The code units of a media type. -/
def isTypeUnit (unit : Nat) : Bool := isWordUnit unit || (ascii "!#$&^.+-").contains unit

/-- The code units of a charset. -/
def isCharsetUnit (unit : Nat) : Bool := isWordUnit unit || unit == 45

/-- A letter in lower case. -/
def lowerUnit (unit : Nat) : Nat := if 65 ≤ unit ∧ unit ≤ 90 then unit + 32 else unit

/-- The rest of a text that begins with a word, in whatever case. -/
def expectFold (word text : List Nat) : Option (List Nat) :=
  if (text.take word.length).map lowerUnit = word then some (text.drop word.length) else none

/-- The media type at the beginning of a text, if there is one, and the rest. -/
def matchType (text : List Nat) : Option (Option (List Nat) × List Nat) :=
  let first := text.takeWhile isTypeUnit
  if first = [] then some (none, text)
  else
    match text.dropWhile isTypeUnit with
    | 47 :: more =>
      let second := more.takeWhile isTypeUnit
      if second = [] then none else some (some (first ++ 47 :: second), more.dropWhile isTypeUnit)
    | _ => none

/-- The rest of a text after a charset, if there is one. -/
def matchCharset (text : List Nat) : Option (List Nat) :=
  match expectFold (ascii ";charset=") text with
  | none => some text
  | some more => if more.takeWhile isCharsetUnit = [] then none else some (more.dropWhile isCharsetUnit)

/-- The media type that the header of a data URI names, if the header is well formed. -/
def matchHeader (header : List Nat) : Option (Option (List Nat)) := do
  let rest ← expectFold (ascii "data:") header
  let found ← matchType rest
  let rest ← matchCharset found.2
  let rest ← expectFold (ascii ";base64,") rest
  if rest = [] then some found.1 else none

/-- Where the data of a value begins, and the media type that its header names. -/
def mediaHeader (value : List Nat) : Except MediaFailure (Nat × Option (List Nat)) :=
  if (ascii "data:").isPrefixOf value then
    if 44 ∈ value then
      let offset := value.idxOf 44 + 1
      if offset > 1024 then .error (.badRequest "Invalid media data URI")
      else
        match matchHeader (value.take offset) with
        | some mimeType => .ok (offset, mimeType)
        | none => .error (.badRequest "Invalid media data URI")
    else .error (.badRequest "Invalid media data URI")
  else .ok (0, none)

end Header

/-- What a check remembers of the chunks it has seen. -/
structure Base64Scan where
  length : Nat := 0
  padding : Nat := 0
  padded : Bool := false
  tail : List Nat := []
deriving DecidableEq, Repr

/-- Whether a chunk holds letters and at most two paddings after them. -/
def partAccepted (part : List Nat) : Bool :=
  [[], [padUnit], [padUnit, padUnit]].contains (part.dropWhile fun unit => (unitSextet unit).isSome)

/-- Check one chunk. -/
def Base64Scan.next (maxBytes : Nat) (scan : Base64Scan) (part : List Nat) : Except MediaFailure Base64Scan :=
  if !partAccepted part || (scan.padded && part.any (· ≠ padUnit)) then
    .error (.badRequest "Invalid media base64")
  else
    let seen : Base64Scan :=
      { length := scan.length + part.length
        padding := if padUnit ∈ part then scan.padding + (part.length - part.idxOf padUnit) else scan.padding
        padded := scan.padded || decide (padUnit ∈ part)
        tail := lastUnits 4 (scan.tail ++ part) }
    if (seen.length - seen.padding) * 3 / 4 > maxBytes then
      .error (.payloadTooLarge "Media exceeds configured size limit")
    else .ok seen

/-- The bytes that a buffer takes a text for: letters, also those of the other alphabet, up to any padding. -/
def bufferFrom (text : List Nat) : List UInt8 :=
  ofSextets ((text.takeWhile (· ≠ padUnit)).filterMap fun unit =>
    if unit = 45 then some 62 else if unit = 95 then some 63 else unitSextet unit)

/-- A text without the padding at its end. -/
def stripPadding (text : List Nat) : List Nat := text.rdropWhile (· = padUnit)

/-- What a check reports. -/
structure InspectedMedia where
  offset : Nat
  bytes : Nat
  mimeType : Option (List Nat) := none
deriving DecidableEq, Repr

/-- What a check comes to once it has seen every chunk. -/
def Base64Scan.finish (scan : Base64Scan) : Except MediaFailure Nat :=
  let useful := scan.length - scan.padding
  if scan.length = 0 ∨ scan.padding > 2 ∨ useful % 4 = 1 ∨ (scan.padding > 0 ∧ scan.length % 4 ≠ 0) ∨
      (scan.padding ≠ 0 ∧ scan.padding ≠ (4 - useful % 4) % 4) then
    .error (.badRequest "Invalid media base64")
  else
    let final := if useful % 4 ≠ 0 then lastUnits (useful % 4 + scan.padding) scan.tail else scan.tail
    if stripPadding (encodeBase64 (bufferFrom final)) ≠ stripPadding final then
      .error (.badRequest "Invalid media base64 padding")
    else .ok (useful * 3 / 4)

section Loops

variable (active : Nat → Except MediaFailure Unit)

/-- Check chunk after chunk; the request may be interrupted before each. -/
def scanParts (maxBytes : Nat) : Nat → Base64Scan → List (List Nat) → Except MediaFailure Base64Scan
  | _, scan, [] => .ok scan
  | turn, scan, part :: parts => do
    active turn
    let seen ← scan.next maxBytes part
    scanParts maxBytes (turn + 1) seen parts

/-- The chunks of a text, without their blanks. -/
def compactParts (text : List Nat) : List (List Nat) :=
  (chunks mediaChunk text.length text).map compact

/-- Check inline media. -/
def inspectBase64 (value : List Nat) (maxBytes : Nat) : Except MediaFailure InspectedMedia := do
  let header ← mediaHeader value
  let scan ← scanParts active maxBytes 0 {} (compactParts (value.drop header.1))
  let bytes ← scan.finish
  pure { offset := header.1, bytes := bytes, mimeType := header.2 }

/-- Decode chunk after chunk, over the units that filled no quantum yet. -/
def decodeParts : Nat → List Nat → List (List Nat) → Except MediaFailure (List (List UInt8))
  | _, carry, [] => .ok (if carry = [] then [] else [bufferFrom carry])
  | turn, carry, part :: parts => do
    active turn
    let part := carry ++ part
    let aligned := part.length - part.length % 4
    let decoded ← decodeParts (turn + 1) (part.drop aligned) parts
    pure (if aligned ≠ 0 then bufferFrom (part.take aligned) :: decoded else decoded)

/-- The chunks of bytes that inline media is decoded to. -/
def decodedBase64 (value : List Nat) (offset : Nat) : Except MediaFailure (List (List UInt8)) :=
  decodeParts active 0 [] (compactParts (value.drop offset))

end Loops

/-- A text is the canonical base64 of some bytes, with its padding or without. -/
def CanonicalBase64 (text : List Nat) (bytes : List UInt8) : Prop :=
  text = encodeBase64 bytes ∨ text = encodeUnpadded bytes

section Chunks

/-- The chunks of a text make up the text. -/
theorem flatten_chunks {size : Nat} (hsize : 0 < size) {fuel : Nat} {text : List Nat}
    (hfuel : text.length ≤ fuel) : (chunks size fuel text).flatten = text := by
  induction fuel generalizing text with
  | zero => exact (List.eq_nil_of_length_eq_zero (Nat.le_zero.mp hfuel)).symm
  | succ fuel ih =>
    cases text with
    | nil => rfl
    | cons unit text =>
      have hrest : ((unit :: text).drop size).length ≤ fuel := by
        rw [List.length_drop, List.length_cons]
        rw [List.length_cons] at hfuel
        omega
      rw [chunks, List.flatten_cons, ih hrest, List.take_append_drop]
      exact List.cons_ne_nil unit text

/-- The chunks without their blanks make up the text without its blanks. -/
theorem flatten_compactParts (text : List Nat) : (compactParts text).flatten = compact text := by
  have htext : (chunks mediaChunk text.length text).flatten = text := flatten_chunks (by decide) (Nat.le_refl _)
  unfold compactParts
  conv_rhs => rw [← htext]
  unfold compact
  rw [List.filter_flatten]

end Chunks

section Shapes

/-- Letters with padding after them. -/
def paddedText (sextets : List Nat) (padding : Nat) : List Nat :=
  sextets.map sextetUnit ++ List.replicate padding padUnit

/-- The letters of a padded text are read up to the padding. -/
theorem takeWhile_paddedText (sextets : List Nat) (padding : Nat) (rest : List Nat) :
    (paddedText sextets (padding + 1) ++ rest).takeWhile (· ≠ padUnit) = sextets.map sextetUnit := by
  unfold paddedText
  rw [List.append_assoc, List.takeWhile_append_of_pos]
  · simp [List.replicate_succ]
  · intro unit hunit
    obtain ⟨sextet, -, rfl⟩ := List.mem_map.mp hunit
    exact decide_eq_true (sextetUnit_ne_pad sextet)

/-- Letters without padding are read to the end. -/
theorem takeWhile_letters (sextets : List Nat) :
    (sextets.map sextetUnit).takeWhile (· ≠ padUnit) = sextets.map sextetUnit := by
  apply List.takeWhile_eq_self_iff.mpr
  intro unit hunit
  obtain ⟨sextet, -, rfl⟩ := List.mem_map.mp hunit
  exact decide_eq_true (sextetUnit_ne_pad sextet)

end Shapes

end ConnectHub
