import ConnectHub.Json
import Mathlib.Algebra.GroupWithZero.Nat
import Mathlib.Data.List.Basic

/-!
# JSON as text

Writing a value and reading it back, as the language does it: the writer leaves no space and escapes what a
literal may not hold, the reader takes any JSON text. A text is a list of characters; a value whose numerals are
numerals and whose members have different names reads back as it was written, so that the writer never gives
two values one text.
-/

namespace ConnectHub

section Numerals

/-- How much of a numeral has been read. -/
inductive NumeralState
  | start | sign | zero | whole | point | fraction | exponent | exponentSign | power
deriving DecidableEq

/-- The state after one more character, if the numeral may go on with it. -/
def NumeralState.next (state : NumeralState) (c : Char) : Option NumeralState :=
  match state with
  | .start => if c = '-' then some .sign else if c = '0' then some .zero
    else if c.isDigit then some .whole else none
  | .sign => if c = '0' then some .zero else if c.isDigit then some .whole else none
  | .zero => if c = '.' then some .point else if c = 'e' ∨ c = 'E' then some .exponent else none
  | .whole => if c.isDigit then some .whole else if c = '.' then some .point
    else if c = 'e' ∨ c = 'E' then some .exponent else none
  | .point => if c.isDigit then some .fraction else none
  | .fraction => if c.isDigit then some .fraction else if c = 'e' ∨ c = 'E' then some .exponent else none
  | .exponent => if c = '+' ∨ c = '-' then some .exponentSign else if c.isDigit then some .power else none
  | .exponentSign => if c.isDigit then some .power else none
  | .power => if c.isDigit then some .power else none

/-- Whether a numeral may end in a state. -/
def NumeralState.accepts : NumeralState → Bool
  | .zero | .whole | .fraction | .power => true
  | _ => false

/-- The state after several characters. -/
def NumeralState.run : NumeralState → List Char → Option NumeralState
  | state, [] => some state
  | state, c :: text => (state.next c).bind (·.run text)

/-- Whether a text is a numeral. -/
def isNumeral (text : List Char) : Bool :=
  (NumeralState.start.run text).any (·.accepts)

/-- The characters that numerals are written with. -/
def isNumberChar (c : Char) : Bool :=
  c.isDigit || ['-', '+', '.', 'e', 'E'].contains c

/-- A numeral goes on only with a character of numerals. -/
theorem isNumberChar_of_next {state after : NumeralState} {c : Char} (h : state.next c = some after) :
    isNumberChar c = true := by
  have hcases : c.isDigit = true ∨ c = '-' ∨ c = '+' ∨ c = '.' ∨ c = 'e' ∨ c = 'E' ∨ c = '0' := by
    unfold NumeralState.next at h
    grind
  unfold isNumberChar
  rcases hcases with h | h | h | h | h | h | h
  · rw [h, Bool.true_or]
  all_goals
    rw [h]
    decide

/-- So every character of a numeral is one. -/
theorem isNumberChar_of_run {state after : NumeralState} {text : List Char} (h : state.run text = some after) :
    ∀ c ∈ text, isNumberChar c = true := by
  induction text generalizing state with
  | nil =>
    intro c hc
    cases hc
  | cons first text ih =>
    obtain ⟨middle, hnext, hrun⟩ := Option.bind_eq_some_iff.mp h
    intro c hc
    rcases List.mem_cons.mp hc with heq | hc
    · rw [heq]
      exact isNumberChar_of_next hnext
    · exact ih hrun c hc

/-- The characters of a numeral. -/
theorem isNumberChar_of_isNumeral {text : List Char} (h : isNumeral text = true) :
    ∀ c ∈ text, isNumberChar c = true := by
  obtain ⟨after, hrun, -⟩ := (Option.any_eq_true _ _).mp h
  exact isNumberChar_of_run hrun

/-- A numeral is not empty. -/
theorem isNumeral_nil : isNumeral [] = false := rfl

/-- Running over two texts is running over one after the other. -/
theorem NumeralState.run_append (state : NumeralState) (text more : List Char) :
    state.run (text ++ more) = (state.run text).bind (·.run more) := by
  induction text generalizing state with
  | nil => rfl
  | cons c text ih =>
    simp only [List.cons_append, NumeralState.run]
    cases state.next c with
    | none => rfl
    | some after => exact ih after

/-- The digits of a positive number leave a whole numeral. -/
theorem run_toDigits {n : Nat} (hn : n ≠ 0) : NumeralState.start.run (Nat.toDigits 10 n) = some .whole := by
  induction n using Nat.strongRecOn with
  | ind n ih =>
    by_cases hsmall : n < 10
    · rw [Nat.toDigits_of_lt_base hsmall]
      have hdigits : ∀ m < 10, m ≠ 0 → NumeralState.start.run [m.digitChar] = some .whole := by decide
      exact hdigits n hsmall hn
    · rw [Nat.toDigits_of_base_le (by omega) (by omega), NumeralState.run_append, ih (n / 10) (by omega) (by omega)]
      have hdigits : ∀ m < 10, NumeralState.whole.run [m.digitChar] = some .whole := by decide
      exact hdigits (n % 10) (by omega)

/-- The decimal notation of a number is a numeral. -/
theorem isNumeral_repr (n : Nat) : isNumeral (Nat.repr n).toList = true := by
  rw [Nat.toList_repr]
  by_cases hn : n = 0
  · rw [hn]
    rfl
  · unfold isNumeral
    rw [run_toDigits hn]
    rfl

end Numerals

section Writer

/-- A character as a string literal holds it. -/
def escapeChar (c : Char) : List Char :=
  if c = '\x22' then ['\x5c', '\x22']
  else if c = '\x5c' then ['\x5c', '\x5c']
  else if c = '\x08' then ['\x5c', 'b']
  else if c = '\x09' then ['\x5c', 't']
  else if c = '\x0a' then ['\x5c', 'n']
  else if c = '\x0c' then ['\x5c', 'f']
  else if c = '\x0d' then ['\x5c', 'r']
  else if c.toNat < 0x20 then
    ['\x5c', 'u', '0', '0', (c.toNat / 16).digitChar, (c.toNat % 16).digitChar]
  else [c]

/-- A string literal. -/
def quote (text : List Char) : List Char :=
  '\x22' :: text.flatMap escapeChar ++ ['\x22']

/-- Texts with commas between them. -/
def commaJoin : List (List Char) → List Char
  | [] => []
  | [text] => text
  | text :: other :: texts => text ++ ',' :: commaJoin (other :: texts)

mutual

/-- A value as text, without spaces. -/
def Json.stringify : Json → List Char
  | .null => ['n', 'u', 'l', 'l']
  | .bool true => ['t', 'r', 'u', 'e']
  | .bool false => ['f', 'a', 'l', 's', 'e']
  | .number numeral => numeral.toList
  | .str s => quote s.toList
  | .arr items => '[' :: commaJoin (Json.itemTexts items) ++ [']']
  | .obj members => '\x7b' :: commaJoin (Json.memberTexts members) ++ ['\x7d']

/-- The items of an array as texts. -/
def Json.itemTexts : List Json → List (List Char)
  | [] => []
  | item :: items => item.stringify :: Json.itemTexts items

/-- The members of an object as texts. -/
def Json.memberTexts : List (String × Json) → List (List Char)
  | [] => []
  | (name, value) :: members => (quote name.toList ++ ':' :: value.stringify) :: Json.memberTexts members

end

end Writer

section Reader

/-- The spaces between the tokens of a text. -/
def isWhitespace (c : Char) : Bool :=
  ['\x20', '\x09', '\x0a', '\x0d'].contains c

/-- A text without its leading spaces. -/
def skipWhitespace (text : List Char) : List Char :=
  text.dropWhile isWhitespace

/-- The rest of a text that begins with the given one. -/
def expect : List Char → List Char → Option (List Char)
  | [], text => some text
  | _ :: _, [] => none
  | c :: word, d :: text => if c = d then expect word text else none

/-- The value of a hexadecimal digit. -/
def hexValue (c : Char) : Option Nat :=
  if 48 ≤ c.toNat ∧ c.toNat ≤ 57 then some (c.toNat - 48)
  else if 97 ≤ c.toNat ∧ c.toNat ≤ 102 then some (c.toNat - 87)
  else if 65 ≤ c.toNat ∧ c.toNat ≤ 70 then some (c.toNat - 55)
  else none

/-- The code unit that four digits name. -/
def parseUnit : List Char → Option (Nat × List Char)
  | a :: b :: c :: d :: rest => do
    let a ← hexValue a
    let b ← hexValue b
    let c ← hexValue c
    let d ← hexValue d
    pure (((a * 16 + b) * 16 + c) * 16 + d, rest)
  | _ => none

/-- The character that a numeric escape names, which may take two of them; half of one is no character. -/
def parseUnicode (text : List Char) : Option (Char × List Char) := do
  let unit ← parseUnit text
  if 0xd800 ≤ unit.1 ∧ unit.1 < 0xdc00 then do
    let rest ← expect ['\x5c', 'u'] unit.2
    let low ← parseUnit rest
    if 0xdc00 ≤ low.1 ∧ low.1 < 0xe000 then
      pure (Char.ofNat (0x10000 + (unit.1 - 0xd800) * 0x400 + (low.1 - 0xdc00)), low.2)
    else none
  else if 0xdc00 ≤ unit.1 ∧ unit.1 < 0xe000 then none
  else pure (Char.ofNat unit.1, unit.2)

/-- The character that a short escape names. -/
def unescape (c : Char) : Option Char :=
  [('\x22', '\x22'), ('\x5c', '\x5c'), ('/', '/'), ('b', '\x08'), ('f', '\x0c'), ('n', '\x0a'), ('r', '\x0d'),
   ('t', '\x09')].lookup c

/-- The character that an escape names, after its backslash. -/
def parseEscape : List Char → Option (Char × List Char)
  | [] => none
  | c :: rest => if c = 'u' then parseUnicode rest else (unescape c).map fun decoded => (decoded, rest)

/-- The characters of a string literal, after its opening mark, and what follows its closing mark. -/
def parseString : Nat → List Char → Option (List Char × List Char)
  | 0, _ => none
  | _ + 1, [] => none
  | fuel + 1, c :: rest =>
    if c = '\x22' then some ([], rest)
    else if c = '\x5c' then do
      let escaped ← parseEscape rest
      let tail ← parseString fuel escaped.2
      pure (escaped.1 :: tail.1, tail.2)
    else if c.toNat < 0x20 then none
    else (parseString fuel rest).map fun tail => (c :: tail.1, tail.2)

/-- A numeral at the beginning of a text. -/
def parseNumber (text : List Char) : Option (Json × List Char) :=
  if isNumeral (text.takeWhile isNumberChar) then
    some (.number (String.ofList (text.takeWhile isNumberChar)), text.dropWhile isNumberChar)
  else none

/-- Give a member a value: of two values under one name the later counts, in the place of the first. -/
def setMember {β : Type} (name : String) (value : β) : List (String × β) → List (String × β)
  | [] => [(name, value)]
  | (other, found) :: members =>
    if name = other then (other, value) :: members else (other, found) :: setMember name value members

mutual

/-- The value at the beginning of a text, and the rest of the text. -/
def parseValue : Nat → List Char → Option (Json × List Char)
  | 0, _ => none
  | fuel + 1, text =>
    match skipWhitespace text with
    | [] => none
    | c :: rest =>
      if c = 'n' then (expect ['u', 'l', 'l'] rest).map fun rest => (.null, rest)
      else if c = 't' then (expect ['r', 'u', 'e'] rest).map fun rest => (.bool true, rest)
      else if c = 'f' then (expect ['a', 'l', 's', 'e'] rest).map fun rest => (.bool false, rest)
      else if c = '\x22' then (parseString (rest.length + 1) rest).map fun found =>
        (.str (String.ofList found.1), found.2)
      else if c = '[' then
        match expect [']'] (skipWhitespace rest) with
        | some rest => some (.arr [], rest)
        | none => (parseItems fuel rest).map fun found => (.arr found.1, found.2)
      else if c = '\x7b' then
        match expect ['\x7d'] (skipWhitespace rest) with
        | some rest => some (.obj [], rest)
        | none => (parseMembers fuel [] rest).map fun found => (.obj found.1, found.2)
      else parseNumber (c :: rest)

/-- The items of an array that is not empty, after its opening bracket. -/
def parseItems : Nat → List Char → Option (List Json × List Char)
  | 0, _ => none
  | fuel + 1, text =>
    match parseValue fuel text with
    | none => none
    | some (item, rest) =>
      match skipWhitespace rest with
      | [] => none
      | c :: rest =>
        if c = ',' then (parseItems fuel rest).map fun found => (item :: found.1, found.2)
        else if c = ']' then some ([item], rest)
        else none

/-- The members of an object that is not empty, over those read so far. -/
def parseMembers : Nat → List (String × Json) → List Char → Option (List (String × Json) × List Char)
  | 0, _, _ => none
  | fuel + 1, members, text =>
    match expect ['\x22'] (skipWhitespace text) with
    | none => none
    | some rest =>
      match parseString (rest.length + 1) rest with
      | none => none
      | some (name, rest) =>
        match expect [':'] (skipWhitespace rest) with
        | none => none
        | some rest =>
          match parseValue fuel rest with
          | none => none
          | some (value, rest) =>
            match skipWhitespace rest with
            | [] => none
            | c :: rest =>
              if c = ',' then parseMembers fuel (setMember (String.ofList name) value members) rest
              else if c = '\x7d' then some (setMember (String.ofList name) value members, rest)
              else none

end

/-- The value a text stands for. -/
def Json.parse (text : List Char) : Option Json :=
  match parseValue (text.length + 1) text with
  | some (value, rest) => if skipWhitespace rest = [] then some value else none
  | none => none

end Reader

section Strings

/-- The digits below sixteen are read as they are written. -/
theorem hexValue_digitChar {n : Nat} (hn : n < 16) : hexValue n.digitChar = some n := by
  have hdigits : ∀ m < 16, hexValue m.digitChar = some m := by decide
  exact hdigits n hn

/-- A control character is read from its numeric escape. -/
theorem parseUnicode_control {c : Char} (hc : c.toNat < 0x20) (rest : List Char) :
    parseUnicode ('0' :: '0' :: (c.toNat / 16).digitChar :: (c.toNat % 16).digitChar :: rest) =
      some (c, rest) := by
  have hunit : parseUnit ('0' :: '0' :: (c.toNat / 16).digitChar :: (c.toNat % 16).digitChar :: rest) =
      some (c.toNat, rest) := by
    have hzero : hexValue '0' = some 0 := rfl
    have hvalue : ((0 * 16 + 0) * 16 + c.toNat / 16) * 16 + c.toNat % 16 = c.toNat := by omega
    simp only [parseUnit, hzero, hexValue_digitChar (n := c.toNat / 16) (by omega),
      hexValue_digitChar (n := c.toNat % 16) (by omega), Option.bind_eq_bind, Option.bind_some,
      Option.pure_def, hvalue]
  have hplain : ¬(0xd800 ≤ c.toNat ∧ c.toNat < 0xdc00) := by omega
  have hlow : ¬(0xdc00 ≤ c.toNat ∧ c.toNat < 0xe000) := by omega
  simp only [parseUnicode, hunit, Option.bind_eq_bind, Option.bind_some, if_neg hplain, if_neg hlow,
    Option.pure_def, Char.ofNat_toNat]

/-- A character of a literal is read from what it is written as. -/
theorem parseString_escapeChar (fuel : Nat) (c : Char) (rest : List Char) :
    parseString (fuel + 1) (escapeChar c ++ rest) =
      (parseString fuel rest).map fun tail => (c :: tail.1, tail.2) := by
  have hescape : ∀ escape, (∀ rest, parseEscape (escape ++ rest) = some (c, rest)) →
      parseString (fuel + 1) ('\x5c' :: (escape ++ rest)) =
        (parseString fuel rest).map fun tail => (c :: tail.1, tail.2) := by
    intro escape hparse
    have hmark : ('\x5c' : Char) ≠ '\x22' := by decide
    simp only [parseString, if_neg hmark, if_true, hparse, Option.bind_eq_bind, Option.bind_some, Option.pure_def]
    cases parseString fuel rest with
    | none => rfl
    | some tail => rfl
  have hshort : ∀ letter, letter ≠ 'u' → unescape letter = some c →
      parseString (fuel + 1) ('\x5c' :: ([letter] ++ rest)) =
        (parseString fuel rest).map fun tail => (c :: tail.1, tail.2) := by
    intro letter hletter hdecoded
    apply hescape
    intro rest
    simp only [List.cons_append, List.nil_append, parseEscape, if_neg hletter, hdecoded, Option.map_some]
  unfold escapeChar
  split
  · next h => exact hshort '\x22' (by decide) (by rw [h]; rfl)
  split
  · next h => exact hshort '\x5c' (by decide) (by rw [h]; rfl)
  split
  · next h => exact hshort 'b' (by decide) (by rw [h]; rfl)
  split
  · next h => exact hshort 't' (by decide) (by rw [h]; rfl)
  split
  · next h => exact hshort 'n' (by decide) (by rw [h]; rfl)
  split
  · next h => exact hshort 'f' (by decide) (by rw [h]; rfl)
  split
  · next h => exact hshort 'r' (by decide) (by rw [h]; rfl)
  split
  · next hcontrol =>
    apply hescape ('u' :: '0' :: '0' :: (c.toNat / 16).digitChar :: [(c.toNat % 16).digitChar])
    intro rest
    exact parseUnicode_control hcontrol rest
  · next hmark hslash _ _ _ _ _ hcontrol =>
    simp only [List.cons_append, List.nil_append, parseString, if_neg hmark, if_neg hslash, if_neg hcontrol]

/-- A literal is read up to its closing mark. -/
theorem parseString_flatMap {fuel : Nat} {text rest : List Char} (hfuel : text.length < fuel) :
    parseString fuel (text.flatMap escapeChar ++ '\x22' :: rest) = some (text, rest) := by
  induction text generalizing fuel with
  | nil =>
    obtain ⟨fuel, rfl⟩ := Nat.exists_eq_succ_of_ne_zero (Nat.ne_of_gt hfuel)
    rfl
  | cons c text ih =>
    obtain ⟨fuel, rfl⟩ := Nat.exists_eq_succ_of_ne_zero (Nat.ne_of_gt (Nat.lt_of_le_of_lt (Nat.zero_le _) hfuel))
    have htail := @ih fuel (by rw [List.length_cons] at hfuel; omega)
    rw [List.flatMap_cons, List.append_assoc, parseString_escapeChar, htail]
    rfl

/-- A character is written with at least one. -/
theorem escapeChar_length_pos (c : Char) : 1 ≤ (escapeChar c).length := by
  unfold escapeChar
  grind

/-- So a literal is at least as long as its text. -/
theorem length_le_flatMap_escapeChar (text : List Char) : text.length ≤ (text.flatMap escapeChar).length := by
  induction text with
  | nil => exact Nat.le_refl 0
  | cons c text ih =>
    have hc := escapeChar_length_pos c
    rw [List.flatMap_cons, List.length_append, List.length_cons]
    omega

/-- A literal is read with the room the reader gives it. -/
theorem parseString_quoted (text rest : List Char) :
    parseString ((text.flatMap escapeChar ++ '\x22' :: rest).length + 1)
      (text.flatMap escapeChar ++ '\x22' :: rest) = some (text, rest) := by
  apply parseString_flatMap
  have hlength := length_le_flatMap_escapeChar text
  rw [List.length_append]
  omega

end Strings

section RoundTrip

mutual

/-- A value whose numerals are numerals and whose objects name each member once. -/
def Json.WellFormed : Json → Prop
  | .number numeral => isNumeral numeral.toList = true
  | .arr items => Json.ItemsWellFormed items
  | .obj members => (members.map (·.1)).Nodup ∧ Json.MembersWellFormed members
  | _ => True

/-- The items of an array are well formed. -/
def Json.ItemsWellFormed : List Json → Prop
  | [] => True
  | item :: items => item.WellFormed ∧ Json.ItemsWellFormed items

/-- The values of the members of an object are well formed. -/
def Json.MembersWellFormed : List (String × Json) → Prop
  | [] => True
  | (_, value) :: members => value.WellFormed ∧ Json.MembersWellFormed members

end

mutual

/-- How many calls the reader makes one inside another, at most. -/
def Json.work : Json → Nat
  | .arr items => 1 + Json.itemsWork items
  | .obj members => 1 + Json.membersWork members
  | _ => 1

/-- The same for the items of an array. -/
def Json.itemsWork : List Json → Nat
  | [] => 0
  | item :: items => 1 + item.work + Json.itemsWork items

/-- The same for the members of an object. -/
def Json.membersWork : List (String × Json) → Nat
  | [] => 0
  | (_, value) :: members => 1 + value.work + Json.membersWork members

end

/-- A text that no numeral goes on with. -/
def NumberEnd (rest : List Char) : Prop := ∀ c tail, rest = c :: tail → isNumberChar c = false

/-- The end of a text is one. -/
theorem numberEnd_nil : NumberEnd [] := by
  intro c tail h
  cases h

/-- So is a text that begins with another character. -/
theorem numberEnd_cons {c : Char} (hc : isNumberChar c = false) (rest : List Char) : NumberEnd (c :: rest) := by
  intro d tail h
  cases h
  exact hc

/-- A character that is no space is not skipped. -/
theorem skipWhitespace_cons {c : Char} (hc : isWhitespace c = false) (rest : List Char) :
    skipWhitespace (c :: rest) = c :: rest := by
  unfold skipWhitespace
  rw [List.dropWhile_cons, hc]
  rfl

/-- The characters of a numeral end where the numeral does. -/
theorem takeWhile_numeral {numeral rest : List Char} (hnumeral : ∀ c ∈ numeral, isNumberChar c = true)
    (hrest : NumberEnd rest) :
    (numeral ++ rest).takeWhile isNumberChar = numeral ∧ (numeral ++ rest).dropWhile isNumberChar = rest := by
  rw [List.takeWhile_append_of_pos hnumeral, List.dropWhile_append_of_pos hnumeral]
  cases rest with
  | nil => simp only [List.takeWhile_nil, List.append_nil, List.dropWhile_nil, and_self]
  | cons c rest =>
    have hc := hrest c rest rfl
    rw [List.takeWhile_cons, List.dropWhile_cons, hc]
    simp only [Bool.false_eq_true, if_false, List.append_nil, and_self]

/-- A numeral is read as it is. -/
theorem parseNumber_numeral {numeral rest : List Char} (h : isNumeral numeral = true) (hrest : NumberEnd rest) :
    parseNumber (numeral ++ rest) = some (.number (String.ofList numeral), rest) := by
  obtain ⟨htake, hdrop⟩ := takeWhile_numeral (isNumberChar_of_isNumeral h) hrest
  unfold parseNumber
  rw [htake, hdrop, if_pos h]

/-- A space is no character of numerals. -/
theorem isWhitespace_of_isNumberChar {c : Char} (h : isNumberChar c = true) : isWhitespace c = false := by
  have hall : ['\x20', '\x09', '\x0a', '\x0d'].any isNumberChar = false := by decide
  have hspaces : ∀ space ∈ ['\x20', '\x09', '\x0a', '\x0d'], isNumberChar space = false := by
    intro space hspace
    exact Bool.eq_false_iff.mpr (List.any_eq_false.mp hall space hspace)
  apply eq_false_of_ne_true
  intro hspace
  have hmem : c ∈ ['\x20', '\x09', '\x0a', '\x0d'] := List.contains_iff_mem.mp hspace
  rw [hspaces c hmem] at h
  cases h

/-- A value begins with a character that is neither a space nor a closing bracket. -/
theorem stringify_head {value : Json} (h : value.WellFormed) :
    ∃ c text, value.stringify = c :: text ∧ isWhitespace c = false ∧ c ≠ ']' := by
  cases value with
  | null => exact ⟨_, _, rfl, by decide, by decide⟩
  | bool b => cases b <;> exact ⟨_, _, rfl, by decide, by decide⟩
  | str s => exact ⟨_, _, rfl, by decide, by decide⟩
  | arr items => exact ⟨_, _, rfl, by decide, by decide⟩
  | obj members => exact ⟨_, _, rfl, by decide, by decide⟩
  | number numeral =>
    have hnumeral : isNumeral numeral.toList = true := h
    cases htext : numeral.toList with
    | nil =>
      rw [htext, isNumeral_nil] at hnumeral
      cases hnumeral
    | cons c text =>
      rw [htext] at hnumeral
      have hc := isNumberChar_of_isNumeral hnumeral c List.mem_cons_self
      refine ⟨c, text, htext, isWhitespace_of_isNumberChar hc, ?_⟩
      intro heq
      rw [heq] at hc
      cases hc

/-- Reading a name twice never happens in an object that names each member once. -/
theorem setMember_append {β : Type} {members : List (String × β)} {name : String}
    (h : name ∉ members.map (·.1)) (value : β) : setMember name value members = members ++ [(name, value)] := by
  induction members with
  | nil => rfl
  | cons member members ih =>
    obtain ⟨other, found⟩ := member
    rw [List.map_cons, List.mem_cons, not_or] at h
    rw [setMember, if_neg h.1, ih h.2]
    rfl

/-- Joined texts begin with the first of them. -/
theorem commaJoin_cons (text : List Char) (texts : List (List Char)) :
    ∃ more, commaJoin (text :: texts) = text ++ more := by
  cases texts with
  | nil => exact ⟨[], (List.append_nil text).symm⟩
  | cons other texts => exact ⟨_, rfl⟩

/-- A name that comes later is not among the names before it. -/
theorem not_mem_before {β : Type} {before members : List (String × β)} {name : String} {value : β}
    (h : ((before ++ (name, value) :: members).map (·.1)).Nodup) : name ∉ before.map (·.1) := by
  rw [List.map_append, List.map_cons] at h
  intro hmem
  exact (List.nodup_append.mp h).2.2 name hmem name List.mem_cons_self rfl

/-- The first member that is left is read into those before it. -/
theorem parseMembers_first {fuel : Nat} {before : List (String × Json)} {name : String} {value : Json} {c : Char}
    {rest : List Char} (hvalue : parseValue fuel (value.stringify ++ c :: rest) = some (value, c :: rest))
    (hc : isWhitespace c = false) (hname : name ∉ before.map (·.1)) :
    parseMembers (fuel + 1) before (quote name.toList ++ ':' :: value.stringify ++ c :: rest) =
      if c = ',' then parseMembers fuel (before ++ [(name, value)]) rest
      else if c = '\x7d' then some (before ++ [(name, value)], rest)
      else none := by
  have htext : quote name.toList ++ ':' :: value.stringify ++ c :: rest =
      '\x22' :: (name.toList.flatMap escapeChar ++ '\x22' :: (':' :: (value.stringify ++ c :: rest))) := by
    simp only [quote, List.cons_append, List.append_assoc, List.nil_append]
  have hmark : isWhitespace '\x22' = false := by decide
  have hcolon : isWhitespace ':' = false := by decide
  have hread := parseString_quoted name.toList (':' :: (value.stringify ++ c :: rest))
  simp only [htext, parseMembers, skipWhitespace_cons hmark, expect, if_true, hread, skipWhitespace_cons hcolon,
    hvalue, skipWhitespace_cons hc, String.ofList_toList, setMember_append hname]

/-- Replacing a member leaves the others where they are. -/
theorem setMember_of_split {β : Type} {before members : List (String × β)} {name : String}
    (h : name ∉ before.map (·.1)) (old value : β) :
    setMember name value (before ++ (name, old) :: members) = before ++ (name, value) :: members := by
  induction before with
  | nil => simp only [List.nil_append, setMember, if_true]
  | cons member before ih =>
    obtain ⟨other, found⟩ := member
    rw [List.map_cons, List.mem_cons, not_or] at h
    rw [List.cons_append, setMember, if_neg h.1, ih h.2]
    rfl

/-- A value that begins like a numeral is read as one. -/
theorem parseValue_of_isNumberChar {c : Char} (hc : isNumberChar c = true) (fuel : Nat) (rest : List Char) :
    parseValue (fuel + 1) (c :: rest) = parseNumber (c :: rest) := by
  have hother : ∀ other ∈ ['n', 't', 'f', '\x22', '[', '\x7b'], c ≠ other := by
    have hall : ['n', 't', 'f', '\x22', '[', '\x7b'].any isNumberChar = false := by decide
    have hothers : ∀ other ∈ ['n', 't', 'f', '\x22', '[', '\x7b'], isNumberChar other = false := by
      intro other hmem
      exact Bool.eq_false_iff.mpr (List.any_eq_false.mp hall other hmem)
    intro other hmem heq
    rw [heq, hothers other hmem] at hc
    cases hc
  simp only [List.mem_cons, List.not_mem_nil, or_false, forall_eq_or_imp, forall_eq] at hother
  obtain ⟨hn, ht, hf, hmark, hbracket, hbrace⟩ := hother
  simp only [parseValue, skipWhitespace_cons (isWhitespace_of_isNumberChar hc), if_neg hn, if_neg ht, if_neg hf,
    if_neg hmark, if_neg hbracket, if_neg hbrace]

mutual

/-- A value reads back as it was written, whatever follows it. -/
theorem parseValue_stringify : (value : Json) → value.WellFormed → (fuel : Nat) → value.work ≤ fuel →
    (rest : List Char) → NumberEnd rest → parseValue fuel (value.stringify ++ rest) = some (value, rest)
  | value, _, 0, hfuel, _, _ => by
    cases value <;> simp only [Json.work] at hfuel <;> omega
  | .null, _, _ + 1, _, _, _ => rfl
  | .bool true, _, _ + 1, _, _, _ => rfl
  | .bool false, _, _ + 1, _, _, _ => rfl
  | .number numeral, h, fuel + 1, _, rest, hrest => by
    have hnumeral : isNumeral numeral.toList = true := h
    have hread := parseNumber_numeral hnumeral hrest
    rw [String.ofList_toList] at hread
    rw [← hread]
    change parseValue (fuel + 1) (numeral.toList ++ rest) = _
    cases htext : numeral.toList with
    | nil =>
      rw [htext, isNumeral_nil] at hnumeral
      cases hnumeral
    | cons c text =>
      rw [htext] at hnumeral
      exact parseValue_of_isNumberChar (isNumberChar_of_isNumeral hnumeral c List.mem_cons_self) fuel _
  | .str s, _, fuel + 1, _, rest, _ => by
    have hread := parseString_quoted s.toList rest
    have htext : (Json.str s).stringify ++ rest = '\x22' :: (s.toList.flatMap escapeChar ++ '\x22' :: rest) := by
      simp only [Json.stringify, quote, List.cons_append, List.append_assoc, List.nil_append]
    have hspace : isWhitespace '\x22' = false := by decide
    have hn : ('\x22' : Char) ≠ 'n' := by decide
    have ht : ('\x22' : Char) ≠ 't' := by decide
    have hf : ('\x22' : Char) ≠ 'f' := by decide
    simp only [htext, parseValue, skipWhitespace_cons hspace, if_neg hn, if_neg ht, if_neg hf, if_true, hread,
      Option.map_some, String.ofList_toList]
  | .arr items, h, fuel + 1, hfuel, rest, _ => by
    have hspace : isWhitespace '[' = false := by decide
    have hstart : parseValue (fuel + 1) ((Json.arr items).stringify ++ rest) =
        match expect [']'] (skipWhitespace (commaJoin (Json.itemTexts items) ++ ']' :: rest)) with
        | some rest => some (.arr [], rest)
        | none => (parseItems fuel (commaJoin (Json.itemTexts items) ++ ']' :: rest)).map
            fun found => (.arr found.1, found.2) := by
      have htext : (Json.arr items).stringify ++ rest =
          '[' :: (commaJoin (Json.itemTexts items) ++ ']' :: rest) := by
        simp only [Json.stringify, List.cons_append, List.append_assoc, List.nil_append]
      have hn : ('[' : Char) ≠ 'n' := by decide
      have ht : ('[' : Char) ≠ 't' := by decide
      have hf : ('[' : Char) ≠ 'f' := by decide
      have hmark : ('[' : Char) ≠ '\x22' := by decide
      simp only [htext, parseValue, skipWhitespace_cons hspace, if_neg hn, if_neg ht, if_neg hf, if_neg hmark,
        if_true]
    rw [hstart]
    cases items with
    | nil => rfl
    | cons item items =>
      have hitems : Json.ItemsWellFormed (item :: items) := h
      have hread := parseItems_itemTexts item items hitems fuel (by simp only [Json.work] at hfuel; omega) rest
      obtain ⟨c, text, hhead, hspace, hbracket⟩ := stringify_head hitems.1
      have hnot : expect [']'] (skipWhitespace (commaJoin (Json.itemTexts (item :: items)) ++ ']' :: rest)) =
          none := by
        obtain ⟨more, hmore⟩ := commaJoin_cons item.stringify (Json.itemTexts items)
        rw [Json.itemTexts, hmore, hhead, List.cons_append, List.cons_append, skipWhitespace_cons hspace]
        simp only [expect, if_neg hbracket.symm]
      rw [hnot, hread]
      rfl
  | .obj members, h, fuel + 1, hfuel, rest, _ => by
    have hspace : isWhitespace '\x7b' = false := by decide
    have hstart : parseValue (fuel + 1) ((Json.obj members).stringify ++ rest) =
        match expect ['\x7d'] (skipWhitespace (commaJoin (Json.memberTexts members) ++ '\x7d' :: rest)) with
        | some rest => some (.obj [], rest)
        | none => (parseMembers fuel [] (commaJoin (Json.memberTexts members) ++ '\x7d' :: rest)).map
            fun found => (.obj found.1, found.2) := by
      have htext : (Json.obj members).stringify ++ rest =
          '\x7b' :: (commaJoin (Json.memberTexts members) ++ '\x7d' :: rest) := by
        simp only [Json.stringify, List.cons_append, List.append_assoc, List.nil_append]
      have hn : ('\x7b' : Char) ≠ 'n' := by decide
      have ht : ('\x7b' : Char) ≠ 't' := by decide
      have hf : ('\x7b' : Char) ≠ 'f' := by decide
      have hmark : ('\x7b' : Char) ≠ '\x22' := by decide
      have hbracket : ('\x7b' : Char) ≠ '[' := by decide
      simp only [htext, parseValue, skipWhitespace_cons hspace, if_neg hn, if_neg ht, if_neg hf, if_neg hmark,
        if_neg hbracket, if_true]
    rw [hstart]
    cases members with
    | nil => rfl
    | cons member members =>
      obtain ⟨name, value⟩ := member
      simp only [Json.WellFormed] at h
      obtain ⟨hnames, hmembers⟩ := h
      have hread := parseMembers_memberTexts name value members hmembers fuel
        (by simp only [Json.work] at hfuel; omega) [] (by simpa using hnames) rest
      have hnot : expect ['\x7d'] (skipWhitespace (commaJoin (Json.memberTexts ((name, value) :: members)) ++
          '\x7d' :: rest)) = none := by
        obtain ⟨more, hmore⟩ := commaJoin_cons (quote name.toList ++ ':' :: value.stringify)
          (Json.memberTexts members)
        rw [Json.memberTexts, hmore]
        rfl
      rw [hnot, hread]
      rfl

/-- The items of an array read back as they were written. -/
theorem parseItems_itemTexts (item : Json) : (items : List Json) → Json.ItemsWellFormed (item :: items) →
    (fuel : Nat) → Json.itemsWork (item :: items) ≤ fuel → (rest : List Char) →
    parseItems fuel (commaJoin (Json.itemTexts (item :: items)) ++ ']' :: rest) = some (item :: items, rest)
  | _, _, 0, hfuel, _ => by
    simp only [Json.itemsWork] at hfuel
    omega
  | [], h, fuel + 1, hfuel, rest => by
    have hitem := parseValue_stringify item h.1 fuel (by simp only [Json.itemsWork] at hfuel; omega) (']' :: rest)
      (numberEnd_cons (by decide) rest)
    have hspace : isWhitespace ']' = false := by decide
    have hcomma : (']' : Char) ≠ ',' := by decide
    simp only [Json.itemTexts, commaJoin, parseItems, hitem, skipWhitespace_cons hspace, if_neg hcomma, if_true]
  | next :: items, h, fuel + 1, hfuel, rest => by
    have hitem := parseValue_stringify item h.1 fuel (by simp only [Json.itemsWork] at hfuel; omega)
      (',' :: (commaJoin (Json.itemTexts (next :: items)) ++ ']' :: rest)) (numberEnd_cons (by decide) _)
    have hitems := parseItems_itemTexts next items h.2 fuel (by simp only [Json.itemsWork] at hfuel ⊢; omega) rest
    have hspace : isWhitespace ',' = false := by decide
    have htext : commaJoin (Json.itemTexts (item :: next :: items)) ++ ']' :: rest =
        item.stringify ++ ',' :: (commaJoin (Json.itemTexts (next :: items)) ++ ']' :: rest) := by
      simp only [Json.itemTexts, commaJoin, List.append_assoc, List.cons_append]
    simp only [htext, parseItems, hitem, skipWhitespace_cons hspace, if_true, hitems, Option.map_some]

/-- The members of an object read back as they were written, after those already read. -/
theorem parseMembers_memberTexts (name : String) (value : Json) : (members : List (String × Json)) →
    Json.MembersWellFormed ((name, value) :: members) → (fuel : Nat) →
    Json.membersWork ((name, value) :: members) ≤ fuel → (before : List (String × Json)) →
    ((before ++ (name, value) :: members).map (·.1)).Nodup → (rest : List Char) →
    parseMembers fuel before (commaJoin (Json.memberTexts ((name, value) :: members)) ++ '\x7d' :: rest) =
      some (before ++ (name, value) :: members, rest)
  | _, _, 0, hfuel, _, _, _ => by
    simp only [Json.membersWork] at hfuel
    omega
  | [], h, fuel + 1, hfuel, before, hnames, rest => by
    have hvalue := parseValue_stringify value h.1 fuel (by simp only [Json.membersWork] at hfuel; omega)
      ('\x7d' :: rest) (numberEnd_cons (by decide) rest)
    have hmember := @parseMembers_first fuel before _ _ _ _ hvalue (by decide)
      (not_mem_before hnames)
    have hcomma : ('\x7d' : Char) ≠ ',' := by decide
    simp only [Json.memberTexts, commaJoin]
    rw [hmember, if_neg hcomma, if_pos rfl]
  | (next, other) :: members, h, fuel + 1, hfuel, before, hnames, rest => by
    have hvalue := parseValue_stringify value h.1 fuel (by simp only [Json.membersWork] at hfuel; omega)
      (',' :: (commaJoin (Json.memberTexts ((next, other) :: members)) ++ '\x7d' :: rest))
      (numberEnd_cons (by decide) _)
    have hmember := @parseMembers_first fuel before _ _ _ _ hvalue (by decide)
      (not_mem_before hnames)
    have hmembers := parseMembers_memberTexts next other members h.2 fuel
      (by simp only [Json.membersWork] at hfuel ⊢; omega) (before ++ [(name, value)])
      (by simpa only [List.append_assoc, List.singleton_append] using hnames) rest
    have htext : commaJoin (Json.memberTexts ((name, value) :: (next, other) :: members)) ++ '\x7d' :: rest =
        quote name.toList ++ ':' :: value.stringify ++
          ',' :: (commaJoin (Json.memberTexts ((next, other) :: members)) ++ '\x7d' :: rest) := by
      simp only [Json.memberTexts, commaJoin, List.append_assoc, List.cons_append]
    rw [htext, hmember, if_pos rfl, hmembers]
    simp only [List.append_assoc, List.singleton_append]

end

/-- Joining texts keeps every character of them, and puts a comma before each but the first. -/
theorem length_commaJoin (text : List Char) (texts : List (List Char)) :
    (commaJoin (text :: texts)).length + 1 = ((text :: texts).map fun text => text.length + 1).sum := by
  induction texts generalizing text with
  | nil => simp only [commaJoin, List.map_cons, List.map_nil, List.sum_cons, List.sum_nil, Nat.add_zero]
  | cons other texts ih =>
    have hrest := ih other
    simp only [commaJoin, List.length_append, List.length_cons, List.map_cons, List.sum_cons] at hrest ⊢
    omega

mutual

/-- The reader has room enough in the length of a text. -/
theorem work_le_length : (value : Json) → value.WellFormed → value.work ≤ value.stringify.length
  | .null, _ => by decide
  | .bool true, _ => by decide
  | .bool false, _ => by decide
  | .number numeral, h => by
    have hnumeral : isNumeral numeral.toList = true := h
    cases htext : numeral.toList with
    | nil =>
      rw [htext, isNumeral_nil] at hnumeral
      cases hnumeral
    | cons c text =>
      simp only [Json.work, Json.stringify, htext, List.length_cons]
      omega
  | .str s, _ => by
    simp only [Json.work, Json.stringify, quote, List.cons_append, List.length_cons]
    omega
  | .arr [], _ => by decide
  | .arr (item :: items), h => by
    have hitems := itemsWork_le (item :: items) h
    have hlength := length_commaJoin item.stringify (Json.itemTexts items)
    simp only [Json.work, Json.stringify, Json.itemTexts, List.length_cons, List.length_append, List.length_nil]
      at hitems ⊢
    omega
  | .obj [], _ => by decide
  | .obj ((name, value) :: members), h => by
    have hmembers := membersWork_le ((name, value) :: members) h.2
    have hlength := length_commaJoin (quote name.toList ++ ':' :: value.stringify) (Json.memberTexts members)
    simp only [Json.work, Json.stringify, Json.memberTexts, List.length_cons, List.length_append,
      List.length_nil] at hmembers hlength ⊢
    omega

/-- So it has for the items of an array. -/
theorem itemsWork_le : (items : List Json) → Json.ItemsWellFormed items →
    Json.itemsWork items ≤ ((Json.itemTexts items).map fun text => text.length + 1).sum
  | [], _ => by decide
  | item :: items, h => by
    have hitem := work_le_length item h.1
    have hitems := itemsWork_le items h.2
    simp only [Json.itemsWork, Json.itemTexts, List.map_cons, List.sum_cons]
    omega

/-- And for the members of an object. -/
theorem membersWork_le : (members : List (String × Json)) → Json.MembersWellFormed members →
    Json.membersWork members ≤ ((Json.memberTexts members).map fun text => text.length + 1).sum
  | [], _ => by decide
  | (name, value) :: members, h => by
    have hvalue := work_le_length value h.1
    have hmembers := membersWork_le members h.2
    simp only [Json.membersWork, Json.memberTexts, List.map_cons, List.sum_cons, List.length_append,
      List.length_cons]
    omega

end

/-- A value reads back as it was written. -/
theorem parse_stringify {value : Json} (h : value.WellFormed) : Json.parse value.stringify = some value := by
  have hfuel : value.work ≤ value.stringify.length + 1 := Nat.le_succ_of_le (work_le_length value h)
  have hread := parseValue_stringify value h _ hfuel [] numberEnd_nil
  rw [List.append_nil] at hread
  unfold Json.parse
  rw [hread]
  rfl

/-- Two values are never written as one text. -/
theorem stringify_inj {value other : Json} (hvalue : value.WellFormed) (hother : other.WellFormed) :
    value.stringify = other.stringify ↔ value = other := by
  constructor
  · intro h
    have hread := parse_stringify hvalue
    rw [h, parse_stringify hother] at hread
    exact (Option.some.inj hread).symm
  · intro h
    rw [h]

end RoundTrip

end ConnectHub
