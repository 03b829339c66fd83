import ConnectHub.MediaHeader
import ConnectHub.Store.Transaction

/-!
# What is accepted as inline media

The chunks seen so far always are letters with padding after them, and what a check remembers is read off them.
The last chunk over, the groups of the letters come back from their bytes exactly when those of the last quantum
do, so the text is the canonical base64 of these bytes. The chunks that are decoded afterwards make up the bytes
whatever the cuts between them.
-/

namespace ConnectHub

open Store

section Shape

/-- How long a padded text is. -/
theorem length_paddedText (sextets : List Nat) (padding : Nat) :
    (paddedText sextets padding).length = sextets.length + padding := by
  rw [paddedText, List.length_append, List.length_map, List.length_replicate]

/-- A text of letters is the text of their groups. -/
theorem exists_sextets {text : List Nat} (h : ∀ unit ∈ text, (unitSextet unit).isSome = true) :
    ∃ sextets, Sextets sextets ∧ text = sextets.map sextetUnit := by
  induction text with
  | nil => exact ⟨[], List.forall_mem_nil _, rfl⟩
  | cons unit text ih =>
    have htext : ∀ unit ∈ text, (unitSextet unit).isSome = true :=
      fun unit hunit => h unit (List.mem_cons_of_mem _ hunit)
    obtain ⟨sextets, hsextets, rfl⟩ := ih htext
    obtain ⟨sextet, hsextet⟩ := Option.isSome_iff_exists.mp (h unit List.mem_cons_self)
    have hunit := sextetUnit_of_unitSextet hsextet
    have hall : Sextets (sextet :: sextets) := by
      intro other hother
      cases List.mem_cons.mp hother with
      | inl hhere => rw [hhere]; exact hunit.2
      | inr hthere => exact hsextets other hthere
    exact ⟨sextet :: sextets, hall, by rw [List.map_cons, hunit.1]⟩

/-- The units of groups are letters. -/
theorem isSome_of_sextets {sextets : List Nat} (h : Sextets sextets) :
    ∀ unit ∈ sextets.map sextetUnit, (unitSextet unit).isSome = true := by
  intro unit hunit
  obtain ⟨sextet, hsextet, rfl⟩ := List.mem_map.mp hunit
  rw [unitSextet_sextetUnit (h sextet hsextet)]
  rfl

/-- The padding is no letter. -/
theorem pad_not_letter (count : Nat) : ∀ unit, (List.replicate count padUnit).head? = some unit →
    (unitSextet unit).isSome = false := by
  intro unit hunit
  cases count with
  | zero => cases hunit
  | succ count =>
    cases hunit
    decide

/-- A chunk is accepted exactly when it is letters with at most two paddings after them. -/
theorem partAccepted_iff {part : List Nat} :
    partAccepted part = true ↔ ∃ sextets padding, Sextets sextets ∧ padding ≤ 2 ∧
      part = paddedText sextets padding := by
  unfold partAccepted
  rw [List.contains_iff_mem]
  constructor
  · intro h
    have hletters : ∀ unit ∈ part.takeWhile fun unit => (unitSextet unit).isSome,
        (unitSextet unit).isSome = true := by
      intro unit hunit
      exact List.mem_takeWhile_imp (p := fun unit => (unitSextet unit).isSome) hunit
    obtain ⟨sextets, hsextets, htext⟩ := exists_sextets hletters
    have hpads : ∃ padding ≤ 2, (part.dropWhile fun unit => (unitSextet unit).isSome) =
        List.replicate padding padUnit := by
      simp only [List.mem_cons, List.not_mem_nil, or_false] at h
      rcases h with hnone | hone | htwo
      · exact ⟨0, by omega, hnone⟩
      · exact ⟨1, by omega, hone⟩
      · exact ⟨2, by omega, htwo⟩
    obtain ⟨padding, hpadding, hrest⟩ := hpads
    refine ⟨sextets, padding, hsextets, hpadding, ?_⟩
    rw [paddedText, ← htext, ← hrest, List.takeWhile_append_dropWhile]
  · intro h
    obtain ⟨sextets, padding, hsextets, hpadding, rfl⟩ := h
    have hsplit := takeWhile_prefix (p := fun unit => (unitSextet unit).isSome) (isSome_of_sextets hsextets)
      (pad_not_letter padding)
    rw [paddedText, hsplit.2]
    match padding, hpadding with
    | 0, _ => decide
    | 1, _ => decide
    | 2, _ => decide

/-- The padding of a padded text. -/
theorem pad_mem_paddedText {sextets : List Nat} {padding : Nat} :
    padUnit ∈ paddedText sextets padding ↔ padding ≠ 0 := by
  rw [paddedText, List.mem_append, List.mem_replicate]
  constructor
  · intro h
    cases h with
    | inl hletter =>
      obtain ⟨sextet, -, hsame⟩ := List.mem_map.mp hletter
      exact absurd hsame (sextetUnit_ne_pad sextet)
    | inr hpad => exact hpad.1
  · intro h
    exact .inr ⟨h, rfl⟩

/-- The padding begins where the letters end. -/
theorem idxOf_pad_paddedText (sextets : List Nat) (padding : Nat) :
    (paddedText sextets (padding + 1)).idxOf padUnit = sextets.length := by
  have hnot : padUnit ∉ sextets.map sextetUnit := by
    intro h
    obtain ⟨sextet, -, hsame⟩ := List.mem_map.mp h
    exact sextetUnit_ne_pad sextet hsame
  rw [paddedText, List.idxOf_append_of_notMem hnot, List.replicate_succ, List.idxOf_cons_self, List.length_map,
    Nat.add_zero]

/-- A text of padding only has no letters. -/
theorem any_ne_pad_paddedText {sextets : List Nat} {padding : Nat} :
    (paddedText sextets padding).any (· ≠ padUnit) = false ↔ sextets = [] := by
  rw [List.any_eq_false]
  constructor
  · intro h
    cases sextets with
    | nil => rfl
    | cons sextet sextets =>
      have hfirst : sextetUnit sextet ∈ paddedText (sextet :: sextets) padding :=
        List.mem_append_left _ List.mem_cons_self
      exact absurd (decide_eq_true (sextetUnit_ne_pad sextet)) (h _ hfirst)
  · intro h unit hunit
    rw [h, paddedText, List.map_nil, List.nil_append] at hunit
    rw [List.eq_of_mem_replicate hunit]
    decide

/-- The beginning of a padded text. -/
theorem take_paddedText (sextets : List Nat) (padding count : Nat) :
    (paddedText sextets padding).take count =
      paddedText (sextets.take count) (min (count - sextets.length) padding) := by
  rw [paddedText, paddedText, List.take_append, List.take_replicate, List.map_take, List.length_map]

/-- The rest of a padded text. -/
theorem drop_paddedText (sextets : List Nat) (padding count : Nat) :
    (paddedText sextets padding).drop count =
      paddedText (sextets.drop count) (padding - (count - sextets.length)) := by
  rw [paddedText, paddedText, List.drop_append, List.drop_replicate, List.map_drop, List.length_map]

/-- Chunks that follow each other make one padded text. -/
theorem paddedText_append {sextets others : List Nat} {padding more : Nat} (h : padding = 0 ∨ others = []) :
    paddedText sextets padding ++ paddedText others more = paddedText (sextets ++ others) (padding + more) := by
  unfold paddedText
  cases h with
  | inl hnone => rw [hnone, List.replicate_zero, List.append_nil, List.map_append, List.append_assoc, Nat.zero_add]
  | inr hnil =>
    rw [hnil, List.map_nil, List.nil_append, List.append_nil, List.append_assoc, List.replicate_append_replicate]

/-- The last units of a text end those of a longer one. -/
theorem lastUnits_append (count : Nat) (front back : List Nat) :
    lastUnits count (lastUnits count front ++ back) = lastUnits count (front ++ back) := by
  unfold lastUnits
  by_cases hshort : front.length ≤ count
  · rw [Nat.sub_eq_zero_of_le hshort, List.drop_zero]
  · conv_rhs => rw [← List.take_append_drop (front.length - count) front, List.append_assoc]
    have hlength : (front.take (front.length - count)).length = front.length - count := by
      rw [List.length_take]
      omega
    have hdrop : ((front.take (front.length - count)) ++
        (front.drop (front.length - count) ++ back)).length - count =
        (front.take (front.length - count)).length +
          ((front.drop (front.length - count) ++ back).length - count) := by
      simp only [List.length_append, hlength, List.length_drop]
      omega
    rw [hdrop, List.drop_length_add_append]

end Shape

section Scan

/-- What a check remembers of letters with padding after them. -/
def scanOf (sextets : List Nat) (padding : Nat) : Base64Scan where
  length := sextets.length + padding
  padding := padding
  padded := decide (padding ≠ 0)
  tail := lastUnits 4 (paddedText sextets padding)

variable {maxBytes : Nat}

/-- A chunk of letters or padding is remembered as such, unless it makes the media too large. -/
theorem next_scanOf {sextets others : List Nat} {padding more : Nat} (hothers : Sextets others) (hmore : more ≤ 2)
    (h : padding = 0 ∨ others = []) :
    (scanOf sextets padding).next maxBytes (paddedText others more) =
      if (sextets ++ others).length * 3 / 4 > maxBytes then
        .error (.payloadTooLarge "Media exceeds configured size limit")
      else .ok (scanOf (sextets ++ others) (padding + more)) := by
  have haccepted : partAccepted (paddedText others more) = true :=
    partAccepted_iff.mpr ⟨others, more, hothers, hmore, rfl⟩
  have hpads : ((scanOf sextets padding).padded && (paddedText others more).any (· ≠ padUnit)) = false := by
    cases h with
    | inl hnone => rw [hnone]; rfl
    | inr hnil => rw [any_ne_pad_paddedText.mpr hnil, Bool.and_false]
  have hpadding : (if padUnit ∈ paddedText others more then
      padding + ((paddedText others more).length - (paddedText others more).idxOf padUnit) else padding) =
        padding + more := by
    cases more with
    | zero => rw [if_neg (mt pad_mem_paddedText.mp (by omega)), Nat.add_zero]
    | succ more =>
      rw [if_pos (pad_mem_paddedText.mpr (by omega)), idxOf_pad_paddedText, length_paddedText]
      omega
  have hpadded : (decide (padding ≠ 0) || decide (padUnit ∈ paddedText others more)) =
      decide (padding + more ≠ 0) := by
    rw [← Bool.decide_or, decide_eq_decide, pad_mem_paddedText]
    omega
  have htail : lastUnits 4 (lastUnits 4 (paddedText sextets padding) ++ paddedText others more) =
      lastUnits 4 (paddedText (sextets ++ others) (padding + more)) := by
    rw [lastUnits_append, paddedText_append h]
  have hlength : sextets.length + padding + (paddedText others more).length =
      (sextets ++ others).length + (padding + more) := by
    rw [length_paddedText, List.length_append]
    omega
  have huseful : (sextets ++ others).length + (padding + more) - (padding + more) = (sextets ++ others).length := by
    omega
  unfold Base64Scan.next
  rw [haccepted, hpads]
  simp only [Bool.not_true, Bool.or_self, Bool.false_eq_true, if_false]
  simp only [scanOf, hpadding, hpadded, htail, hlength, huseful]

/-- A chunk is rejected unless it goes on with the letters, or with the padding. -/
theorem next_ok {sextets : List Nat} {padding : Nat} {part : List Nat} {scan : Base64Scan}
    (h : (scanOf sextets padding).next maxBytes part = .ok scan) :
    ∃ others more, Sextets others ∧ more ≤ 2 ∧ part = paddedText others more ∧ (padding = 0 ∨ others = []) := by
  have hchecks : ¬ (!partAccepted part || ((scanOf sextets padding).padded && part.any (· ≠ padUnit))) = true := by
    intro hbad
    unfold Base64Scan.next at h
    rw [if_pos hbad] at h
    cases h
  have haccepted : partAccepted part = true := by
    cases hpart : partAccepted part with
    | false => rw [hpart] at hchecks; simp at hchecks
    | true => rfl
  obtain ⟨others, more, hothers, hmore, rfl⟩ := partAccepted_iff.mp haccepted
  have hgoes : padding = 0 ∨ others = [] := by
    by_cases hnone : padding = 0
    · exact .inl hnone
    · right
      apply any_ne_pad_paddedText.mp
      have hpadded : (scanOf sextets padding).padded = true := decide_eq_true hnone
      rw [haccepted, hpadded, Bool.not_true, Bool.false_or, Bool.true_and] at hchecks
      exact Bool.eq_false_iff.mpr hchecks
  exact ⟨others, more, hothers, hmore, rfl, hgoes⟩

variable {active : Nat → Except MediaFailure Unit}

/-- What passes the checks is letters with padding after them, within the limit. -/
theorem scanParts_ok {turn : Nat} {sextets : List Nat} {padding : Nat} {parts : List (List Nat)} {scan : Base64Scan}
    (hsextets : Sextets sextets) (hfits : sextets.length * 3 / 4 ≤ maxBytes)
    (h : scanParts active maxBytes turn (scanOf sextets padding) parts = .ok scan) :
    ∃ letters pads, Sextets letters ∧ letters.length * 3 / 4 ≤ maxBytes ∧ scan = scanOf letters pads ∧
      paddedText sextets padding ++ parts.flatten = paddedText letters pads := by
  induction parts generalizing turn sextets padding with
  | nil =>
    cases h
    exact ⟨sextets, padding, hsextets, hfits, rfl, List.append_nil _⟩
  | cons part parts ih =>
    rw [scanParts] at h
    cases hactive : active turn with
    | error failure => rw [hactive] at h; cases h
    | ok _ =>
      cases hnext : (scanOf sextets padding).next maxBytes part with
      | error failure => rw [hactive, hnext] at h; cases h
      | ok seen =>
        have hrest : scanParts active maxBytes (turn + 1) seen parts = .ok scan := by
          rw [hactive, hnext] at h
          exact h
        obtain ⟨others, more, hothers, hmore, rfl, hgoes⟩ := next_ok hnext
        rw [next_scanOf hothers hmore hgoes] at hnext
        by_cases hlarge : (sextets ++ others).length * 3 / 4 > maxBytes
        · rw [if_pos hlarge] at hnext
          cases hnext
        · rw [if_neg hlarge] at hnext
          cases hnext
          have hboth : Sextets (sextets ++ others) := by
            intro sextet hsextet
            cases List.mem_append.mp hsextet with
            | inl hfront => exact hsextets sextet hfront
            | inr hback => exact hothers sextet hback
          have hdone := ih hboth (by omega) hrest
          rw [List.flatten_cons, ← List.append_assoc, paddedText_append hgoes]
          exact hdone

/-- Letters with at most two paddings after them pass the checks however they are cut, if they are within the
limit. -/
theorem scanParts_paddedText (hactive : ∀ turn, active turn = .ok ()) {letters : List Nat} {pads : Nat}
    (hletters : Sextets letters) (hpads : pads ≤ 2) (hfits : letters.length * 3 / 4 ≤ maxBytes) {turn count : Nat}
    {parts : List (List Nat)} (h : parts.flatten = (paddedText letters pads).drop count) :
    scanParts active maxBytes turn (scanOf (letters.take count) (min (count - letters.length) pads)) parts =
      .ok (scanOf letters pads) := by
  induction parts generalizing turn count with
  | nil =>
    have hend : letters.length + pads ≤ count := by
      rw [List.flatten_nil] at h
      have hlength := congrArg List.length h
      rw [List.length_drop, length_paddedText, List.length_nil] at hlength
      omega
    rw [List.take_of_length_le (by omega), Nat.min_eq_right (by omega)]
    rfl
  | cons part parts ih =>
    rw [List.flatten_cons] at h
    have hpart : part = ((paddedText letters pads).drop count).take part.length := by
      rw [← h, List.take_left]
    have hrest : parts.flatten = (paddedText letters pads).drop (count + part.length) := by
      rw [← List.drop_drop, ← h, List.drop_left]
    have hshape : part = paddedText ((letters.drop count).take part.length)
        (min (part.length - (letters.length - count)) (pads - (count - letters.length))) := by
      conv_lhs => rw [hpart]
      rw [drop_paddedText, take_paddedText, List.length_drop]
    have hothers : Sextets ((letters.drop count).take part.length) :=
      fun sextet hsextet => hletters sextet (List.mem_of_mem_drop (List.mem_of_mem_take hsextet))
    have hgoes : min (count - letters.length) pads = 0 ∨ (letters.drop count).take part.length = [] := by
      by_cases hover : count ≤ letters.length
      · left
        omega
      · right
        rw [List.drop_of_length_le (by omega), List.take_nil]
    have hjoin : letters.take count ++ (letters.drop count).take part.length =
        letters.take (count + part.length) := by
      rw [List.take_add]
    have hfit : ¬ (letters.take (count + part.length)).length * 3 / 4 > maxBytes := by
      rw [List.length_take]
      have hle : min (count + part.length) letters.length ≤ letters.length := Nat.min_le_right _ _
      omega
    have hcount : min (count - letters.length) pads +
        min (part.length - (letters.length - count)) (pads - (count - letters.length)) =
          min (count + part.length - letters.length) pads := by
      omega
    have hmore : min (part.length - (letters.length - count)) (pads - (count - letters.length)) ≤ 2 := by
      omega
    have hnext : (scanOf (letters.take count) (min (count - letters.length) pads)).next maxBytes part =
        .ok (scanOf (letters.take (count + part.length)) (min (count + part.length - letters.length) pads)) := by
      conv_lhs => rw [hshape]
      rw [next_scanOf hothers hmore hgoes, hjoin, if_neg hfit, hcount]
    rw [scanParts, hactive turn, hnext]
    exact ih hrest

end Scan

section Finish

/-- The groups of letters come back. -/
theorem filterMap_letters {sextets : List Nat} (h : Sextets sextets) :
    ((sextets.map sextetUnit).filterMap fun unit =>
      if unit = 45 then some 62 else if unit = 95 then some 63 else unitSextet unit) = sextets := by
  have hone : ∀ sextet < 64, (if sextetUnit sextet = 45 then some 62
      else if sextetUnit sextet = 95 then some 63 else unitSextet (sextetUnit sextet)) = some sextet := by
    decide
  induction sextets with
  | nil => rfl
  | cons sextet sextets ih =>
    have hrest : Sextets sextets := fun other hother => h other (List.mem_cons_of_mem _ hother)
    rw [List.map_cons, List.filterMap_cons, hone sextet (h sextet List.mem_cons_self), ih hrest]

/-- Letters determine their groups. -/
theorem letters_inj {sextets others : List Nat} (h : Sextets sextets) (hothers : Sextets others) :
    sextets.map sextetUnit = others.map sextetUnit ↔ sextets = others := by
  constructor
  · intro hsame
    rw [← filterMap_letters h, hsame, filterMap_letters hothers]
  · intro hsame
    rw [hsame]

/-- A buffer takes a padded text for the bytes of its groups. -/
theorem bufferFrom_paddedText {sextets : List Nat} (h : Sextets sextets) (padding : Nat) :
    bufferFrom (paddedText sextets padding) = ofSextets sextets := by
  have hletters : (paddedText sextets padding).takeWhile (· ≠ padUnit) = sextets.map sextetUnit := by
    cases padding with
    | zero => rw [paddedText, List.replicate_zero, List.append_nil, takeWhile_letters]
    | succ padding =>
      have hwhole := takeWhile_paddedText sextets padding []
      rw [List.append_nil] at hwhole
      exact hwhole
  rw [bufferFrom, hletters, filterMap_letters h]

/-- A padded text without its padding is its letters. -/
theorem stripPadding_paddedText (sextets : List Nat) (padding : Nat) :
    stripPadding (paddedText sextets padding) = sextets.map sextetUnit := by
  have hpads : ∀ unit ∈ List.replicate padding padUnit, decide (unit = padUnit) = true :=
    fun unit hunit => decide_eq_true (List.eq_of_mem_replicate hunit)
  have hletters : ((sextets.map sextetUnit).reverse).dropWhile (fun unit => decide (unit = padUnit)) =
      (sextets.map sextetUnit).reverse := by
    apply List.dropWhile_eq_self_iff.mpr
    intro hpos
    have hmem := List.getElem_mem hpos
    obtain ⟨sextet, -, hsame⟩ := List.mem_map.mp (List.mem_reverse.mp hmem)
    rw [← hsame, decide_eq_true_eq]
    exact sextetUnit_ne_pad sextet
  rw [stripPadding, List.rdropWhile, paddedText, List.reverse_append, List.reverse_replicate,
    List.dropWhile_append_of_pos hpads, hletters, List.reverse_reverse]

/-- The last units of the last units. -/
theorem lastUnits_lastUnits {few many : Nat} (h : few ≤ many) (text : List Nat) :
    lastUnits few (lastUnits many text) = lastUnits few text := by
  unfold lastUnits
  rw [List.drop_drop, List.length_drop]
  congr 1
  omega

/-- The last quantum of a padded text. -/
theorem lastUnits_paddedText {sextets : List Nat} {padding count : Nat} (h : padding ≤ count) :
    lastUnits count (paddedText sextets padding) =
      paddedText (sextets.drop (sextets.length + padding - count)) padding := by
  rw [lastUnits, drop_paddedText, length_paddedText]
  congr 1
  omega

/-- Where the last quantum of some groups begins. -/
def lastQuantum (sextets : List Nat) : Nat :=
  if sextets.length % 4 ≠ 0 then sextets.length - sextets.length % 4 else sextets.length - 4

/-- The last quantum begins after whole ones. -/
theorem lastQuantum_aligned (sextets : List Nat) :
    (sextets.take (lastQuantum sextets)).length % 4 = 0 := by
  unfold lastQuantum
  rw [List.length_take]
  split <;> omega

/-- Some groups come back from their bytes exactly when those of the last quantum do. -/
theorem toSextets_lastQuantum {sextets : List Nat} (h : Sextets sextets) :
    toSextets (ofSextets (sextets.drop (lastQuantum sextets))) = sextets.drop (lastQuantum sextets) ↔
      toSextets (ofSextets sextets) = sextets := by
  have hfront : Sextets (sextets.take (lastQuantum sextets)) :=
    fun sextet hsextet => h sextet (List.mem_of_mem_take hsextet)
  apply Iff.symm
  conv_lhs => rw [← List.take_append_drop (lastQuantum sextets) sextets]
  exact toSextets_ofSextets_append hfront (lastQuantum_aligned sextets)

/-- How letters and padding have to fit to each other. -/
def PaddingFits (sextets : List Nat) (padding : Nat) : Prop :=
  sextets.length ≠ 0 ∧ sextets.length % 4 ≠ 1 ∧ (padding = 0 ∨ padding = (4 - sextets.length % 4) % 4)

instance (sextets : List Nat) (padding : Nat) : Decidable (PaddingFits sextets padding) :=
  inferInstanceAs (Decidable (_ ∧ _ ∧ _))

/-- The last check is about the last quantum. -/
theorem finish_scanOf {sextets : List Nat} {padding : Nat} (h : Sextets sextets) :
    (scanOf sextets padding).finish =
      if ¬ PaddingFits sextets padding then .error (.badRequest "Invalid media base64")
      else if toSextets (ofSextets sextets) ≠ sextets then
        .error (.badRequest "Invalid media base64 padding")
      else .ok (sextets.length * 3 / 4) := by
  have huseful : sextets.length + padding - padding = sextets.length := Nat.add_sub_cancel _ _
  have hchecks : (sextets.length + padding = 0 ∨ padding > 2 ∨ sextets.length % 4 = 1 ∨
      (padding > 0 ∧ (sextets.length + padding) % 4 ≠ 0) ∨
        (padding ≠ 0 ∧ padding ≠ (4 - sextets.length % 4) % 4)) ↔ ¬ PaddingFits sextets padding := by
    unfold PaddingFits
    omega
  unfold Base64Scan.finish
  simp only [scanOf, huseful, hchecks]
  by_cases hfits : PaddingFits sextets padding
  · have hfinal : (if sextets.length % 4 ≠ 0 then
        lastUnits (sextets.length % 4 + padding) (lastUnits 4 (paddedText sextets padding))
        else lastUnits 4 (paddedText sextets padding)) =
          paddedText (sextets.drop (lastQuantum sextets)) padding := by
      unfold PaddingFits at hfits
      unfold lastQuantum
      by_cases hrest : sextets.length % 4 = 0
      · rw [if_neg (not_not_intro hrest), if_neg (not_not_intro hrest), lastUnits_paddedText (by omega)]
        congr 2
        omega
      · rw [if_pos hrest, if_pos hrest, lastUnits_lastUnits (by omega), lastUnits_paddedText (by omega)]
        congr 2
        omega
    have hlast : Sextets (sextets.drop (lastQuantum sextets)) :=
      fun sextet hsextet => h sextet (List.mem_of_mem_drop hsextet)
    have hstrip : stripPadding (encodeBase64 (bufferFrom (paddedText (sextets.drop (lastQuantum sextets)) padding))) =
        stripPadding (paddedText (sextets.drop (lastQuantum sextets)) padding) ↔
          toSextets (ofSextets sextets) = sextets := by
      rw [bufferFrom_paddedText hlast, stripPadding_paddedText]
      have hencoded : encodeBase64 (ofSextets (sextets.drop (lastQuantum sextets))) =
          paddedText (toSextets (ofSextets (sextets.drop (lastQuantum sextets))))
            (paddingOf (ofSextets (sextets.drop (lastQuantum sextets)))) := rfl
      rw [hencoded, stripPadding_paddedText, letters_inj (sextets_toSextets _) hlast, toSextets_lastQuantum h]
    rw [if_neg (not_not_intro hfits), if_neg (not_not_intro hfits), hfinal]
    by_cases hbits : toSextets (ofSextets sextets) = sextets
    · rw [if_neg (not_not_intro (hstrip.mpr hbits)), if_neg (not_not_intro hbits)]
    · rw [if_pos (mt hstrip.mp hbits), if_pos hbits]
  · rw [if_pos hfits, if_pos hfits]

/-- The padding that fits to the letters is that of their bytes. -/
theorem paddingFits_iff {sextets : List Nat} {padding : Nat} (h : toSextets (ofSextets sextets) = sextets) :
    PaddingFits sextets padding ↔ ofSextets sextets ≠ [] ∧ (padding = 0 ∨ padding = paddingOf (ofSextets sextets)) := by
  have hletters := congrArg List.length h
  have hbytes := length_ofSextets sextets
  rw [length_toSextets] at hletters
  have hnil : ofSextets sextets ≠ [] ↔ (ofSextets sextets).length ≠ 0 :=
    not_congr List.length_eq_zero_iff.symm
  have hquantum : sextets.length % 4 = 0 ∧ (ofSextets sextets).length % 3 = 0 ∨
      sextets.length % 4 = 2 ∧ (ofSextets sextets).length % 3 = 1 ∨
      sextets.length % 4 = 3 ∧ (ofSextets sextets).length % 3 = 2 := by
    have hmod : sextets.length % 4 = 0 ∨ sextets.length % 4 = 1 ∨ sextets.length % 4 = 2 ∨
        sextets.length % 4 = 3 := by omega
    rcases hmod with hmod | hmod | hmod | hmod
    · omega
    · omega
    · omega
    · omega
  have hpadding : (4 - sextets.length % 4) % 4 = paddingOf (ofSextets sextets) := by
    unfold paddingOf
    rcases hquantum with ⟨hfour, hthree⟩ | ⟨hfour, hthree⟩ | ⟨hfour, hthree⟩
    · rw [hfour, hthree]
    · rw [hfour, hthree]
    · rw [hfour, hthree]
  rw [hnil, ← hpadding]
  unfold PaddingFits
  omega

end Finish

section Decoding

/-- Whole quanta decode to their bytes, and the rest to the others. -/
theorem bufferFrom_take {sextets : List Nat} {padding count : Nat} (hsextets : Sextets sextets)
    (hcount : count % 4 = 0) :
    bufferFrom ((paddedText sextets padding).take count) ++ ofSextets (sextets.drop count) =
      ofSextets sextets := by
  have hfront : Sextets (sextets.take count) := fun sextet hsextet => hsextets sextet (List.mem_of_mem_take hsextet)
  rw [take_paddedText, bufferFrom_paddedText hfront]
  by_cases hinside : count ≤ sextets.length
  · have haligned : (sextets.take count).length % 4 = 0 := by
      rw [List.length_take, Nat.min_eq_left hinside]
      exact hcount
    rw [← ofSextets_append _ haligned, List.take_append_drop]
  · rw [List.take_of_length_le (by omega), List.drop_of_length_le (by omega)]
    exact List.append_nil _

variable {active : Nat → Except MediaFailure Unit}

/-- The chunks that are decoded make up the bytes of the letters, whatever the cuts. -/
theorem decodeParts_flatten (hactive : ∀ turn, active turn = .ok ()) {sextets : List Nat} {padding turn : Nat}
    {carry : List Nat} {parts : List (List Nat)} (hsextets : Sextets sextets)
    (h : carry ++ parts.flatten = paddedText sextets padding) :
    ∃ decoded, decodeParts active turn carry parts = .ok decoded ∧ decoded.flatten = ofSextets sextets := by
  induction parts generalizing turn carry sextets padding with
  | nil =>
    rw [List.flatten_nil, List.append_nil] at h
    refine ⟨_, rfl, ?_⟩
    by_cases hcarry : carry = []
    · have hlength := congrArg List.length h
      rw [hcarry, length_paddedText, List.length_nil] at hlength
      have hnil : sextets = [] := List.eq_nil_of_length_eq_zero (by omega)
      rw [if_pos hcarry, hnil]
      rfl
    · rw [if_neg hcarry, h, List.flatten_singleton, bufferFrom_paddedText hsextets]
  | cons part parts ih =>
    have hwhole : (carry ++ part) ++ parts.flatten = paddedText sextets padding := by
      rw [List.append_assoc, ← List.flatten_cons, h]
    let aligned := (carry ++ part).length - (carry ++ part).length % 4
    have hmod : aligned % 4 = 0 := by
      simp only [aligned]
      omega
    have hinside : aligned ≤ (carry ++ part).length := Nat.sub_le _ _
    have htake : (carry ++ part).take aligned = (paddedText sextets padding).take aligned := by
      rw [← hwhole, List.take_append_of_le_length hinside]
    have hrest : (carry ++ part).drop aligned ++ parts.flatten =
        paddedText (sextets.drop aligned) (padding - (aligned - sextets.length)) := by
      rw [← drop_paddedText, ← hwhole, List.drop_append_of_le_length hinside]
    have hlater : Sextets (sextets.drop aligned) :=
      fun sextet hsextet => hsextets sextet (List.mem_of_mem_drop hsextet)
    have hlaterDecoded : ∃ decoded, decodeParts active (turn + 1) ((carry ++ part).drop aligned) parts =
        .ok decoded ∧ decoded.flatten = ofSextets (sextets.drop aligned) := ih hlater hrest
    obtain ⟨decoded, hdecoded, hflatten⟩ := hlaterDecoded
    have hbytes : bufferFrom ((carry ++ part).take aligned) ++ ofSextets (sextets.drop aligned) =
        ofSextets sextets := by
      rw [htake]
      exact bufferFrom_take hsextets hmod
    refine ⟨if aligned ≠ 0 then bufferFrom ((carry ++ part).take aligned) :: decoded else decoded, ?_, ?_⟩
    · simp only [decodeParts, hactive turn]
      change (decodeParts active (turn + 1) ((carry ++ part).drop aligned) parts >>= _) = _
      rw [hdecoded]
      rfl
    · by_cases hnone : aligned = 0
      · rw [hnone, List.take_zero, List.drop_zero] at hbytes
        rw [if_neg (not_not_intro hnone), hflatten, hnone, List.drop_zero]
      · rw [if_pos hnone, List.flatten_cons, hflatten, hbytes]

end Decoding

section Inspection

/-- The canonical base64 of some bytes is the padded text of groups that come back from their bytes. -/
theorem canonicalBase64_iff {text : List Nat} {bytes : List UInt8} :
    CanonicalBase64 text bytes ↔ ∃ sextets padding, Sextets sextets ∧ text = paddedText sextets padding ∧
      toSextets (ofSextets sextets) = sextets ∧ ofSextets sextets = bytes ∧
        (padding = 0 ∨ padding = paddingOf bytes) := by
  have hback : toSextets (ofSextets (toSextets bytes)) = toSextets bytes := by
    rw [ofSextets_toSextets]
  constructor
  · intro h
    cases h with
    | inl hpadded =>
      exact ⟨_, _, sextets_toSextets bytes, hpadded, hback, ofSextets_toSextets bytes, .inr rfl⟩
    | inr hplain =>
      refine ⟨_, 0, sextets_toSextets bytes, ?_, hback, ofSextets_toSextets bytes, .inl rfl⟩
      rw [hplain, paddedText, List.replicate_zero, List.append_nil, encodeUnpadded]
  · intro h
    obtain ⟨sextets, padding, -, rfl, hsame, rfl, hpadding⟩ := h
    have hletters : encodeUnpadded (ofSextets sextets) = sextets.map sextetUnit := by
      rw [encodeUnpadded, hsame]
    cases hpadding with
    | inl hnone =>
      right
      rw [hletters, hnone, paddedText, List.replicate_zero, List.append_nil]
    | inr hsome =>
      left
      rw [encodeBase64, hletters, hsome, paddedText]

variable {active : Nat → Except MediaFailure Unit}

/-- Inline media is accepted exactly when its header, if there is one, is well formed and its data without blanks
is the canonical base64 of some bytes within the limit, which are counted; and what is so encoded is decoded, wherever
blanks and chunks fall. -/
theorem inspectBase64_accepts (hactive : ∀ turn, active turn = .ok ()) (value : List Nat) (maxBytes : Nat)
    (media : InspectedMedia) :
    (inspectBase64 active value maxBytes = .ok media ↔
      ∃ bytes, ValueHeader value media.offset media.mimeType ∧ bytes ≠ [] ∧ bytes.length ≤ maxBytes ∧
        CanonicalBase64 (compact (value.drop media.offset)) bytes ∧ media.bytes = bytes.length) ∧
      ∀ bytes, CanonicalBase64 (compact (value.drop media.offset)) bytes →
        ∃ decoded, decodedBase64 active value media.offset = .ok decoded ∧ decoded.flatten = bytes := by
  refine ⟨⟨fun h => ?_, fun h => ?_⟩, fun bytes hcanonical => ?_⟩
  · -- what was scanned to its end and found to fit is canonical
    obtain ⟨⟨offset, mimeType⟩, hheader, h⟩ := Store.except_bind_ok.mp h
    obtain ⟨scan, hscan, h⟩ := Store.except_bind_ok.mp h
    obtain ⟨size, hfinish, h⟩ := Store.except_bind_ok.mp h
    cases h
    have hstart : scanParts active maxBytes 0 (scanOf [] 0) (compactParts (value.drop offset)) = .ok scan := hscan
    obtain ⟨sextets, padding, hsextets, hsize, rfl, htext⟩ :=
      scanParts_ok (List.forall_mem_nil _) (Nat.zero_le _) hstart
    rw [flatten_compactParts] at htext
    have hdata : compact (value.drop offset) = paddedText sextets padding := htext
    rw [finish_scanOf hsextets] at hfinish
    by_cases hfits : PaddingFits sextets padding
    · rw [if_neg (not_not_intro hfits)] at hfinish
      by_cases hbits : toSextets (ofSextets sextets) = sextets
      · rw [if_neg (not_not_intro hbits)] at hfinish
        cases hfinish
        have hbytes := (paddingFits_iff hbits).mp hfits
        have hcanonical : CanonicalBase64 (compact (value.drop offset)) (ofSextets sextets) :=
          canonicalBase64_iff.mpr ⟨sextets, padding, hsextets, hdata, hbits, rfl, hbytes.2⟩
        have hcount := length_ofSextets sextets
        exact ⟨ofSextets sextets, mediaHeader_eq_ok.mp hheader, hbytes.1, by omega, hcanonical, hcount.symm⟩
      · rw [if_pos hbits] at hfinish
        cases hfinish
    · rw [if_pos hfits] at hfinish
      cases hfinish
  · obtain ⟨bytes, hheader, hbytes, hsize, hcanonical, hcount⟩ := h
    obtain ⟨sextets, padding, hsextets, htext, hbits, rfl, hpadding⟩ := canonicalBase64_iff.mp hcanonical
    have hfits : PaddingFits sextets padding := (paddingFits_iff hbits).mpr ⟨hbytes, hpadding⟩
    have hlength := length_ofSextets sextets
    have hpads : padding ≤ 2 := by
      unfold PaddingFits at hfits
      omega
    have hscan : scanParts active maxBytes 0 {} (compactParts (value.drop media.offset)) =
        .ok (scanOf sextets padding) := by
      have hparts : (compactParts (value.drop media.offset)).flatten = (paddedText sextets padding).drop 0 := by
        rw [flatten_compactParts, htext, List.drop_zero]
      have hrun := @scanParts_paddedText maxBytes active hactive _ _ hsextets hpads (by omega) 0 0 _ hparts
      have hnone : min (0 - sextets.length) padding = 0 := by omega
      rw [List.take_zero, hnone] at hrun
      exact hrun
    have hfinish : (scanOf sextets padding).finish = .ok media.bytes := by
      rw [finish_scanOf hsextets, if_neg (not_not_intro hfits), if_neg (not_not_intro hbits), hcount, hlength]
    exact Store.except_bind_ok.mpr ⟨_, mediaHeader_eq_ok.mpr hheader, Store.except_bind_ok.mpr ⟨_, hscan,
      Store.except_bind_ok.mpr ⟨_, hfinish, rfl⟩⟩⟩
  · obtain ⟨sextets, padding, hsextets, htext, -, rfl, -⟩ := canonicalBase64_iff.mp hcanonical
    have hparts : [] ++ (compactParts (value.drop media.offset)).flatten = paddedText sextets padding := by
      rw [List.nil_append, flatten_compactParts, htext]
    exact decodeParts_flatten hactive hsextets hparts

/-- A data URI of one byte, with a line feed in its data. -/
theorem inspectBase64_accepts_small :
    (∀ turn : Nat, (fun _ => .ok () : Nat → Except MediaFailure Unit) turn = .ok ()) ∧
      inspectBase64 (fun _ => .ok ()) (ascii "data:;base64,Q\nQ==") 1 = .ok { offset := 13, bytes := 1 } ∧
      CanonicalBase64 (compact ((ascii "data:;base64,Q\nQ==").drop 13)) [65] ∧
      ∃ decoded, decodedBase64 (fun _ => .ok ()) (ascii "data:;base64,Q\nQ==") 13 = .ok decoded ∧
        decoded.flatten = [65] := by
  have hactive : ∀ turn : Nat, (fun _ => .ok () : Nat → Except MediaFailure Unit) turn = .ok () := fun _ => rfl
  have hheader : ValueHeader (ascii "data:;base64,Q\nQ==") 13 none := mediaHeader_eq_ok.mp (by decide +kernel)
  have hcanonical : CanonicalBase64 (compact ((ascii "data:;base64,Q\nQ==").drop 13)) [65] :=
    .inl (by decide +kernel)
  have haccepts := inspectBase64_accepts hactive (ascii "data:;base64,Q\nQ==") 1 { offset := 13, bytes := 1 }
  have haccepted := haccepts.1.mpr ⟨[65], hheader, by decide, by decide, hcanonical, rfl⟩
  exact ⟨hactive, haccepted, hcanonical, haccepts.2 [65] hcanonical⟩

end Inspection

end ConnectHub
