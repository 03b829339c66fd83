import ConnectHub.MediaBase64

/-!
# Headers of inline media

What stands before the data of a data URI, as a grammar: the scheme, perhaps a media type, perhaps a charset and
the word base64, the words in whatever case. The header is accepted exactly when it has this form.
-/

namespace ConnectHub

open Store

/-- A type and a subtype with a slash between them. -/
structure MediaType (text : List Nat) : Prop where
  parts : ∃ first second : List Nat, text = first ++ 47 :: second ∧ first ≠ [] ∧ second ≠ [] ∧
    (∀ unit ∈ first, isTypeUnit unit = true) ∧ ∀ unit ∈ second, isTypeUnit unit = true

/-- A text is a word in whatever case. -/
def FoldsTo (word text : List Nat) : Prop := text.map lowerUnit = word

/-- A text is empty or names a charset. -/
def CharsetPart (text : List Nat) : Prop :=
  text = [] ∨ ∃ word name, text = word ++ name ∧ FoldsTo (ascii ";charset=") word ∧ name ≠ [] ∧
    ∀ unit ∈ name, isCharsetUnit unit = true

/-- The form of the header of a data URI that names a media type or none. -/
def WellFormedHeader (header : List Nat) (mimeType : Option (List Nat)) : Prop :=
  ∃ scheme charset ending, header = scheme ++ (mimeType.getD [] ++ (charset ++ ending)) ∧
    FoldsTo (ascii "data:") scheme ∧ (∀ found, mimeType = some found → MediaType found) ∧ CharsetPart charset ∧
    FoldsTo (ascii ";base64,") ending

/-- A value has no header, or a well-formed one of at most 1024 units that ends at its first comma. -/
def ValueHeader (value : List Nat) (offset : Nat) (mimeType : Option (List Nat)) : Prop :=
  (¬ ascii "data:" <+: value ∧ offset = 0 ∧ mimeType = none) ∨
    (ascii "data:" <+: value ∧ 44 ∈ value ∧ offset = value.idxOf 44 + 1 ∧ offset ≤ 1024 ∧
      WellFormedHeader (value.take offset) mimeType)

section Words

/-- A text begins with a word exactly when it is the word in some case and the rest. -/
theorem expectFold_eq_some {word text rest : List Nat} :
    expectFold word text = some rest ↔ ∃ found, FoldsTo word found ∧ text = found ++ rest := by
  unfold expectFold FoldsTo
  constructor
  · intro h
    split at h
    · rename_i hword
      cases h
      exact ⟨text.take word.length, hword, (List.take_append_drop _ _).symm⟩
    · cases h
  · rintro ⟨found, hfound, rfl⟩
    have hlength : word.length = found.length := by
      rw [← hfound, List.length_map]
    rw [hlength, List.take_left, List.drop_left, if_pos hfound]

/-- What begins a text ends where its units do. -/
theorem takeWhile_prefix {p : Nat → Bool} {front rest : List Nat} (hfront : ∀ unit ∈ front, p unit = true)
    (hrest : ∀ unit, rest.head? = some unit → p unit = false) :
    (front ++ rest).takeWhile p = front ∧ (front ++ rest).dropWhile p = rest := by
  have htake : rest.takeWhile p = [] := by
    cases rest with
    | nil => rfl
    | cons unit rest => simp [hrest unit rfl]
  have hdrop : rest.dropWhile p = rest := by
    cases rest with
    | nil => rfl
    | cons unit rest => simp [hrest unit rfl]
  constructor
  · rw [List.takeWhile_append_of_pos hfront, htake, List.append_nil]
  · rw [List.dropWhile_append_of_pos hfront, hdrop]

/-- The first unit of a word in some case. -/
theorem head_of_foldsTo {first : Nat} {word found : List Nat} (h : FoldsTo (first :: word) found) :
    ∃ unit more, found = unit :: more ∧ lowerUnit unit = first := by
  cases found with
  | nil => cases h
  | cons unit more =>
    have hfirst : lowerUnit unit = first := (List.cons.inj h).1
    exact ⟨unit, more, rfl, hfirst⟩

/-- Only a semicolon is a semicolon in lower case. -/
theorem eq_semicolon {unit : Nat} (h : lowerUnit unit = 59) : unit = 59 := by
  unfold lowerUnit at h
  split at h <;> omega

end Words

section Grammar

/-- A media type is found exactly where the grammar has one. -/
theorem matchType_sound {text rest : List Nat} {mimeType : Option (List Nat)}
    (h : matchType text = some (mimeType, rest)) :
    text = mimeType.getD [] ++ rest ∧ ∀ found, mimeType = some found → MediaType found := by
  unfold matchType at h
  simp only at h
  by_cases hfirst : text.takeWhile isTypeUnit = []
  · rw [if_pos hfirst] at h
    cases h
    exact ⟨rfl, fun found hfound => by cases hfound⟩
  · rw [if_neg hfirst] at h
    split at h
    · rename_i more hmore
      split at h
      · cases h
      · rename_i hsecond
        cases h
        have htext : text = text.takeWhile isTypeUnit ++ 47 :: more := by
          conv_lhs => rw [← List.takeWhile_append_dropWhile (p := isTypeUnit) (l := text)]
          rw [hmore]
        have hrest : more = more.takeWhile isTypeUnit ++ more.dropWhile isTypeUnit :=
          List.takeWhile_append_dropWhile.symm
        constructor
        · conv_lhs => rw [htext, hrest]
          rw [Option.getD_some, List.append_assoc, List.cons_append]
        · intro found hfound
          cases hfound
          exact ⟨_, _, rfl, hfirst, hsecond, fun unit hunit => List.mem_takeWhile_imp hunit,
            fun unit hunit => List.mem_takeWhile_imp hunit⟩
    · cases h

/-- A media type before a semicolon is found. -/
theorem matchType_complete {mimeType : Option (List Nat)} {rest : List Nat}
    (hfound : ∀ found, mimeType = some found → MediaType found) (hrest : rest.head? = some 59) :
    matchType (mimeType.getD [] ++ rest) = some (mimeType, rest) := by
  have hno : ∀ unit, rest.head? = some unit → isTypeUnit unit = false := by
    intro unit hunit
    rw [hrest] at hunit
    cases hunit
    decide
  unfold matchType
  cases mimeType with
  | none =>
    have hnone : rest.takeWhile isTypeUnit = [] := by
      cases rest with
      | nil => rfl
      | cons unit rest => rw [List.takeWhile_cons, hno unit rfl, if_neg Bool.false_ne_true]
    simp only [Option.getD_none, List.nil_append, hnone, if_true]
  | some found =>
    obtain ⟨first, second, rfl, hfirst, hsecond, hfirsts, hseconds⟩ := (hfound found rfl).parts
    have hslash : ∀ unit, (47 :: (second ++ rest)).head? = some unit → isTypeUnit unit = false := by
      intro unit hunit
      cases hunit
      decide
    have htext : first ++ 47 :: second ++ rest = first ++ 47 :: (second ++ rest) := by
      rw [List.append_assoc, List.cons_append]
    have houter := takeWhile_prefix hfirsts hslash
    have hinner := takeWhile_prefix hseconds hno
    simp only [Option.getD_some, htext, houter.1, houter.2, hinner.1, hinner.2, if_neg hfirst, if_neg hsecond]

/-- A charset is found only where the grammar has one. -/
theorem matchCharset_sound {text rest : List Nat} (h : matchCharset text = some rest) :
    ∃ charset, CharsetPart charset ∧ text = charset ++ rest := by
  unfold matchCharset at h
  split at h
  · cases h
    exact ⟨[], .inl rfl, rfl⟩
  · rename_i more hmore
    split at h
    · cases h
    · rename_i hname
      cases h
      obtain ⟨word, hword, htext⟩ := expectFold_eq_some.mp hmore
      have hmore' : more = more.takeWhile isCharsetUnit ++ more.dropWhile isCharsetUnit :=
        List.takeWhile_append_dropWhile.symm
      have hall : ∀ unit ∈ more.takeWhile isCharsetUnit, isCharsetUnit unit = true :=
        fun unit hunit => List.mem_takeWhile_imp hunit
      have hwhole : text = word ++ more.takeWhile isCharsetUnit ++ more.dropWhile isCharsetUnit := by
        rw [htext, List.append_assoc, ← hmore']
      exact ⟨_, .inr ⟨word, _, rfl, hword, hname, hall⟩, hwhole⟩

/-- A charset before the word base64 is found. -/
theorem matchCharset_complete {charset ending : List Nat} (hcharset : CharsetPart charset)
    (hending : FoldsTo (ascii ";base64,") ending) : matchCharset (charset ++ ending) = some ending := by
  obtain ⟨unit, more, hunits, hunit⟩ := head_of_foldsTo hending
  have hsemicolon : unit = 59 := eq_semicolon hunit
  unfold matchCharset
  rcases hcharset with rfl | ⟨word, name, rfl, hword, hname, hall⟩
  · have hnone : expectFold (ascii ";charset=") ([] ++ ending) = none := by
      have hletters : ((ending.take 2).map lowerUnit) = [59, 98] := by
        rw [List.map_take, hending]
        rfl
      unfold expectFold
      apply if_neg
      intro hsame
      have hother : ((ending.take 9).map lowerUnit).take 2 = [59, 99] := by
        have hlength : (ascii ";charset=").length = 9 := rfl
        rw [List.nil_append, hlength] at hsame
        rw [hsame]
        rfl
      rw [← List.map_take, List.take_take, Nat.min_eq_left (by decide), hletters] at hother
      cases hother
    rw [hnone, List.nil_append]
  · have hsome : expectFold (ascii ";charset=") (word ++ name ++ ending) = some (name ++ ending) :=
      expectFold_eq_some.mpr ⟨word, hword, List.append_assoc _ _ _⟩
    have hno : ∀ unit, ending.head? = some unit → isCharsetUnit unit = false := by
      intro other hother
      rw [hunits] at hother
      cases hother
      rw [hsemicolon]
      decide
    have hnames := takeWhile_prefix hall hno
    simp only [hsome, hnames.1, hnames.2, if_neg hname]

/-- A header is accepted exactly when it has the form of one. -/
theorem matchHeader_eq_some {header : List Nat} {mimeType : Option (List Nat)} :
    matchHeader header = some mimeType ↔ WellFormedHeader header mimeType := by
  unfold matchHeader WellFormedHeader
  simp only [Option.bind_eq_bind, Option.bind_eq_some_iff]
  constructor
  · rintro ⟨afterScheme, hscheme, ⟨found, afterType⟩, htype, afterCharset, hcharset, afterEnding, hending, h⟩
    split at h
    · rename_i hnothing
      cases h
      subst hnothing
      obtain ⟨scheme, hfolds, rfl⟩ := expectFold_eq_some.mp hscheme
      obtain ⟨rfl, hfound⟩ := matchType_sound htype
      obtain ⟨charset, hpart, hrest⟩ := matchCharset_sound hcharset
      obtain ⟨ending, hword, rfl⟩ := expectFold_eq_some.mp hending
      have hrest' : afterType = charset ++ ending := by
        rw [List.append_nil] at hrest
        exact hrest
      exact ⟨scheme, charset, ending, by rw [hrest'], hfolds, hfound, hpart, hword⟩
    · cases h
  · rintro ⟨scheme, charset, ending, rfl, hscheme, hfound, hcharset, hending⟩
    obtain ⟨unit, more, hunits, hunit⟩ := head_of_foldsTo hending
    have hsemicolon : (charset ++ ending).head? = some 59 := by
      rcases hcharset with rfl | ⟨word, name, rfl, hword, -, -⟩
      · rw [List.nil_append, hunits, eq_semicolon hunit]
        rfl
      · obtain ⟨first, others, rfl, hfirst⟩ := head_of_foldsTo hword
        rw [eq_semicolon hfirst]
        rfl
    have hend : expectFold (ascii ";base64,") ending = some [] :=
      expectFold_eq_some.mpr ⟨ending, hending, (List.append_nil ending).symm⟩
    exact ⟨_, expectFold_eq_some.mpr ⟨scheme, hscheme, rfl⟩, _, matchType_complete hfound hsemicolon, _,
      matchCharset_complete hcharset hending, _, hend, if_pos rfl⟩

/-- The data of a value begins where its header ends, and a value with a malformed header is rejected. -/
theorem mediaHeader_eq_ok {value : List Nat} {offset : Nat} {mimeType : Option (List Nat)} :
    mediaHeader value = .ok (offset, mimeType) ↔ ValueHeader value offset mimeType := by
  unfold mediaHeader ValueHeader
  by_cases hscheme : ascii "data:" <+: value
  · rw [if_pos (List.isPrefixOf_iff_prefix.mpr hscheme)]
    by_cases hcomma : 44 ∈ value
    · rw [if_pos hcomma]
      simp only
      by_cases hfar : value.idxOf 44 + 1 > 1024
      · rw [if_pos hfar]
        constructor
        · intro h
          cases h
        · rintro (⟨hno, -, -⟩ | ⟨-, -, rfl, hnear, -⟩)
          · exact absurd hscheme hno
          · omega
      · rw [if_neg hfar]
        cases hmatch : matchHeader (value.take (value.idxOf 44 + 1)) with
        | none =>
          constructor
          · intro h
            cases h
          · rintro (⟨hno, -, -⟩ | ⟨-, -, rfl, -, hform⟩)
            · exact absurd hscheme hno
            · rw [matchHeader_eq_some.mpr hform] at hmatch
              cases hmatch
        | some found =>
          constructor
          · intro h
            cases h
            exact .inr ⟨hscheme, hcomma, rfl, by omega, matchHeader_eq_some.mp hmatch⟩
          · rintro (⟨hno, -, -⟩ | ⟨-, -, rfl, -, hform⟩)
            · exact absurd hscheme hno
            · rw [matchHeader_eq_some.mpr hform] at hmatch
              cases hmatch
              rfl
    · rw [if_neg hcomma]
      constructor
      · intro h
        cases h
      · rintro (⟨hno, -, -⟩ | ⟨-, hyes, -, -, -⟩)
        · exact absurd hscheme hno
        · exact absurd hyes hcomma
  · rw [if_neg (mt List.isPrefixOf_iff_prefix.mp hscheme)]
    constructor
    · intro h
      cases h
      exact .inl ⟨hscheme, rfl, rfl⟩
    · rintro (⟨-, rfl, rfl⟩ | ⟨hyes, -, -, -, -⟩)
      · rfl
      · exact absurd hyes hscheme

end Grammar

end ConnectHub
