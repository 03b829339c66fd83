import ConnectHub.CanonicalJson
import ConnectHub.MediaBase64

/-!
# Prepared media

Media that was received lies in a file, and a request to the provider streams it inside a JSON object. The
object is written by hand around the base64 of the file, which is encoded chunk by chunk with up to two bytes
carried over, and the length of the request is announced before the file is read. Whatever the chunks, what is
streamed reads back as the payload with its defaults and the whole file, and has the announced length.
-/

namespace ConnectHub

open Store

/-- The member of a payload that holds its media. -/
inductive MediaField
  | media | sticker
deriving DecidableEq, Repr

/-- The name of the member. -/
def MediaField.name : MediaField → String
  | .media => "media"
  | .sticker => "sticker"

/-- A file that was received, with what a request adds to its payload. -/
structure PreparedMedia where
  file : List UInt8
  bytes : Nat
  field : MediaField
  defaults : List (String × String)
  /-- The bytes that were counted are those of the file. -/
  counted : bytes = file.length
  /-- An object names each member once. -/
  names : (defaults.map (·.1)).Nodup

/-- The payload of a request: an object whose members have different names and JSON values. -/
structure MediaPayload where
  members : List (String × JsValue)
  names : (members.map (·.1)).Nodup
  values : JsValue.FieldsWellFormed members

section Counter

variable (active : Nat → Except MediaFailure Unit)

/-- Count the bytes of each chunk on its way to the file. -/
def countBytes (maxBytes : Nat) : Nat → Nat → List (List UInt8) → Except MediaFailure Nat
  | _, bytes, [] => .ok bytes
  | turn, bytes, chunk :: chunks => do
    active turn
    let bytes := bytes + chunk.length
    if bytes > maxBytes then .error (.payloadTooLarge "Media exceeds configured size limit")
    else countBytes maxBytes (turn + 1) bytes chunks

variable {active}

/-- The counter counts every byte of the chunks. -/
theorem countBytes_ok {maxBytes turn before total : Nat} {chunks : List (List UInt8)}
    (h : countBytes active maxBytes turn before chunks = .ok total) :
    total = before + chunks.flatten.length ∧ (chunks ≠ [] → total ≤ maxBytes) := by
  induction chunks generalizing turn before with
  | nil =>
    cases h
    exact ⟨rfl, fun hne => absurd rfl hne⟩
  | cons chunk chunks ih =>
    rw [countBytes] at h
    cases hactive : active turn with
    | error failure => rw [hactive] at h; cases h
    | ok _ =>
      rw [hactive] at h
      change (if before + chunk.length > maxBytes then _ else _) = _ at h
      by_cases hlarge : before + chunk.length > maxBytes
      · rw [if_pos hlarge] at h
        cases h
      · rw [if_neg hlarge] at h
        have hrest := ih h
        have htotal : total = before + (chunk :: chunks).flatten.length := by
          rw [hrest.1, List.flatten_cons, List.length_append, Nat.add_assoc]
        constructor
        · exact htotal
        · intro _
          cases chunks with
          | nil =>
            rw [hrest.1, List.flatten_nil, List.length_nil]
            omega
          | cons other others => exact hrest.2 (List.cons_ne_nil other others)

variable (active)

/-- Receive the chunks of a source into a file. -/
def receiveMedia (maxBytes : Nat) (field : MediaField) (defaults : List (String × String))
    (names : (defaults.map (·.1)).Nodup) (chunks : List (List UInt8)) : Except MediaFailure PreparedMedia :=
  match h : countBytes active maxBytes 0 0 chunks with
  | .error failure => .error failure
  | .ok bytes =>
    if bytes = 0 then .error (.badRequest "Empty media file")
    else
      .ok {
        file := chunks.flatten
        bytes := bytes
        field := field
        defaults := defaults
        counted := by rw [(countBytes_ok h).1, Nat.zero_add]
        names := names }

end Counter

section Payload

/-- What every object inherits. -/
def objectPrototype : List String :=
  ["constructor", "__defineGetter__", "__defineSetter__", "hasOwnProperty", "__lookupGetter__", "__lookupSetter__",
   "isPrototypeOf", "propertyIsEnumerable", "toString", "valueOf", "__proto__", "toLocaleString"]

/-- Whether a numeral stands for zero. -/
def isZeroNumeral (numeral : List Char) : Bool :=
  (numeral.takeWhile fun c => c ≠ 'e' && c ≠ 'E').all fun c => !c.isDigit || c == '0'

/-- Whether a value counts as false. -/
def JsValue.isFalsy : JsValue → Bool
  | .undefined => true
  | .null => true
  | .bool b => !b
  | .number numeral => isZeroNumeral numeral.toList
  | .str s => s.isEmpty
  | .arr _ => false
  | .obj _ => false

/-- Whether the member of an object counts as false; a missing one does unless it is inherited. -/
def isFalsyMember (members : List (String × JsValue)) (name : String) : Bool :=
  match members.lookup name with
  | some value => value.isFalsy
  | none => !objectPrototype.contains name

/-- The number that a name of an index stands for. -/
def arrayIndex (name : String) : Option Nat :=
  match name.toNat? with
  | some n => if n.repr = name ∧ n < 4294967295 then some n else none
  | none => none

/-- Whether a new member comes before another: indices come first, in their order. -/
def comesBefore (name other : String) : Bool :=
  match arrayIndex name, arrayIndex other with
  | some n, some m => n < m
  | some _, none => true
  | none, _ => false

/-- The members of an object with a new one. -/
def insertMember (name : String) (value : JsValue) : List (String × JsValue) → List (String × JsValue)
  | [] => [(name, value)]
  | (other, found) :: members =>
    if comesBefore name other then (name, value) :: (other, found) :: members
    else (other, found) :: insertMember name value members

/-- Give a member of an object a value. -/
def assignMember (name : String) (value : JsValue) (members : List (String × JsValue)) :
    List (String × JsValue) :=
  if name ∈ members.map (·.1) then members.map fun member => if member.1 = name then (name, value) else member
  else insertMember name value members

/-- Give the members that count as false their defaults. -/
def fillDefaults (members : List (String × JsValue)) : List (String × String) → List (String × JsValue)
  | [] => members
  | (name, value) :: defaults =>
    fillDefaults (if isFalsyMember members name then assignMember name (.str value) members else members) defaults

/-- The text that `JSON.stringify` makes of a value; an undefined one has none. -/
def JsValue.stringify? : JsValue → Option (List Char)
  | .undefined => none
  | value => some value.json.stringify

/-- The texts of the members of an object, but for the one that holds the media. -/
def entryTexts (field : String) : List (String × JsValue) → List (List Char)
  | [] => []
  | (name, value) :: members =>
    if name = field then entryTexts field members
    else
      match value.stringify? with
      | some serialized => (quote name.toList ++ ':' :: serialized) :: entryTexts field members
      | none => entryTexts field members

end Payload

section Body

/-- The characters of a base64 text. -/
def base64Chars (bytes : List UInt8) : List Char := (encodeBase64 bytes).map Char.ofNat

/-- Encode chunk after chunk, over the bytes that filled no triple yet. -/
def encodeChunks : List UInt8 → List (List UInt8) → List (List Char)
  | carry, [] => if carry ≠ [] then [base64Chars carry] else []
  | carry, chunk :: chunks =>
    let data := carry ++ chunk
    let aligned := data.length - data.length % 3
    if aligned ≠ 0 then base64Chars (data.take aligned) :: encodeChunks (data.drop aligned) chunks
    else encodeChunks (data.drop aligned) chunks

/-- What comes before the base64 text. -/
def bodyPrefix (field : String) (entries : List (List Char)) : List Char :=
  '\x7b' :: (if entries ≠ [] then commaJoin entries ++ [','] else []) ++ quote field.toList ++ [':', '\x22']

/-- What comes after it. -/
def bodySuffix : List Char := ['\x22', '\x7d']

/-- The bytes of a text. -/
def utf8 (text : List Char) : List UInt8 := text.flatMap String.utf8EncodeChar

/-- The body of a request: what it streams of the chunks a file is read in, and what it announces. -/
structure MediaBody where
  stream : List (List UInt8) → List (List UInt8)
  contentLength : Nat
  headers : List (String × String)

/-- Why a body is refused. -/
inductive BodyFailure
  | disposed
  | aborted
deriving DecidableEq, Repr

/-- The body of a request with some payload. -/
def PreparedMedia.body (media : PreparedMedia) (disposed aborted : Bool) (payload : MediaPayload) :
    Except BodyFailure MediaBody :=
  if disposed then .error .disposed
  else if aborted then .error .aborted
  else
    let fields := fillDefaults payload.members media.defaults
    let before := bodyPrefix media.field.name (entryTexts media.field.name fields)
    let contentLength := (utf8 before).length + 4 * ((media.bytes + 2) / 3) + (utf8 bodySuffix).length
    .ok {
      stream := fun chunks => (before :: encodeChunks [] chunks ++ [bodySuffix]).map utf8
      contentLength := contentLength
      headers := [("Content-Type", "application/json"), ("Content-Length", contentLength.repr)] }

end Body

section Members

/-- The member of an object by its name, the first one first. -/
theorem lookup_cons_eq {β : Type} (name other : String) (value : β) (members : List (String × β)) :
    ((other, value) :: members).lookup name = if name = other then some value else members.lookup name := by
  by_cases hname : name = other
  · rw [if_pos hname, hname, List.lookup_cons_self]
  · rw [if_neg hname, List.lookup_cons, beq_false_of_ne hname]

/-- An object has no member by a name that it does not name. -/
theorem lookup_eq_none_of_names {β : Type} {name : String} {members : List (String × β)}
    (h : name ∉ members.map (·.1)) : members.lookup name = none := by
  induction members with
  | nil => rfl
  | cons member members ih =>
    obtain ⟨other, value⟩ := member
    rw [List.map_cons, List.mem_cons, not_or] at h
    rw [lookup_cons_eq, if_neg h.1, ih h.2]

/-- And one by a name that it names. -/
theorem lookup_of_mem_names {β : Type} {name : String} {members : List (String × β)} (h : name ∈ members.map (·.1)) :
    ∃ value, members.lookup name = some value := by
  induction members with
  | nil => cases h
  | cons member members ih =>
    obtain ⟨other, value⟩ := member
    rw [lookup_cons_eq]
    by_cases hname : name = other
    · exact ⟨value, if_pos hname⟩
    · rw [if_neg hname]
      exact ih (List.mem_of_ne_of_mem hname h)

/-- A new member is there beside the others. -/
theorem insertMember_perm (name : String) (value : JsValue) (members : List (String × JsValue)) :
    (insertMember name value members).Perm ((name, value) :: members) := by
  induction members with
  | nil => exact List.Perm.refl _
  | cons member members ih =>
    obtain ⟨other, found⟩ := member
    rw [insertMember]
    split
    · exact List.Perm.refl _
    · exact (ih.cons _).trans (List.Perm.swap _ _ _)

/-- A new member is found by its name, and the others by theirs. -/
theorem lookup_insertMember {name : String} {members : List (String × JsValue)} (h : name ∉ members.map (·.1))
    (value : JsValue) (other : String) :
    (insertMember name value members).lookup other = if other = name then some value else members.lookup other := by
  induction members with
  | nil => exact lookup_cons_eq other name value []
  | cons member members ih =>
    obtain ⟨first, found⟩ := member
    rw [List.map_cons, List.mem_cons, not_or] at h
    rw [insertMember]
    split
    · exact lookup_cons_eq other name value _
    · rw [lookup_cons_eq, lookup_cons_eq, ih h.2]
      by_cases hfirst : other = first
      · have hne : other ≠ name := fun hsame => h.1 (hsame.symm.trans hfirst)
        rw [if_pos hfirst, if_neg hne, if_pos hfirst]
      · rw [if_neg hfirst, if_neg hfirst]

/-- A member that is replaced has its new value, and the others keep theirs. -/
theorem lookup_replaced (name : String) (value : JsValue) (members : List (String × JsValue)) (other : String) :
    (members.map fun member => if member.1 = name then (name, value) else member).lookup other =
      if other = name then (members.lookup name).map fun _ => value else members.lookup other := by
  induction members with
  | nil =>
    by_cases hother : other = name
    · rw [if_pos hother]
      rfl
    · rw [if_neg hother]
      rfl
  | cons member members ih =>
    obtain ⟨first, found⟩ := member
    rw [List.map_cons]
    by_cases hfirst : first = name
    · rw [if_pos hfirst, lookup_cons_eq, lookup_cons_eq, lookup_cons_eq, ih, hfirst, if_pos rfl]
      by_cases hother : other = name
      · rw [if_pos hother, if_pos hother]
        rfl
      · rw [if_neg hother, if_neg hother, if_neg hother, if_neg hother]
    · rw [if_neg hfirst, lookup_cons_eq, lookup_cons_eq, lookup_cons_eq, ih, if_neg (Ne.symm hfirst)]
      by_cases hother : other = name
      · have hne : other ≠ first := fun hsame => hfirst (hsame.symm.trans hother)
        rw [if_neg hne, if_pos hother, if_pos hother]
      · rw [if_neg hother, if_neg hother]

/-- A member that is given a value has it, and the others keep theirs. -/
theorem lookup_assignMember (name : String) (value : JsValue) (members : List (String × JsValue)) (other : String) :
    (assignMember name value members).lookup other = if other = name then some value else members.lookup other := by
  unfold assignMember
  by_cases hmem : name ∈ members.map (·.1)
  · obtain ⟨old, hold⟩ := lookup_of_mem_names hmem
    rw [if_pos hmem, lookup_replaced, hold]
    rfl
  · rw [if_neg hmem, lookup_insertMember hmem]

/-- An object that names each member once still does after an assignment. -/
theorem names_assignMember {name : String} {value : JsValue} {members : List (String × JsValue)}
    (h : (members.map (·.1)).Nodup) : ((assignMember name value members).map (·.1)).Nodup := by
  unfold assignMember
  by_cases hmem : name ∈ members.map (·.1)
  · have hnames : (members.map fun member => if member.1 = name then (name, value) else member).map (·.1) =
        members.map (·.1) := by
      rw [List.map_map]
      apply List.map_congr_left
      intro member _
      change (if member.1 = name then (name, value) else member).1 = member.1
      by_cases hname : member.1 = name
      · rw [if_pos hname, hname]
      · rw [if_neg hname]
    rw [if_pos hmem, hnames]
    exact h
  · rw [if_neg hmem]
    have hperm := (insertMember_perm name value members).map (·.1)
    exact hperm.nodup_iff.mpr (List.nodup_cons.mpr ⟨hmem, h⟩)

/-- The members after an assignment are the new one and earlier ones. -/
theorem mem_assignMember {name : String} {value : JsValue} {members : List (String × JsValue)}
    {member : String × JsValue} (h : member ∈ assignMember name value members) :
    member = (name, value) ∨ member ∈ members := by
  unfold assignMember at h
  by_cases hmem : name ∈ members.map (·.1)
  · rw [if_pos hmem] at h
    obtain ⟨found, hfound, rfl⟩ := List.mem_map.mp h
    by_cases hname : found.1 = name
    · left
      rw [if_pos hname]
    · right
      rw [if_neg hname]
      exact hfound
  · rw [if_neg hmem] at h
    exact List.mem_cons.mp ((insertMember_perm name value members).mem_iff.mp h)

end Members

section Defaults

/-- What a member of the payload is after the defaults: its default if it counts as false and has one, and
itself otherwise. -/
def memberAfter (members : List (String × JsValue)) (defaults : List (String × String)) (name : String) :
    Option JsValue :=
  match defaults.lookup name with
  | some value => if isFalsyMember members name then some (.str value) else members.lookup name
  | none => members.lookup name

/-- The defaults change only what counts as false. -/
theorem lookup_fillDefaults {defaults : List (String × String)} (h : (defaults.map (·.1)).Nodup)
    (members : List (String × JsValue)) (name : String) :
    (fillDefaults members defaults).lookup name = memberAfter members defaults name := by
  unfold memberAfter
  induction defaults generalizing members with
  | nil => rfl
  | cons default defaults ih =>
    obtain ⟨first, value⟩ := default
    rw [List.map_cons] at h
    have hnames := List.nodup_cons.mp h
    rw [fillDefaults, ih hnames.2, lookup_cons_eq]
    by_cases hname : name = first
    · have hnone : defaults.lookup name = none := by
        rw [hname]
        exact lookup_eq_none_of_names hnames.1
      rw [if_pos hname, hnone]
      simp only [hname]
      by_cases hfalsy : isFalsyMember members first = true
      · rw [if_pos hfalsy, if_pos hfalsy, lookup_assignMember, if_pos rfl]
      · rw [if_neg hfalsy, if_neg hfalsy]
    · have hsame : (if isFalsyMember members first then assignMember first (.str value) members
          else members).lookup name = members.lookup name := by
        split
        · rw [lookup_assignMember, if_neg hname]
        · rfl
      have hfalsy : isFalsyMember (if isFalsyMember members first then assignMember first (.str value) members
          else members) name = isFalsyMember members name := by
        rw [isFalsyMember, hsame, isFalsyMember]
      rw [if_neg hname, hsame, hfalsy]

/-- The defaults keep the members of an object apart. -/
theorem names_fillDefaults (defaults : List (String × String)) {members : List (String × JsValue)}
    (h : (members.map (·.1)).Nodup) : ((fillDefaults members defaults).map (·.1)).Nodup := by
  induction defaults generalizing members with
  | nil => exact h
  | cons default defaults ih =>
    rw [fillDefaults]
    apply ih
    split
    · exact names_assignMember h
    · exact h

/-- The defaults are JSON values too. -/
theorem values_fillDefaults (defaults : List (String × String)) {members : List (String × JsValue)}
    (h : JsValue.FieldsWellFormed members) : JsValue.FieldsWellFormed (fillDefaults members defaults) := by
  induction defaults generalizing members with
  | nil => exact h
  | cons default defaults ih =>
    rw [fillDefaults]
    apply ih
    split
    · rw [fieldsWellFormed_iff] at h ⊢
      intro member hmember
      cases mem_assignMember hmember with
      | inl hnew =>
        rw [hnew]
        exact fun _ => trivial
      | inr hold => exact h member hold
    · exact h

end Defaults

section Entries

/-- The members that are written: the defined ones, but for the one that holds the media. -/
def writtenMembers (field : String) (members : List (String × JsValue)) : List (String × Json) :=
  JsValue.jsonFields (members.filter (·.1 ≠ field))

/-- The texts of the members are those of the members that are written. -/
theorem entryTexts_eq (field : String) (members : List (String × JsValue)) :
    entryTexts field members = Json.memberTexts (writtenMembers field members) := by
  unfold writtenMembers
  induction members with
  | nil => rfl
  | cons member members ih =>
    obtain ⟨name, value⟩ := member
    rw [entryTexts, List.filter_cons]
    by_cases hname : name = field
    · have hskip : ¬ decide (name ≠ field) = true := by
        rw [decide_eq_true_eq]
        exact not_not_intro hname
      rw [if_pos hname, if_neg hskip, ih]
    · have hkeep : decide (name ≠ field) = true := decide_eq_true hname
      rw [if_neg hname, if_pos hkeep, JsValue.jsonFields, ih]
      cases value with
      | undefined => rfl
      | null => rfl
      | bool b => rfl
      | number numeral => rfl
      | str s => rfl
      | arr items => rfl
      | obj inner => rfl

/-- The member that is written under a name. -/
theorem lookup_jsonFields {members : List (String × JsValue)} (h : (members.map (·.1)).Nodup) (name : String) :
    (JsValue.jsonFields members).lookup name = ((members.lookup name).filter (·.isDefined)).map JsValue.json := by
  induction members with
  | nil => rfl
  | cons member members ih =>
    obtain ⟨first, value⟩ := member
    rw [List.map_cons] at h
    have hnames := List.nodup_cons.mp h
    rw [JsValue.jsonFields, lookup_cons_eq]
    by_cases hname : name = first
    · rw [if_pos hname]
      by_cases hdefined : value.isDefined = true
      · rw [if_pos hdefined, lookup_cons_eq, if_pos hname, Option.filter_some, if_pos hdefined]
        rfl
      · rw [if_neg hdefined, ih hnames.2, hname, lookup_eq_none_of_names hnames.1, Option.filter_some,
          if_neg hdefined]
        rfl
    · rw [if_neg hname]
      split
      · rw [lookup_cons_eq, if_neg hname, ih hnames.2]
      · exact ih hnames.2

/-- Leaving out one member leaves the others. -/
theorem lookup_filter_ne {members : List (String × JsValue)} {field name : String} (h : name ≠ field) :
    (members.filter (·.1 ≠ field)).lookup name = members.lookup name := by
  induction members with
  | nil => rfl
  | cons member members ih =>
    obtain ⟨first, value⟩ := member
    rw [List.filter_cons, lookup_cons_eq]
    by_cases hfirst : first = field
    · have hskip : ¬ decide (first ≠ field) = true := by
        rw [decide_eq_true_eq]
        exact not_not_intro hfirst
      have hne : name ≠ first := fun hsame => h (hsame.trans hfirst)
      rw [if_neg hskip, if_neg hne, ih]
    · rw [if_pos (decide_eq_true hfirst), lookup_cons_eq, ih]

/-- Every member but the one that holds the media is written as it is. -/
theorem lookup_writtenMembers {field name : String} {members : List (String × JsValue)}
    (hnames : (members.map (·.1)).Nodup) (h : name ≠ field) :
    (writtenMembers field members).lookup name = ((members.lookup name).filter (·.isDefined)).map JsValue.json := by
  have hkept : ((members.filter (·.1 ≠ field)).map (·.1)).Nodup := hnames.sublist (List.filter_sublist.map _)
  rw [writtenMembers, lookup_jsonFields hkept, lookup_filter_ne h]

/-- The member that holds the media is not among those written. -/
theorem not_mem_writtenMembers (field : String) (members : List (String × JsValue)) :
    field ∉ (writtenMembers field members).map (·.1) := by
  intro h
  obtain ⟨written, hwritten, hname⟩ := List.mem_map.mp h
  unfold writtenMembers at hwritten
  have hsource : ∀ fields : List (String × JsValue), written ∈ JsValue.jsonFields fields →
      written.1 ∈ fields.map (·.1) := by
    intro fields
    induction fields with
    | nil =>
      intro hmem
      cases hmem
    | cons member fields ih =>
      obtain ⟨first, value⟩ := member
      intro hmem
      rw [JsValue.jsonFields] at hmem
      rw [List.map_cons]
      split at hmem
      · cases List.mem_cons.mp hmem with
        | inl hhere => rw [hhere]; exact List.mem_cons_self
        | inr hthere => exact List.mem_cons_of_mem _ (ih hthere)
      · exact List.mem_cons_of_mem _ (ih hmem)
  obtain ⟨member, hmember, hsame⟩ := List.mem_map.mp (hsource _ hwritten)
  have hne := (List.mem_filter.mp hmember).2
  rw [decide_eq_true_eq] at hne
  exact hne (hsame.trans hname)

end Entries

section Text

/-- A letter is written as it is and takes one byte. -/
theorem base64Char_plain {bytes : List UInt8} {c : Char} (h : c ∈ base64Chars bytes) :
    escapeChar c = [c] ∧ c.utf8Size = 1 := by
  have hletters : ∀ sextet < 64, escapeChar (Char.ofNat (sextetUnit sextet)) = [Char.ofNat (sextetUnit sextet)] ∧
      (Char.ofNat (sextetUnit sextet)).utf8Size = 1 := by
    decide
  obtain ⟨unit, hunit, rfl⟩ := List.mem_map.mp h
  cases List.mem_append.mp hunit with
  | inl hletter =>
    obtain ⟨sextet, hsextet, rfl⟩ := List.mem_map.mp hletter
    exact hletters sextet (sextets_toSextets bytes sextet hsextet)
  | inr hpad =>
    rw [List.eq_of_mem_replicate hpad]
    decide

/-- A base64 text needs no escapes. -/
theorem quote_base64Chars (bytes : List UInt8) :
    quote (String.ofList (base64Chars bytes)).toList = '\x22' :: base64Chars bytes ++ ['\x22'] := by
  have hplain : (base64Chars bytes).flatMap escapeChar = base64Chars bytes := by
    have hsingle : (base64Chars bytes).flatMap escapeChar = (base64Chars bytes).flatMap fun c => [c] :=
      List.flatMap_congr fun c hc => (base64Char_plain hc).1
    rw [hsingle, List.flatMap_singleton']
  rw [quote, String.toList_ofList, hplain]

/-- The bytes of a base64 text are as many as its letters. -/
theorem length_utf8_base64Chars (bytes : List UInt8) :
    (utf8 (base64Chars bytes)).length = 4 * ((bytes.length + 2) / 3) := by
  have hsizes : (base64Chars bytes).map (fun c => (String.utf8EncodeChar c).length) =
      (base64Chars bytes).map fun _ => 1 := by
    apply List.map_congr_left
    intro c hc
    rw [String.length_utf8EncodeChar, (base64Char_plain hc).2]
  rw [utf8, List.length_flatMap, hsizes, List.map_const', List.sum_replicate_nat, Nat.mul_one, base64Chars,
    List.length_map, length_encodeBase64]

/-- The bytes of texts that follow each other. -/
theorem utf8_flatten (pieces : List (List Char)) : (pieces.map utf8).flatten = utf8 pieces.flatten := by
  induction pieces with
  | nil => rfl
  | cons piece pieces ih =>
    rw [List.map_cons, List.flatten_cons, List.flatten_cons, ih, utf8, utf8, utf8, List.flatMap_append]

/-- What the chunks are encoded to is the base64 of the whole, whatever the cuts. -/
theorem encodeChunks_flatten (carry : List UInt8) (chunks : List (List UInt8)) :
    (encodeChunks carry chunks).flatten = base64Chars (carry ++ chunks.flatten) := by
  induction chunks generalizing carry with
  | nil =>
    rw [List.flatten_nil, List.append_nil, encodeChunks]
    by_cases hcarry : carry = []
    · rw [if_neg (not_not_intro hcarry), hcarry]
      rfl
    · rw [if_pos hcarry, List.flatten_singleton]
  | cons chunk chunks ih =>
    let aligned := (carry ++ chunk).length - (carry ++ chunk).length % 3
    have hmod : aligned % 3 = 0 := by
      simp only [aligned]
      omega
    have htake : ((carry ++ chunk).take aligned).length % 3 = 0 := by
      rw [List.length_take, Nat.min_eq_left (Nat.sub_le _ _)]
      exact hmod
    have hwhole : carry ++ (chunk :: chunks).flatten =
        (carry ++ chunk).take aligned ++ ((carry ++ chunk).drop aligned ++ chunks.flatten) := by
      rw [List.flatten_cons, ← List.append_assoc, ← List.append_assoc, List.take_append_drop]
    have hsplit : base64Chars (carry ++ (chunk :: chunks).flatten) =
        base64Chars ((carry ++ chunk).take aligned) ++
          base64Chars ((carry ++ chunk).drop aligned ++ chunks.flatten) := by
      rw [hwhole, base64Chars, encodeBase64_append _ htake, List.map_append, base64Chars, base64Chars]
    rw [hsplit, ← ih]
    simp only [encodeChunks]
    by_cases hnone : aligned = 0
    · have hempty : base64Chars ((carry ++ chunk).take aligned) = [] := by
        rw [hnone, List.take_zero]
        rfl
      rw [if_neg (not_not_intro hnone), hempty, List.nil_append]
    · rw [if_pos hnone, List.flatten_cons]

/-- Joining texts before a last one. -/
theorem commaJoin_append (texts : List (List Char)) (last : List Char) :
    commaJoin (texts ++ [last]) = (if texts ≠ [] then commaJoin texts ++ [','] else []) ++ last := by
  induction texts with
  | nil => rfl
  | cons text texts ih =>
    rw [if_pos (List.cons_ne_nil text texts)]
    cases texts with
    | nil =>
      change text ++ ',' :: last = text ++ [','] ++ last
      rw [List.append_assoc]
      rfl
    | cons other texts =>
      rw [if_pos (List.cons_ne_nil other texts)] at ih
      change text ++ ',' :: commaJoin (other :: texts ++ [last]) =
        text ++ ',' :: commaJoin (other :: texts) ++ [','] ++ last
      rw [ih]
      simp only [List.append_assoc, List.cons_append]

/-- What is streamed is the text of the members with the media after them. -/
theorem body_text (field : String) (members : List (String × JsValue)) (chunks : List (List UInt8)) :
    (bodyPrefix field (entryTexts field members) :: encodeChunks [] chunks ++ [bodySuffix]).flatten =
      (Json.obj (writtenMembers field members ++
        [(field, .str (String.ofList (base64Chars chunks.flatten)))])).stringify := by
  have hmembers : Json.memberTexts (writtenMembers field members ++
      [(field, .str (String.ofList (base64Chars chunks.flatten)))]) =
        entryTexts field members ++
          [quote field.toList ++ ':' :: ('\x22' :: base64Chars chunks.flatten ++ ['\x22'])] := by
    rw [entryTexts_eq, memberTexts_eq_map, memberTexts_eq_map, List.map_append, List.map_singleton, Json.stringify,
      quote_base64Chars]
  have hencoded : (encodeChunks [] chunks).flatten = base64Chars chunks.flatten := encodeChunks_flatten [] chunks
  rw [Json.stringify, hmembers, commaJoin_append, List.cons_append, List.flatten_cons, List.flatten_append,
    List.flatten_singleton, hencoded]
  simp only [bodyPrefix, bodySuffix, List.cons_append, List.append_assoc, List.nil_append]

end Text

section Streaming

/-- What a body streams of any chunks of the file is the text of a JSON object that has every member of the payload
after the defaults and the base64 of the whole file in the place of the media, and has the announced length. -/
theorem PreparedMedia.body_streams (media : PreparedMedia) (payload : MediaPayload) {disposed aborted : Bool}
    {body : MediaBody} (hbody : media.body disposed aborted payload = .ok body) {chunks : List (List UInt8)}
    (hfile : chunks.flatten = media.file) :
    ∃ text members, (body.stream chunks).flatten = utf8 text ∧ Json.parse text = some (.obj members) ∧
      (members.map (·.1)).Nodup ∧
      members.lookup media.field.name = some (.str (String.ofList (base64Chars media.file))) ∧
      (∀ name ≠ media.field.name, members.lookup name =
        ((memberAfter payload.members media.defaults name).filter (·.isDefined)).map JsValue.json) ∧
      (body.stream chunks).flatten.length = body.contentLength ∧
      body.headers.lookup "Content-Length" = some body.contentLength.repr := by
  let fields := fillDefaults payload.members media.defaults
  have hnames : (fields.map (·.1)).Nodup := names_fillDefaults media.defaults payload.names
  have hvalues : JsValue.FieldsWellFormed fields := values_fillDefaults media.defaults payload.values
  let last := (media.field.name, Json.str (String.ofList (base64Chars media.file)))
  let members := writtenMembers media.field.name fields ++ [last]
  let text := (Json.obj members).stringify
  have hwritten : ((writtenMembers media.field.name fields).map (·.1)).Nodup :=
    jsonFields_names _ (hnames.sublist (List.filter_sublist.map _))
  have hlast : media.field.name ∉ (writtenMembers media.field.name fields).map (·.1) :=
    not_mem_writtenMembers media.field.name fields
  have hdistinct : (members.map (·.1)).Nodup := by
    rw [List.map_append, List.map_singleton, ← List.concat_eq_append]
    exact hwritten.concat hlast
  have hkept : JsValue.FieldsWellFormed (fields.filter (·.1 ≠ media.field.name)) := by
    rw [fieldsWellFormed_iff] at hvalues ⊢
    exact fun member hmember => hvalues member (List.mem_of_mem_filter hmember)
  have hwell : (Json.obj members).WellFormed := by
    refine ⟨hdistinct, membersWellFormed_iff.mpr ?_⟩
    intro member hmember
    cases List.mem_append.mp hmember with
    | inl hother => exact membersWellFormed_iff.mp (jsonFields_wellFormed _ hkept) member hother
    | inr hmedia =>
      rw [List.mem_singleton.mp hmedia]
      trivial
  have hbefore : (writtenMembers media.field.name fields).lookup media.field.name = none :=
    lookup_eq_none_of_names hlast
  have hmedia : members.lookup media.field.name = some last.2 := by
    rw [List.lookup_append, hbefore, Option.none_or, lookup_cons_eq, if_pos rfl]
  have hothers : ∀ name ≠ media.field.name, members.lookup name =
      ((memberAfter payload.members media.defaults name).filter (·.isDefined)).map JsValue.json := by
    intro name hname
    have hnone : [last].lookup name = none := by
      rw [lookup_cons_eq, if_neg hname, List.lookup_nil]
    rw [List.lookup_append, hnone, Option.or_none, lookup_writtenMembers hnames hname,
      lookup_fillDefaults media.names]
  have htext := body_text media.field.name fields chunks
  rw [hfile] at htext
  have hlength : (utf8 text).length = (utf8 (bodyPrefix media.field.name (entryTexts media.field.name fields))).length +
      4 * ((media.bytes + 2) / 3) + (utf8 bodySuffix).length := by
    have hencoded : (encodeChunks [] chunks).flatten = base64Chars media.file := by
      rw [encodeChunks_flatten, List.nil_append, hfile]
    have hsplit : text = bodyPrefix media.field.name (entryTexts media.field.name fields) ++
        (base64Chars media.file ++ bodySuffix) := by
      rw [← hencoded]
      simp only [text, members, last, ← htext, List.cons_append, List.flatten_cons, List.flatten_append,
        List.flatten_nil, List.append_nil]
    have hbytes := length_utf8_base64Chars media.file
    rw [hsplit, utf8, List.flatMap_append, List.flatMap_append, List.length_append, List.length_append, ← utf8, ← utf8,
      ← utf8, hbytes, media.counted, Nat.add_assoc]
  unfold PreparedMedia.body at hbody
  cases disposed with
  | true => cases hbody
  | false =>
    cases aborted with
    | true => cases hbody
    | false =>
      cases hbody
      have hstream : ((bodyPrefix media.field.name (entryTexts media.field.name fields) ::
          encodeChunks [] chunks ++ [bodySuffix]).map utf8).flatten = utf8 text := by
        rw [utf8_flatten, htext]
      exact ⟨text, members, hstream, parse_stringify hwell, hdistinct, hmedia, hothers,
        (congrArg List.length hstream).trans hlength, rfl⟩

/-- A file of four bytes with a default name. -/
def smallMedia : PreparedMedia where
  file := [72, 117, 98, 33]
  bytes := 4
  field := .media
  defaults := [("fileName", "image.jpg")]
  counted := rfl
  names := by decide

/-- A payload whose file name is empty. -/
def smallMessage : MediaPayload where
  members := [("number", .str "5511"), ("media", .str "https"), ("fileName", .str "")]
  names := by decide
  values := ⟨fun _ => trivial, fun _ => trivial, fun _ => trivial, trivial⟩

/-- The file is received in two chunks and written in as many: its base64 and the default name are in the object, which
has the announced length. -/
theorem PreparedMedia.body_streams_small :
    receiveMedia (fun _ => .ok ()) 4 .media smallMedia.defaults smallMedia.names [[72, 117], [98, 33]] =
        .ok smallMedia ∧
      ∃ body members, smallMedia.body false false smallMessage = .ok body ∧
        (∃ text, (body.stream [[72, 117], [98, 33]]).flatten = utf8 text ∧ Json.parse text = some (.obj members)) ∧
        members.lookup "media" = some (.str (String.ofList (base64Chars smallMedia.file))) ∧
        members.lookup "fileName" = some (.str "image.jpg") ∧
        (body.stream [[72, 117], [98, 33]]).flatten.length = body.contentLength := by
  obtain ⟨text, members, hstream, hparse, -, hmedia, hothers, hlength, -⟩ :=
    @PreparedMedia.body_streams smallMedia smallMessage false false _ rfl [[72, 117], [98, 33]] rfl
  have hname := hothers "fileName" (by decide)
  exact ⟨rfl, _, members, rfl, ⟨text, hstream, hparse⟩, hmedia, hname, hlength⟩

end Streaming

end ConnectHub
