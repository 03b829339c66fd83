import ConnectHub.JsonText
import ConnectHub.Store.Sorting

/-!
# Canonical text of a value

A value of the language may hold members that are undefined, which `JSON.stringify` leaves out. The canonical
text of a value is the text of its canonical form, which has the defined members of each object in the order of
their names; so two values have one canonical text exactly when their forms agree, and a value that went through
`JSON.stringify` and `JSON.parse` keeps its own.
-/

namespace ConnectHub

open Store

/-- A value of the language, as far as requests and records hold such. -/
inductive JsValue
  | undefined
  | null
  | bool (b : Bool)
  | number (numeral : String)
  | str (s : String)
  | arr (items : List JsValue)
  | obj (members : List (String × JsValue))
deriving Inhabited

/-- Whether a value is not undefined. -/
def JsValue.isDefined : JsValue → Bool
  | .undefined => false
  | _ => true

section Writer

variable (localeCompare : String → String → Bool)

mutual

/-- The text of a value that does not depend on the order of members. -/
def canonicalJson : JsValue → List Char
  | .undefined => [] -- has no text, and is joined as if empty
  | .null => Json.null.stringify
  | .bool b => (Json.bool b).stringify
  | .number numeral => (Json.number numeral).stringify
  | .str s => (Json.str s).stringify
  | .arr items => '[' :: commaJoin (canonicalItems items) ++ [']']
  | .obj members =>
    '\x7b' :: commaJoin ((sortOn localeCompare (·.1) (canonicalMembers members)).map fun member =>
      quote member.1.toList ++ ':' :: member.2) ++ ['\x7d']

/-- The items of an array as canonical texts. -/
def canonicalItems : List JsValue → List (List Char)
  | [] => []
  | item :: items => canonicalJson item :: canonicalItems items

/-- The defined members of an object, each with its canonical text. -/
def canonicalMembers : List (String × JsValue) → List (String × List Char)
  | [] => []
  | (name, value) :: members =>
    if value.isDefined then (name, canonicalJson value) :: canonicalMembers members
    else canonicalMembers members

end

mutual

/-- The canonical form of a value. -/
def JsValue.canonical : JsValue → Json
  | .undefined => .null
  | .null => .null
  | .bool b => .bool b
  | .number numeral => .number numeral
  | .str s => .str s
  | .arr items => .arr (JsValue.canonicalList items)
  | .obj members => .obj (sortOn localeCompare (·.1) (JsValue.canonicalFields members))

/-- The items of an array in canonical form. -/
def JsValue.canonicalList : List JsValue → List Json
  | [] => []
  | item :: items => item.canonical :: JsValue.canonicalList items

/-- The defined members of an object, each in canonical form. -/
def JsValue.canonicalFields : List (String × JsValue) → List (String × Json)
  | [] => []
  | (name, value) :: members =>
    if value.isDefined then (name, value.canonical) :: JsValue.canonicalFields members
    else JsValue.canonicalFields members

end

end Writer

mutual

/-- What `JSON.stringify` writes of a value. -/
def JsValue.json : JsValue → Json
  | .undefined => .null
  | .null => .null
  | .bool b => .bool b
  | .number numeral => .number numeral
  | .str s => .str s
  | .arr items => .arr (JsValue.jsonList items)
  | .obj members => .obj (JsValue.jsonFields members)

/-- What it writes of the items of an array. -/
def JsValue.jsonList : List JsValue → List Json
  | [] => []
  | item :: items => item.json :: JsValue.jsonList items

/-- What it writes of the members of an object. -/
def JsValue.jsonFields : List (String × JsValue) → List (String × Json)
  | [] => []
  | (name, value) :: members =>
    if value.isDefined then (name, value.json) :: JsValue.jsonFields members else JsValue.jsonFields members

end

mutual

/-- The value that a JSON value is in the language. -/
def Json.js : Json → JsValue
  | .null => .null
  | .bool b => .bool b
  | .number numeral => .number numeral
  | .str s => .str s
  | .arr items => .arr (Json.jsList items)
  | .obj members => .obj (Json.jsFields members)

/-- The same for the items of an array. -/
def Json.jsList : List Json → List JsValue
  | [] => []
  | item :: items => item.js :: Json.jsList items

/-- The same for the members of an object. -/
def Json.jsFields : List (String × Json) → List (String × JsValue)
  | [] => []
  | (name, value) :: members => (name, value.js) :: Json.jsFields members

end

mutual

/-- A value that is defined, as are the items of its arrays, with numerals that are numerals and objects that
name each member once. -/
def JsValue.WellFormed : JsValue → Prop
  | .undefined => False
  | .number numeral => isNumeral numeral.toList = true
  | .arr items => JsValue.ListWellFormed items
  | .obj members => (members.map (·.1)).Nodup ∧ JsValue.FieldsWellFormed members
  | _ => True

/-- The items of an array are well formed. -/
def JsValue.ListWellFormed : List JsValue → Prop
  | [] => True
  | item :: items => item.WellFormed ∧ JsValue.ListWellFormed items

/-- The defined members of an object are well formed. -/
def JsValue.FieldsWellFormed : List (String × JsValue) → Prop
  | [] => True
  | (_, value) :: members => (value.isDefined = true → value.WellFormed) ∧ JsValue.FieldsWellFormed members

end

section Lists

variable (localeCompare : String → String → Bool)

/-- The canonical items are those of the items. -/
theorem canonicalList_eq_map (items : List JsValue) :
    JsValue.canonicalList localeCompare items = items.map (JsValue.canonical localeCompare) := by
  induction items with
  | nil => rfl
  | cons item items ih => rw [JsValue.canonicalList, ih, List.map_cons]

/-- The canonical members are those of the defined members. -/
theorem canonicalFields_eq_map (members : List (String × JsValue)) :
    JsValue.canonicalFields localeCompare members =
      (members.filter (·.2.isDefined)).map fun member => (member.1, member.2.canonical localeCompare) := by
  induction members with
  | nil => rfl
  | cons member members ih =>
    obtain ⟨name, value⟩ := member
    rw [JsValue.canonicalFields, List.filter_cons, ih]
    split
    · rfl
    · rfl

/-- A value is well formed with its items. -/
theorem listWellFormed_iff {items : List JsValue} :
    JsValue.ListWellFormed items ↔ ∀ item ∈ items, item.WellFormed := by
  induction items with
  | nil => simp only [JsValue.ListWellFormed, List.not_mem_nil, false_imp_iff, implies_true]
  | cons item items ih => simp only [JsValue.ListWellFormed, List.forall_mem_cons, ih]

/-- And with its defined members. -/
theorem fieldsWellFormed_iff {members : List (String × JsValue)} :
    JsValue.FieldsWellFormed members ↔ ∀ member ∈ members, member.2.isDefined = true → member.2.WellFormed := by
  induction members with
  | nil => simp only [JsValue.FieldsWellFormed, List.not_mem_nil, false_imp_iff, implies_true]
  | cons member members ih => simp only [JsValue.FieldsWellFormed, List.forall_mem_cons, ih]

/-- Members are written one by one. -/
theorem memberTexts_eq_map (members : List (String × Json)) :
    Json.memberTexts members = members.map fun member => quote member.1.toList ++ ':' :: member.2.stringify := by
  induction members with
  | nil => rfl
  | cons member members ih => rw [Json.memberTexts, ih, List.map_cons]

/-- The members of an object are well formed one by one. -/
theorem membersWellFormed_iff {members : List (String × Json)} :
    Json.MembersWellFormed members ↔ ∀ member ∈ members, member.2.WellFormed := by
  induction members with
  | nil => simp only [Json.MembersWellFormed, List.not_mem_nil, false_imp_iff, implies_true]
  | cons member members ih => simp only [Json.MembersWellFormed, List.forall_mem_cons, ih]

end Lists

section Canonical

variable (localeCompare : String → String → Bool)

mutual

/-- The canonical text of a value is the text of its canonical form. -/
theorem canonicalJson_eq : (value : JsValue) → value.WellFormed →
    canonicalJson localeCompare value = (value.canonical localeCompare).stringify
  | .undefined, h => h.elim
  | .null, _ => rfl
  | .bool _, _ => rfl
  | .number _, _ => rfl
  | .str _, _ => rfl
  | .arr items, h => by
    simp only [canonicalJson, JsValue.canonical, Json.stringify]
    rw [canonicalItems_eq items h]
  | .obj members, h => by
    simp only [canonicalJson, JsValue.canonical, Json.stringify]
    rw [memberTexts_eq_map, canonicalMembers_eq members h.2,
      ← @map_sortOn _ _ _ _ (fun member : String × Json => member.1) _
        (fun member => (member.1, member.2.stringify)) _ (fun _ _ => rfl), List.map_map]
    rfl

/-- The items of an array are written in canonical form. -/
theorem canonicalItems_eq : (items : List JsValue) → JsValue.ListWellFormed items →
    canonicalItems localeCompare items = Json.itemTexts (JsValue.canonicalList localeCompare items)
  | [], _ => rfl
  | item :: items, h => by
    simp only [canonicalItems, JsValue.canonicalList, Json.itemTexts]
    rw [canonicalJson_eq item h.1, canonicalItems_eq items h.2]

/-- The members of an object are written in canonical form. -/
theorem canonicalMembers_eq : (members : List (String × JsValue)) → JsValue.FieldsWellFormed members →
    canonicalMembers localeCompare members =
      (JsValue.canonicalFields localeCompare members).map fun member => (member.1, member.2.stringify)
  | [], _ => rfl
  | (name, value) :: members, h => by
    simp only [canonicalMembers, JsValue.canonicalFields]
    split
    · next hdefined =>
      rw [List.map_cons, canonicalJson_eq value (h.1 hdefined), canonicalMembers_eq members h.2]
    · exact canonicalMembers_eq members h.2

end

/-- The defined members keep the names they have. -/
theorem canonicalFields_names {members : List (String × JsValue)} (h : (members.map (·.1)).Nodup) :
    ((JsValue.canonicalFields localeCompare members).map (·.1)).Nodup := by
  rw [canonicalFields_eq_map, List.map_map]
  exact h.sublist (List.filter_sublist.map _)

mutual

/-- The canonical form of a value is well formed. -/
theorem canonical_wellFormed : (value : JsValue) → value.WellFormed →
    (value.canonical localeCompare).WellFormed
  | .undefined, h => h.elim
  | .null, _ => trivial
  | .bool _, _ => trivial
  | .number _, h => h
  | .str _, _ => trivial
  | .arr items, h => canonicalList_wellFormed items h
  | .obj members, h => by
    have hperm := sortOn_perm localeCompare (·.1) (JsValue.canonicalFields localeCompare members)
    have hfields := canonicalFields_wellFormed members h.2
    refine ⟨(hperm.map (·.1)).nodup_iff.mpr (canonicalFields_names localeCompare h.1), ?_⟩
    rw [membersWellFormed_iff] at hfields ⊢
    intro member hmember
    exact hfields member (hperm.mem_iff.mp hmember)

/-- So are the items of an array. -/
theorem canonicalList_wellFormed : (items : List JsValue) → JsValue.ListWellFormed items →
    Json.ItemsWellFormed (JsValue.canonicalList localeCompare items)
  | [], _ => trivial
  | item :: items, h => ⟨canonical_wellFormed item h.1, canonicalList_wellFormed items h.2⟩

/-- And the members of an object. -/
theorem canonicalFields_wellFormed : (members : List (String × JsValue)) → JsValue.FieldsWellFormed members →
    Json.MembersWellFormed (JsValue.canonicalFields localeCompare members)
  | [], _ => trivial
  | (name, value) :: members, h => by
    simp only [JsValue.canonicalFields]
    split
    · next hdefined =>
      exact ⟨canonical_wellFormed value (h.1 hdefined), canonicalFields_wellFormed members h.2⟩
    · exact canonicalFields_wellFormed members h.2

end

/-- Two values have one canonical text exactly when they have one canonical form. -/
theorem canonicalJson_inj {value other : JsValue} (hvalue : value.WellFormed) (hother : other.WellFormed) :
    canonicalJson localeCompare value = canonicalJson localeCompare other ↔
      value.canonical localeCompare = other.canonical localeCompare := by
  rw [canonicalJson_eq localeCompare value hvalue, canonicalJson_eq localeCompare other hother]
  exact stringify_inj (canonical_wellFormed localeCompare value hvalue)
    (canonical_wellFormed localeCompare other hother)

/-- A JSON value is defined. -/
theorem Json.isDefined_js (value : Json) : value.js.isDefined = true := by
  cases value <;> rfl

mutual

/-- Writing a value and reading it back keeps its canonical form. -/
theorem canonical_json_js : (value : JsValue) →
    value.json.js.canonical localeCompare = value.canonical localeCompare
  | .undefined => rfl
  | .null => rfl
  | .bool _ => rfl
  | .number _ => rfl
  | .str _ => rfl
  | .arr items => by
    simp only [JsValue.json, Json.js, JsValue.canonical]
    rw [canonicalList_json_js items]
  | .obj members => by
    simp only [JsValue.json, Json.js, JsValue.canonical]
    rw [canonicalFields_json_js members]

/-- The same for the items of an array. -/
theorem canonicalList_json_js : (items : List JsValue) →
    JsValue.canonicalList localeCompare (Json.jsList (JsValue.jsonList items)) =
      JsValue.canonicalList localeCompare items
  | [] => rfl
  | item :: items => by
    simp only [JsValue.jsonList, Json.jsList, JsValue.canonicalList]
    rw [canonical_json_js item, canonicalList_json_js items]

/-- The same for the members of an object. -/
theorem canonicalFields_json_js : (members : List (String × JsValue)) →
    JsValue.canonicalFields localeCompare (Json.jsFields (JsValue.jsonFields members)) =
      JsValue.canonicalFields localeCompare members
  | [] => rfl
  | (name, value) :: members => by
    simp only [JsValue.jsonFields, JsValue.canonicalFields]
    split
    · simp only [Json.jsFields, JsValue.canonicalFields, Json.isDefined_js, if_true]
      rw [canonical_json_js value, canonicalFields_json_js members]
    · exact canonicalFields_json_js members

end

mutual

/-- What is written of a well formed value is well formed. -/
theorem json_wellFormed : (value : JsValue) → value.WellFormed → value.json.WellFormed
  | .undefined, h => h.elim
  | .null, _ => trivial
  | .bool _, _ => trivial
  | .number _, h => h
  | .str _, _ => trivial
  | .arr items, h => jsonList_wellFormed items h
  | .obj members, h => ⟨jsonFields_names members h.1, jsonFields_wellFormed members h.2⟩

/-- The same for the items of an array. -/
theorem jsonList_wellFormed : (items : List JsValue) → JsValue.ListWellFormed items →
    Json.ItemsWellFormed (JsValue.jsonList items)
  | [], _ => trivial
  | item :: items, h => ⟨json_wellFormed item h.1, jsonList_wellFormed items h.2⟩

/-- The same for the members of an object. -/
theorem jsonFields_wellFormed : (members : List (String × JsValue)) → JsValue.FieldsWellFormed members →
    Json.MembersWellFormed (JsValue.jsonFields members)
  | [], _ => trivial
  | (name, value) :: members, h => by
    simp only [JsValue.jsonFields]
    split
    · next hdefined => exact ⟨json_wellFormed value (h.1 hdefined), jsonFields_wellFormed members h.2⟩
    · exact jsonFields_wellFormed members h.2

/-- Its members are named once each. -/
theorem jsonFields_names : (members : List (String × JsValue)) → (members.map (·.1)).Nodup →
    ((JsValue.jsonFields members).map (·.1)).Nodup
  | members, h => by
    have heq : JsValue.jsonFields members =
        (members.filter (·.2.isDefined)).map fun member => (member.1, member.2.json) := by
      induction members with
      | nil => rfl
      | cons member members ih =>
        obtain ⟨name, value⟩ := member
        have hrest := ih (List.nodup_cons.mp h).2
        rw [JsValue.jsonFields, List.filter_cons, hrest]
        split
        · rfl
        · rfl
    rw [heq, List.map_map]
    exact h.sublist (List.filter_sublist.map _)

end

/-- Reading keeps the names of the members. -/
theorem jsFields_names (members : List (String × Json)) :
    (Json.jsFields members).map (·.1) = members.map (·.1) := by
  induction members with
  | nil => rfl
  | cons member members ih => rw [Json.jsFields, List.map_cons, ih, List.map_cons]

mutual

/-- What is read is well formed. -/
theorem js_wellFormed : (value : Json) → value.WellFormed → value.js.WellFormed
  | .null, _ => trivial
  | .bool _, _ => trivial
  | .number _, h => h
  | .str _, _ => trivial
  | .arr items, h => jsList_wellFormed items h
  | .obj members, h => by
    simp only [Json.WellFormed] at h
    exact ⟨(jsFields_names members).symm ▸ h.1, jsFields_wellFormed members h.2⟩

/-- The same for the items of an array. -/
theorem jsList_wellFormed : (items : List Json) → Json.ItemsWellFormed items →
    JsValue.ListWellFormed (Json.jsList items)
  | [], _ => trivial
  | item :: items, h => ⟨js_wellFormed item h.1, jsList_wellFormed items h.2⟩

/-- The same for the members of an object. -/
theorem jsFields_wellFormed : (members : List (String × Json)) → Json.MembersWellFormed members →
    JsValue.FieldsWellFormed (Json.jsFields members)
  | [], _ => trivial
  | (_, value) :: members, h => ⟨fun _ => js_wellFormed value h.1, jsFields_wellFormed members h.2⟩

end

/-- A value that is written and read back is found again under the same canonical text. -/
theorem canonicalJson_parse_stringify {value : JsValue} (h : value.WellFormed) :
    ∃ read, Json.parse value.json.stringify = some read ∧
      canonicalJson localeCompare read.js = canonicalJson localeCompare value := by
  have hjson := json_wellFormed value h
  refine ⟨value.json, parse_stringify hjson, ?_⟩
  exact (canonicalJson_inj localeCompare (js_wellFormed value.json hjson) h).mpr
    (canonical_json_js localeCompare value)

end Canonical

end ConnectHub
