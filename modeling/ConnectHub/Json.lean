/-!
# JSON values

The values a request body can hold. A number is kept as its numeral, since no code here computes
with one. Dropping members by name and comparing values go through a value at every depth.
-/

namespace ConnectHub

/-- A JSON value. -/
inductive Json
  | null
  | bool (b : Bool)
  | number (numeral : String)
  | str (s : String)
  | arr (items : List Json)
  | obj (members : List (String × Json))
deriving Repr, Inhabited

/-- The member of an object with the given name; other values have no members. -/
def Json.member? (name : String) : Json → Option Json
  | .obj members => members.lookup name
  | _ => none

/-- The text of a string value. -/
def Json.str? : Json → Option String
  | .str s => some s
  | _ => none

/-- Whether a value is neither missing nor null. -/
def Json.nonNull : Option Json → Bool
  | none => false
  | some .null => false
  | some _ => true

/-- The member of an object with the given name, unless it is null. -/
def Json.given (name : String) (value : Json) : Option Json :=
  (value.member? name).filter fun found => Json.nonNull (some found)

/-- Whether a value is an object or an array. -/
def Json.isContainer : Json → Bool
  | .arr _ => true
  | .obj _ => true
  | _ => false

/-- The named parts of a value: an array and a text have them under their positions. -/
def Json.entries (characters : String → List String) : Json → List (String × Json)
  | .obj members => members
  | .arr items => items.zipIdx.map fun item => (toString item.2, item.1)
  | .str s => (characters s).zipIdx.map fun item => (toString item.2, .str item.1)
  | _ => []

section Traversals

variable (drop : String → Bool)

mutual

/-- The value without the members whose name is to be dropped, at any depth. -/
def Json.without : Json → Json
  | .arr items => .arr (Json.withoutItems items)
  | .obj members => .obj (Json.withoutMembers members)
  | value => value

/-- The items of an array, each without the dropped members. -/
def Json.withoutItems : List Json → List Json
  | [] => []
  | item :: items => Json.without item :: Json.withoutItems items

/-- The members of an object that are kept, each without the dropped members. -/
def Json.withoutMembers : List (String × Json) → List (String × Json)
  | [] => []
  | (name, value) :: members =>
    if drop name then Json.withoutMembers members
    else (name, Json.without value) :: Json.withoutMembers members

end

mutual

/-- Whether two values are equal at every depth; the order of members does not count. -/
def Json.deepEqual : Json → Json → Bool
  | .null, .null => true
  | .bool a, .bool b => a = b
  | .number a, .number b => a = b
  | .str a, .str b => a = b
  | .arr items, .arr others => Json.itemsEqual items others
  | .obj members, .obj others => members.length = others.length && Json.membersEqual members others
  | _, _ => false

/-- Whether two arrays hold equal items. -/
def Json.itemsEqual : List Json → List Json → Bool
  | [], [] => true
  | a :: items, b :: others => Json.deepEqual a b && Json.itemsEqual items others
  | _, _ => false

/-- Whether each member has an equal one of its name among the others. -/
def Json.membersEqual : List (String × Json) → List (String × Json) → Bool
  | [], _ => true
  | (name, value) :: members, others =>
    (match others.lookup name with
      | some other => Json.deepEqual value other
      | none => false) && Json.membersEqual members others

end

variable {drop}

mutual

/-- Dropping members twice is dropping them once. -/
theorem Json.without_without : (value : Json) →
    Json.without drop (Json.without drop value) = Json.without drop value
  | .null => rfl
  | .bool _ => rfl
  | .number _ => rfl
  | .str _ => rfl
  | .arr items => by
    simp only [Json.without]
    rw [Json.withoutItems_withoutItems items]
  | .obj members => by
    simp only [Json.without]
    rw [Json.withoutMembers_withoutMembers members]

/-- The items of an array need it only once. -/
theorem Json.withoutItems_withoutItems : (items : List Json) →
    Json.withoutItems drop (Json.withoutItems drop items) = Json.withoutItems drop items
  | [] => rfl
  | item :: items => by
    simp only [Json.withoutItems]
    rw [Json.without_without item, Json.withoutItems_withoutItems items]

/-- The members of an object need it only once. -/
theorem Json.withoutMembers_withoutMembers : (members : List (String × Json)) →
    Json.withoutMembers drop (Json.withoutMembers drop members) = Json.withoutMembers drop members
  | [] => rfl
  | (name, value) :: members => by
    by_cases hdrop : drop name = true
    · simp only [Json.withoutMembers, if_pos hdrop]
      exact Json.withoutMembers_withoutMembers members
    · simp only [Json.withoutMembers, if_neg hdrop]
      rw [Json.without_without value, Json.withoutMembers_withoutMembers members]

end

/-- A member that is left was not to be dropped, and its value has lost what was. -/
theorem Json.mem_withoutMembers {members : List (String × Json)} {member : String × Json}
    (h : member ∈ Json.withoutMembers drop members) :
    drop member.1 = false ∧ ∃ value, member.2 = Json.without drop value := by
  induction members with
  | nil => simp [Json.withoutMembers] at h
  | cons first members ih =>
    obtain ⟨name, value⟩ := first
    by_cases hdrop : drop name = true
    · rw [Json.withoutMembers, if_pos hdrop] at h
      exact ih h
    · rw [Json.withoutMembers, if_neg hdrop] at h
      cases List.mem_cons.mp h with
      | inl hfirst =>
        rw [hfirst]
        exact ⟨eq_false_of_ne_true hdrop, value, rfl⟩
      | inr hrest => exact ih hrest

/-- No dropped name is left among the members. -/
theorem Json.drop_of_mem_withoutMembers {members : List (String × Json)} {member : String × Json}
    (h : member ∈ Json.withoutMembers drop members) : drop member.1 = false :=
  (Json.mem_withoutMembers h).1

/-- The values that are left need no further dropping. -/
theorem Json.without_of_mem_withoutMembers {members : List (String × Json)} {member : String × Json}
    (h : member ∈ Json.withoutMembers drop members) : Json.without drop member.2 = member.2 := by
  obtain ⟨value, hvalue⟩ := (Json.mem_withoutMembers h).2
  rw [hvalue]
  exact Json.without_without value

/-- The items of an array that needs no dropping need none. -/
theorem Json.without_of_mem_withoutItems {items : List Json} {item : Json}
    (h : item ∈ Json.withoutItems drop items) : Json.without drop item = item := by
  induction items with
  | nil => simp [Json.withoutItems] at h
  | cons first items ih =>
    cases List.mem_cons.mp h with
    | inl hfirst =>
      rw [hfirst]
      exact Json.without_without first
    | inr hrest => exact ih hrest

/-- The members of a value that needs no dropping need none. -/
theorem Json.without_of_member? {value found : Json} {name : String}
    (h : Json.without drop value = value) (hfound : value.member? name = some found) :
    Json.without drop found = found := by
  cases value with
  | obj members =>
    have hmembers : Json.withoutMembers drop members = members := Json.obj.inj h
    obtain ⟨before, after, hsplit, -⟩ := List.lookup_eq_some_iff.mp hfound
    have hmem : (name, found) ∈ Json.withoutMembers drop members := by
      rw [hmembers, hsplit]
      exact List.mem_append_right _ List.mem_cons_self
    exact Json.without_of_mem_withoutMembers hmem
  | _ => cases hfound

/-- Objects of different sizes differ. -/
theorem Json.deepEqual_obj_of_length_ne {members others : List (String × Json)}
    (h : members.length ≠ others.length) :
    Json.deepEqual (.obj members) (.obj others) = false := by
  simp only [Json.deepEqual, decide_eq_false h, Bool.false_and]

end Traversals

end ConnectHub
