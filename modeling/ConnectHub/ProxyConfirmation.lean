import ConnectHub.EvolutionHttp
import ConnectHub.PreparedMedia

/-!
# Confirming a proxy

A provider wraps the proxy of an instance in up to two envelopes, each of which may name the instance. The proxy
itself is found by unwrapping them, is compared with what was sent, and is shown in the envelope of the first
answer, without any password.
-/

namespace ConnectHub

/-- The proxy that an instance gets. -/
structure SetProxyDto where
  enabled : Bool
  host : String
  port : String
  protocol : String
  username : Option String
  password : Option String
deriving DecidableEq, Repr

/-- The members of an object. -/
abbrev JsObject := List (String × JsValue)

/-- A member of an object, or undefined. -/
def memberOf (object : JsObject) (name : String) : JsValue := (object.lookup name).getD .undefined

/-- Whether an object has a member. -/
def hasMember (object : JsObject) (name : String) : Bool := (object.lookup name).isSome

/-- Whether a value is the given text. -/
def isText (value : JsValue) (text : String) : Bool :=
  match value with
  | .str s => s = text
  | _ => false

/-- Whether a value is a text, null or undefined. -/
def isOptionalString : JsValue → Bool
  | .undefined | .null | .str _ => true
  | _ => false

/-- Whether a number is finite. -/
def isFiniteNumeral (numeral : String) : Bool := !(["NaN", "Infinity", "-Infinity"].contains numeral)

/-- Whether a value is a finite number. -/
def isFiniteNumber : JsValue → Bool
  | .number numeral => isFiniteNumeral numeral
  | _ => false

/-- Whether a value is a truth value. -/
def isBoolean : JsValue → Bool
  | .bool _ => true
  | _ => false

/-- Whether an object is a proxy. -/
def isValidLeaf (leaf : JsObject) : Bool :=
  isBoolean (memberOf leaf "enabled") && isOptionalString (memberOf leaf "host") &&
    isOptionalString (memberOf leaf "protocol") && isOptionalString (memberOf leaf "username") &&
    (isOptionalString (memberOf leaf "port") || isFiniteNumber (memberOf leaf "port"))

/-- Where the proxy of a body is. -/
inductive ProxyLocation
  | located (leaf : JsObject) (depth : ℕ)
  | empty | unknown | invalid

/-- Unwrap an object as often as is left. -/
def unwrapProxy (instanceName : String) : ℕ → ℕ → JsObject → ProxyLocation
  | 0, _, _ => .invalid
  | left + 1, depth, current =>
    if hasMember current "instanceName" && !isText (memberOf current "instanceName") instanceName then .invalid
    else if hasMember current "enabled" then
      match memberOf current "proxy" with
      | .undefined | .null => if isValidLeaf current then .located current depth else .invalid
      | _ => .invalid
    else
      match memberOf current "proxy" with
      | .null => .empty
      | .undefined => if current = [] then .empty else .unknown
      | .obj next => unwrapProxy instanceName left (depth + 1) next
      | _ => .invalid

/-- Find the proxy in a body, which wraps it at most twice. -/
def locateProxyLeaf (body : JsValue) (instanceName : String) : ProxyLocation :=
  match body with
  | .null | .undefined => .empty
  | .str s => if s = "" then .empty else .unknown
  | .arr _ => .invalid
  | .obj members => unwrapProxy instanceName 3 0 members
  | _ => .unknown

/-- A value as text; an object or a truth value has none. -/
def asText : JsValue → Option String
  | .undefined | .null => some ""
  | .str s => some s
  | .number numeral => if isFiniteNumeral numeral then some numeral else none
  | _ => none

/-- Whether the answer to a setting may be followed by reads. -/
def canConfirmProxySet (body : JsValue) (instanceName : String) : Bool :=
  match locateProxyLeaf body instanceName with
  | .invalid => false
  | _ => true

/-- Whether a proxy is the one that was sent. -/
def matchesSentProxy (leaf : JsObject) (sent : SetProxyDto) : Bool :=
  match memberOf leaf "enabled" with
  | .bool enabled =>
    if enabled ≠ sent.enabled then false
    else if !sent.enabled then true
    else
      isText (memberOf leaf "host") sent.host && isText (memberOf leaf "protocol") sent.protocol &&
        asText (memberOf leaf "port") = some sent.port &&
        asText (memberOf leaf "username") = some (sent.username.getD "")
  | _ => false

/-- What a read of the proxy comes to. -/
inductive ProxyReadOutcome
  | empty | invalid | divergent
  | confirmed (leaf : JsObject)

/-- Judge a read of the proxy. -/
def classifyProxyRead (body : JsValue) (instanceName : String) (sent : SetProxyDto) : ProxyReadOutcome :=
  match locateProxyLeaf body instanceName with
  | .empty => .empty
  | .invalid | .unknown => .invalid
  | .located leaf _ => if matchesSentProxy leaf sent then .confirmed leaf else .divergent

mutual

/-- A value without passwords at any depth. -/
def JsValue.withoutPasswords : JsValue → JsValue
  | .arr items => .arr (JsValue.itemsWithoutPasswords items)
  | .obj members => .obj (JsValue.membersWithoutPasswords members)
  | value => value

/-- The items of an array without passwords. -/
def JsValue.itemsWithoutPasswords : List JsValue → List JsValue
  | [] => []
  | item :: items => item.withoutPasswords :: JsValue.itemsWithoutPasswords items

/-- The members of an object without passwords. -/
def JsValue.membersWithoutPasswords : List (String × JsValue) → List (String × JsValue)
  | [] => []
  | (name, value) :: members =>
    -- assigning to `__proto__` gives the copy a prototype, not a member
    if name = "password" ∨ name = "__proto__" then JsValue.membersWithoutPasswords members
    else (name, value.withoutPasswords) :: JsValue.membersWithoutPasswords members

end

/-- An object with another proxy in its innermost envelope. -/
def replaceLeaf : ℕ → JsObject → JsObject → JsObject
  | 0, _, leaf => leaf
  | depth + 1, body, leaf =>
    match memberOf body "proxy" with
    | .obj inner => assignMember "proxy" (.obj (replaceLeaf depth inner leaf)) body
    | _ => assignMember "proxy" (.obj (replaceLeaf depth [] leaf)) body

/-- The members of a proxy that are shown. -/
def publicProxyFields : List String := ["enabled", "host", "port", "protocol", "username"]

/-- Take a member of a confirmed proxy over, or leave it out where the confirmed one has none. -/
def takeField (confirmed base : JsObject) (field : String) : JsObject :=
  if hasMember confirmed field then assignMember field (memberOf confirmed field) base
  else base.filter fun member => member.1 ≠ field

/-- The proxy that is shown: the confirmed one in the envelope of the answer to its setting. -/
def buildPublicProxy (setBody : JsValue) (confirmed : JsObject) (instanceName : String) : Option JsValue :=
  match locateProxyLeaf setBody instanceName, setBody with
  | .invalid, _ => none
  | .located leaf depth, .obj members =>
    some (JsValue.obj (replaceLeaf depth members
      (publicProxyFields.foldl (takeField confirmed) leaf))).withoutPasswords
  | _, _ =>
    some (JsValue.obj [("proxy", .obj [("instanceName", .str instanceName),
      ("proxy", .obj (publicProxyFields.foldl (takeField confirmed) []))])]).withoutPasswords

section Spec

/-- A body wraps an object in some envelopes, none of which names another instance. -/
inductive Wraps (instanceName : String) : ℕ → JsObject → JsObject → Prop
  | leaf {object : JsObject}
      (own : ∀ named, object.lookup "instanceName" = some named → named = .str instanceName) :
      Wraps instanceName 0 object object
  | envelope {depth : ℕ} {object inner leaf : JsObject}
      (own : ∀ named, object.lookup "instanceName" = some named → named = .str instanceName)
      (proxy : object.lookup "proxy" = some (.obj inner)) (rest : Wraps instanceName depth inner leaf) :
      Wraps instanceName (depth + 1) object leaf

/-- A proxy agrees with what was sent: it is enabled or not alike, and if it is, its host, protocol, port and user
are the same as texts. -/
structure AgreesWith (leaf : JsObject) (sent : SetProxyDto) : Prop where
  enabled : memberOf leaf "enabled" = .bool sent.enabled
  host : sent.enabled = true → asText (memberOf leaf "host") = some sent.host
  protocol : sent.enabled = true → asText (memberOf leaf "protocol") = some sent.protocol
  port : sent.enabled = true → asText (memberOf leaf "port") = some sent.port
  username : sent.enabled = true → asText (memberOf leaf "username") = some (sent.username.getD "")

/-- A body confirms what was sent. -/
def Confirms (body : JsValue) (instanceName : String) (sent : SetProxyDto) : Prop :=
  ∃ members depth leaf, body = .obj members ∧ depth ≤ 2 ∧ Wraps instanceName depth members leaf ∧
    isValidLeaf leaf = true ∧ AgreesWith leaf sent

mutual

/-- A value has no password at any depth. -/
def JsValue.PasswordFree : JsValue → Prop
  | .arr items => JsValue.ItemsPasswordFree items
  | .obj members => JsValue.MembersPasswordFree members
  | _ => True

/-- The items of an array have none. -/
def JsValue.ItemsPasswordFree : List JsValue → Prop
  | [] => True
  | item :: items => item.PasswordFree ∧ JsValue.ItemsPasswordFree items

/-- The members of an object are none and have none. -/
def JsValue.MembersPasswordFree : List (String × JsValue) → Prop
  | [] => True
  | (name, value) :: members => name ≠ "password" ∧ value.PasswordFree ∧ JsValue.MembersPasswordFree members

end

end Spec

section Proofs

mutual

/-- Nothing of a password is left. -/
theorem withoutPasswords_free : (value : JsValue) → value.withoutPasswords.PasswordFree
  | .undefined => trivial
  | .null => trivial
  | .bool _ => trivial
  | .number _ => trivial
  | .str _ => trivial
  | .arr items => itemsWithoutPasswords_free items
  | .obj members => membersWithoutPasswords_free members

/-- Nor in the items of an array. -/
theorem itemsWithoutPasswords_free : (items : List JsValue) →
    JsValue.ItemsPasswordFree (JsValue.itemsWithoutPasswords items)
  | [] => trivial
  | item :: items => ⟨withoutPasswords_free item, itemsWithoutPasswords_free items⟩

/-- Nor in the members of an object. -/
theorem membersWithoutPasswords_free : (members : List (String × JsValue)) →
    JsValue.MembersPasswordFree (JsValue.membersWithoutPasswords members)
  | [] => trivial
  | (name, value) :: members => by
    rw [JsValue.membersWithoutPasswords]
    by_cases hname : name = "password" ∨ name = "__proto__"
    · rw [if_pos hname]
      exact membersWithoutPasswords_free members
    · rw [if_neg hname]
      rw [not_or] at hname
      exact ⟨hname.1, withoutPasswords_free value, membersWithoutPasswords_free members⟩

end

/-- A value that is a text is that text. -/
theorem eq_str_of_isText {value : JsValue} {text : String} (h : isText value text = true) : value = .str text := by
  unfold isText at h
  split at h
  · rw [of_decide_eq_true h]
  · cases h

/-- An object that names no other instance has its own name or none. -/
theorem own_of_not_other {instanceName : String} {current : JsObject}
    (h : ¬ (hasMember current "instanceName" && !isText (memberOf current "instanceName") instanceName) = true) :
    ∀ named, current.lookup "instanceName" = some named → named = .str instanceName := by
  intro named hnamed
  have hhas : hasMember current "instanceName" = true := by
    rw [hasMember, hnamed]
    rfl
  have hmember : memberOf current "instanceName" = named := by
    rw [memberOf, hnamed]
    rfl
  rw [hhas, hmember, Bool.true_and, Bool.not_eq_true', Bool.not_eq_false] at h
  exact eq_str_of_isText h

/-- What is located is wrapped in as many envelopes as were unwrapped, and is a proxy. -/
theorem unwrapProxy_located {instanceName : String} {left depth found : ℕ} {current leaf : JsObject}
    (h : unwrapProxy instanceName left depth current = .located leaf found) :
    ∃ count, found = depth + count ∧ count < left ∧ Wraps instanceName count current leaf ∧
      isValidLeaf leaf = true := by
  induction left generalizing depth current with
  | zero => cases h
  | succ left ih =>
    rw [unwrapProxy] at h
    split at h
    · cases h
    · rename_i hother
      have hown := own_of_not_other hother
      split at h
      · have hleaf : ∀ value, memberOf current "proxy" = value →
            (if isValidLeaf current then ProxyLocation.located current depth else .invalid) =
              .located leaf found →
            ∃ count, found = depth + count ∧ count < left + 1 ∧ Wraps instanceName count current leaf ∧
              isValidLeaf leaf = true := by
          intro value _ hvalid
          by_cases hgood : isValidLeaf current = true
          · rw [if_pos hgood] at hvalid
            cases hvalid
            exact ⟨0, rfl, Nat.succ_pos left, .leaf hown, hgood⟩
          · rw [if_neg hgood] at hvalid
            cases hvalid
        split at h
        · rename_i hproxy
          exact hleaf _ hproxy h
        · rename_i hproxy
          exact hleaf _ hproxy h
        · cases h
      · split at h
        · cases h
        · split at h
          · cases h
          · cases h
        · rename_i next hproxy
          obtain ⟨count, hcount, hlt, hwraps, hvalid⟩ := ih h
          have hlookup : current.lookup "proxy" = some (.obj next) := by
            rw [memberOf] at hproxy
            cases hfound : current.lookup "proxy" with
            | none =>
              rw [hfound] at hproxy
              cases hproxy
            | some value =>
              rw [hfound] at hproxy
              exact congrArg some hproxy
          exact ⟨count + 1, by omega, Nat.succ_lt_succ hlt, .envelope hown hlookup hwraps, hvalid⟩
        · cases h

/-- A proxy that matches agrees with what was sent. -/
theorem agreesWith_of_matches {leaf : JsObject} {sent : SetProxyDto} (h : matchesSentProxy leaf sent = true) :
    AgreesWith leaf sent := by
  unfold matchesSentProxy at h
  split at h
  · rename_i enabled henabled
    split at h
    · cases h
    · rename_i hsame
      rw [not_not] at hsame
      rw [hsame] at henabled
      split at h
      · rename_i hoff
        have hno : ¬ sent.enabled = true := by
          intro hon
          rw [hon] at hoff
          cases hoff
        exact {
          enabled := henabled
          host := fun hon => absurd hon hno
          protocol := fun hon => absurd hon hno
          port := fun hon => absurd hon hno
          username := fun hon => absurd hon hno }
      · simp only [Bool.and_eq_true, decide_eq_true_eq] at h
        obtain ⟨⟨⟨hhost, hprotocol⟩, hport⟩, husername⟩ := h
        exact {
          enabled := henabled
          host := fun _ => by rw [eq_str_of_isText hhost]; rfl
          protocol := fun _ => by rw [eq_str_of_isText hprotocol]; rfl
          port := fun _ => hport
          username := fun _ => husername }
  · cases h

/-- A read that is confirmed confirms what was sent. -/
theorem confirms_of_classify {body : JsValue} {instanceName : String} {sent : SetProxyDto} {leaf : JsObject}
    (h : classifyProxyRead body instanceName sent = .confirmed leaf) : Confirms body instanceName sent := by
  unfold classifyProxyRead at h
  cases hlocated : locateProxyLeaf body instanceName with
  | empty => rw [hlocated] at h; cases h
  | unknown => rw [hlocated] at h; cases h
  | invalid => rw [hlocated] at h; cases h
  | located found depth =>
    rw [hlocated] at h
    simp only at h
    by_cases hmatches : matchesSentProxy found sent = true
    · cases body with
      | obj members =>
        have hunwrapped : unwrapProxy instanceName 3 0 members = .located found depth := hlocated
        obtain ⟨count, -, hlt, hwraps, hvalid⟩ := unwrapProxy_located hunwrapped
        exact ⟨members, count, found, rfl, by omega, hwraps, hvalid, agreesWith_of_matches hmatches⟩
      | undefined => cases hlocated
      | null => cases hlocated
      | bool b => cases hlocated
      | number numeral => cases hlocated
      | str s =>
        rw [locateProxyLeaf] at hlocated
        split at hlocated <;> cases hlocated
      | arr items => cases hlocated
    · rw [if_neg hmatches] at h
      cases h

/-- An answer that may be confirmed is shown with its proxy, without passwords. -/
theorem buildPublicProxy_free {setBody : JsValue} {instanceName : String} (confirmed : JsObject)
    (h : canConfirmProxySet setBody instanceName = true) :
    ∃ shown, buildPublicProxy setBody confirmed instanceName = some shown ∧ shown.PasswordFree := by
  unfold canConfirmProxySet at h
  unfold buildPublicProxy
  split
  · rename_i hinvalid
    rw [hinvalid] at h
    cases h
  · exact ⟨_, rfl, withoutPasswords_free _⟩
  · exact ⟨_, rfl, withoutPasswords_free _⟩

end Proofs

end ConnectHub
