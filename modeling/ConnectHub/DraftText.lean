import ConnectHub.CanonicalJson
import ConnectHub.ChangeChecks
import Mathlib.Data.List.Forall2

/-!
# The canonical text of drafts and snapshots

A draft reaches the Hub as an object whose members stand in any order and whose optional ones may be undefined.
Its lists are sorted before its canonical text is taken, the lists of providers by `localeCompare` and those of
products by code units. Two accepted drafts have one text exactly when they ask for the same; two snapshots,
whose lists are not sorted, exactly when nothing changed.
-/

namespace ConnectHub

open Store

section CodeUnits

/-- The UTF-16 code units of a character. -/
def charUnits (c : Char) : List Nat :=
  if c.toNat < 0x10000 then [c.toNat]
  else [0xd800 + (c.toNat - 0x10000) / 0x400, 0xdc00 + (c.toNat - 0x10000) % 0x400]

/-- The UTF-16 code units of a text. -/
def codeUnits (text : String) : List Nat :=
  text.toList.flatMap charUnits

/-- The lexicographic order of code units. -/
def unitsLe : List Nat → List Nat → Bool
  | [], _ => true
  | _ :: _, [] => false
  | a :: units, b :: others => decide (a < b) || (decide (a = b) && unitsLe units others)

/-- The order in which a sort without a comparison puts texts. -/
def textLe (a b : String) : Bool := unitsLe (codeUnits a) (codeUnits b)

/-- The lexicographic order compares any two lists. -/
theorem isCollation_unitsLe : IsCollation unitsLe where
  total := by
    intro first second
    induction first generalizing second with
    | nil => exact Or.inl rfl
    | cons a units ih =>
      cases second with
      | nil => exact Or.inr rfl
      | cons b others =>
        have hrest := ih others
        simp only [unitsLe, Bool.or_eq_true, Bool.and_eq_true, decide_eq_true_eq]
        rcases Nat.lt_trichotomy a b with hlt | heq | hgt
        · exact Or.inl (Or.inl hlt)
        · rcases hrest with hle | hle
          · exact Or.inl (Or.inr ⟨heq, hle⟩)
          · exact Or.inr (Or.inr ⟨heq.symm, hle⟩)
        · exact Or.inr (Or.inl hgt)
  trans := by
    intro first second third hfirst hsecond
    induction first generalizing second third with
    | nil => rfl
    | cons a units ih =>
      cases second with
      | nil => cases hfirst
      | cons b others =>
        cases third with
        | nil => cases hsecond
        | cons c rest =>
          have htail := ih others rest
          simp only [unitsLe, Bool.or_eq_true, Bool.and_eq_true, decide_eq_true_eq] at hfirst hsecond ⊢
          rcases hfirst with hlt | ⟨heq, hfirst⟩
          · left
            omega
          · rcases hsecond with hlt | ⟨heq', hsecond⟩
            · left
              omega
            · exact Or.inr ⟨heq.trans heq', htail hfirst hsecond⟩
  antisymm := by
    intro first second hfirst hsecond
    induction first generalizing second with
    | nil =>
      cases second with
      | nil => rfl
      | cons b others => cases hsecond
    | cons a units ih =>
      cases second with
      | nil => cases hfirst
      | cons b others =>
        have htail := ih others
        simp only [unitsLe, Bool.or_eq_true, Bool.and_eq_true, decide_eq_true_eq] at hfirst hsecond
        have heq : a = b := by omega
        have hunits : unitsLe units others = true := by
          rcases hfirst with hlt | ⟨-, hfirst⟩
          · omega
          · exact hfirst
        have hothers : unitsLe others units = true := by
          rcases hsecond with hlt | ⟨-, hsecond⟩
          · omega
          · exact hsecond
        rw [heq, htail hunits hothers]

/-- No character is a surrogate. -/
theorem not_surrogate (c : Char) : c.toNat < 0xd800 ∨ 0xdfff < c.toNat ∧ c.toNat < 0x110000 := by
  have hvalid : c.val.toNat < 0xd800 ∨ 0xdfff < c.val.toNat ∧ c.val.toNat < 0x110000 := c.valid
  exact hvalid

/-- Different texts have different code units. -/
theorem flatMap_charUnits_injective {text other : List Char}
    (h : text.flatMap charUnits = other.flatMap charUnits) : text = other := by
  induction text generalizing other with
  | nil =>
    cases other with
    | nil => rfl
    | cons d other =>
      rw [List.flatMap_nil, List.flatMap_cons, charUnits] at h
      split at h <;> cases h
  | cons c text ih =>
    cases other with
    | nil =>
      rw [List.flatMap_nil, List.flatMap_cons, charUnits] at h
      split at h <;> cases h
    | cons d other =>
      have hc := not_surrogate c
      have hd := not_surrogate d
      rw [List.flatMap_cons, List.flatMap_cons] at h
      unfold charUnits at h
      split at h
      · split at h
        · rw [List.singleton_append, List.singleton_append, List.cons.injEq] at h
          rw [Char.toNat_inj.mp h.1, ih h.2]
        · simp only [List.cons_append, List.nil_append, List.cons.injEq] at h
          omega
      · split at h
        · simp only [List.cons_append, List.nil_append, List.cons.injEq] at h
          omega
        · simp only [List.cons_append, List.nil_append, List.cons.injEq] at h
          have hsame : c.toNat = d.toNat := by omega
          rw [Char.toNat_inj.mp hsame, ih h.2.2]

/-- The order of texts compares any two of them. -/
theorem isCollation_textLe : IsCollation textLe where
  total a b := isCollation_unitsLe.total _ _
  trans a b c := isCollation_unitsLe.trans _ _ _
  antisymm a b hab hba := by
    have hunits := isCollation_unitsLe.antisymm _ _ hab hba
    exact String.toList_inj.mp (flatMap_charUnits_injective hunits)

end CodeUnits

section Normalize

variable (localeCompare : String → String → Bool)

/-- The member of a value with the given name. -/
def JsValue.get (name : String) : JsValue → JsValue
  | .obj members => (members.lookup name).getD .undefined
  | _ => .undefined

/-- The value with a member replaced. -/
def JsValue.set (value : JsValue) (name : String) (member : JsValue) : JsValue :=
  match value with
  | .obj members => .obj (setMember name member members)
  | value => value

/-- The text of a value that is one. -/
def JsValue.text : JsValue → String
  | .str s => s
  | _ => ""

/-- The items of an array in the order of their providers. -/
def JsValue.byId : JsValue → JsValue
  | .arr items => .arr (sortOn localeCompare (fun item => (item.get "vpsProviderId").text) items)
  | value => value

/-- The items of an array of texts in order. -/
def JsValue.sorted : JsValue → JsValue
  | .arr items => .arr (sortOn textLe JsValue.text items)
  | value => value

/-- Every item of an array changed. -/
def JsValue.mapItems (f : JsValue → JsValue) : JsValue → JsValue
  | .arr items => .arr (items.map f)
  | value => value

/-- A shared limit with its products in order. -/
def JsValue.sortProducts (item : JsValue) : JsValue :=
  item.set "productIds" (item.get "productIds").sorted

/-- The draft with its lists in order. -/
def JsValue.normalizeDraft (dto : JsValue) : JsValue :=
  ((dto.set "links" ((dto.get "links").byId localeCompare)).set
    "providerUpdates" ((dto.get "providerUpdates").byId localeCompare)).set
    "confirmations" (.obj
      [("identities", ((dto.get "confirmations").get "identities").byId localeCompare),
       ("sharedLimits", (((dto.get "confirmations").get "sharedLimits").mapItems
         JsValue.sortProducts).byId localeCompare)])

end Normalize

section Objects

/-- A value is an object whose defined members are the given ones, in any order. -/
def JsValue.IsObject (value : JsValue) (fields : List (String × JsValue)) : Prop :=
  ∃ members, value = .obj members ∧ (members.map (·.1)).Nodup ∧
    (members.filter (·.2.isDefined)).Perm fields

/-- A number as the language prints it. -/
def JsValue.nat (n : Nat) : JsValue := .number n.repr

/-- A member that may be absent. -/
def optional (name : String) (value : Option JsValue) : List (String × JsValue) :=
  (value.map fun value => (name, value)).toList

/-- The names of the actions. -/
def ChangeAction.text : ChangeAction → String
  | .configureCapacity => "configure_capacity"
  | .singleDestination => "single_destination"
  | .restoreLegacy => "restore_legacy"
  | .detach => "detach"

/-- The names of the allocation policies. -/
def AllocationMode.text : AllocationMode → String
  | .legacy => "legacy"
  | .capacity => "capacity"

/-- The names of the identity states. -/
def IdentityStatus.text : IdentityStatus → String
  | .pending => "pending"
  | .verified => "verified"

/-- A limit, which may be lifted. -/
def JsValue.limit (maxInstances : Option Nat) : JsValue :=
  (maxInstances.map JsValue.nat).getD .null

/-- Identifiers as texts. -/
def JsValue.ids (ids : List Uuid) : JsValue := .arr (ids.map fun id => .str id.value)

/-- The members of a link of a draft. -/
def DraftLink.fields (link : DraftLink) : List (String × JsValue) :=
  [("vpsProviderId", .str link.vpsProviderId.value)] ++
    optional "expectedRevision" (link.expectedRevision.map JsValue.nat) ++
    optional "allocationPriority" (link.allocationPriority.map JsValue.nat) ++
    optional "acceptingNewInstances" (link.acceptingNewInstances.map JsValue.bool)

/-- The members of a limit that a draft sets. -/
def DraftProviderUpdate.fields (update : DraftProviderUpdate) : List (String × JsValue) :=
  [("vpsProviderId", .str update.vpsProviderId.value), ("expectedRevision", .nat update.expectedRevision),
   ("maxInstances", .limit update.maxInstances)]

/-- The members of an identity that a draft confirms. -/
def DraftIdentity.fields (identity : DraftIdentity) : List (String × JsValue) :=
  [("vpsProviderId", .str identity.vpsProviderId.value), ("expectedRevision", .nat identity.expectedRevision),
   ("confirmed", .bool true)]

/-- The members of an impact that a draft accepts. -/
def DraftSharedLimit.fields (impact : DraftSharedLimit) : List (String × JsValue) :=
  [("vpsProviderId", .str impact.vpsProviderId.value), ("expectedRevision", .nat impact.expectedRevision),
   ("maxInstances", .limit impact.maxInstances), ("productIds", .ids impact.productIds),
   ("confirmed", .bool true)]

/-- The members of a draft, given its lists. -/
def EvolutionChangeInput.fields (draft : EvolutionChangeInput) (links updates confirmations : JsValue) :
    List (String × JsValue) :=
  [("requestId", .str draft.requestId), ("expectedRevision", .nat draft.expectedRevision),
   ("action", .str draft.action.text)] ++
    optional "targetProviderId" (draft.targetProviderId.map fun id => .str id.value) ++
    [("links", links), ("providerUpdates", updates), ("confirmations", confirmations)]

/-- A value is an array of objects with the given members. -/
def JsValue.IsArrayOf {α : Type} (fields : α → List (String × JsValue)) (value : JsValue) (records : List α) :
    Prop :=
  ∃ items, value = .arr items ∧ List.Forall₂ (fun item record => item.IsObject (fields record)) items records

/-- A value is an object that holds a draft. -/
def DraftObject (value : JsValue) (draft : EvolutionChangeInput) : Prop :=
  ∃ links updates confirmations identities limits,
    links.IsArrayOf DraftLink.fields draft.links ∧
    updates.IsArrayOf DraftProviderUpdate.fields draft.providerUpdates ∧
    identities.IsArrayOf DraftIdentity.fields draft.identities ∧
    limits.IsArrayOf DraftSharedLimit.fields draft.sharedLimits ∧
    confirmations.IsObject [("identities", identities), ("sharedLimits", limits)] ∧
    value.IsObject (draft.fields links updates confirmations)

/-- The members of a snapshot of a product. -/
def ProductSnapshot.fields (product : ProductSnapshot) : List (String × JsValue) :=
  [("revision", .nat product.revision), ("adapterType", .str product.adapterType),
   ("hubRelay", .bool product.hubRelay), ("isActive", .bool product.isActive),
   ("defaultProviderId", (product.defaultProviderId.map fun id => JsValue.str id.value).getD .null),
   ("mode", .str product.mode.text)]

/-- The members of a snapshot of a link. -/
def LinkSnapshot.fields (link : LinkSnapshot) : List (String × JsValue) :=
  [("vpsProviderId", .str link.vpsProviderId.value), ("configurationRevision", .nat link.configurationRevision),
   ("allocationPriority", .nat link.allocationPriority),
   ("acceptingNewInstances", .bool link.acceptingNewInstances)]

/-- The members of a snapshot of a provider. -/
def ProviderSnapshot.fields (provider : ProviderSnapshot) : List (String × JsValue) :=
  [("id", .str provider.id.value), ("revision", .nat provider.revision),
   ("maxInstances", .limit provider.maxInstances), ("identityStatus", .str provider.identityStatus.text),
   ("productIds", .ids provider.productIds)]

/-- A value is an object that holds a snapshot. -/
def SnapshotObject (value : JsValue) (snapshot : ChangeSnapshot) : Prop :=
  ∃ product links providers, product.IsObject snapshot.product.fields ∧
    links.IsArrayOf LinkSnapshot.fields snapshot.links ∧
    providers.IsArrayOf ProviderSnapshot.fields snapshot.providers ∧
    value.IsObject [("product", product), ("links", links), ("providers", providers)]

end Objects

section Meaning

variable (localeCompare productLe : String → String → Bool)

/-- An impact with its products in order. -/
def DraftSharedLimit.sorted (item : DraftSharedLimit) : DraftSharedLimit :=
  { item with productIds := sortOn productLe (·.value) item.productIds }

/-- The draft with its lists in order, those of providers in one and those of products in another. -/
def EvolutionChangeInput.normalized (draft : EvolutionChangeInput) : EvolutionChangeInput :=
  { draft with
    links := sortOn localeCompare (·.vpsProviderId.value) draft.links
    providerUpdates := sortOn localeCompare (·.vpsProviderId.value) draft.providerUpdates
    identities := sortOn localeCompare (·.vpsProviderId.value) draft.identities
    sharedLimits := sortOn localeCompare (·.vpsProviderId.value)
      (draft.sharedLimits.map (·.sorted productLe)) }

/-- Two accepted impacts that name the same products in any order. -/
structure DraftSharedLimit.Same (item other : DraftSharedLimit) : Prop where
  provider : item.vpsProviderId = other.vpsProviderId
  revision : item.expectedRevision = other.expectedRevision
  limit : item.maxInstances = other.maxInstances
  products : item.productIds.Perm other.productIds

/-- Two drafts that ask for the same, their lists being in any order. -/
structure EvolutionChangeInput.SameContent (draft other : EvolutionChangeInput) : Prop where
  requestId : draft.requestId = other.requestId
  revision : draft.expectedRevision = other.expectedRevision
  action : draft.action = other.action
  target : draft.targetProviderId = other.targetProviderId
  links : draft.links.Perm other.links
  providerUpdates : draft.providerUpdates.Perm other.providerUpdates
  identities : draft.identities.Perm other.identities
  sharedLimits : ∃ rearranged, draft.sharedLimits.Perm rearranged ∧
    List.Forall₂ DraftSharedLimit.Same rearranged other.sharedLimits

end Meaning

section IsObject

/-- Changing the values of members changes what a name finds. -/
theorem lookup_map_values {β γ : Type} (f : β → γ) (members : List (String × β)) (name : String) :
    (members.map fun member => (member.1, f member.2)).lookup name = (members.lookup name).map f := by
  induction members with
  | nil => rfl
  | cons member members ih =>
    obtain ⟨other, value⟩ := member
    rw [List.map_cons, List.lookup_cons, List.lookup_cons, ih]
    cases name == other with
    | true => rfl
    | false => rfl

variable {localeCompare : String → String → Bool} {value : JsValue} {fields : List (String × JsValue)}

/-- An object has the members it is said to have. -/
theorem JsValue.IsObject.get_eq {name : String} {member : JsValue} (h : value.IsObject fields)
    (hmem : (name, member) ∈ fields) : value.get name = member := by
  obtain ⟨members, hvalue, hnames, hperm⟩ := h
  have hin : (name, member) ∈ members := (List.mem_filter.mp (hperm.mem_iff.mpr hmem)).1
  rw [hvalue]
  simp only [JsValue.get, lookup_eq_some_of_mem hnames hin, Option.getD_some]

/-- Replacing a member of an object replaces it among those it is said to have. -/
theorem JsValue.IsObject.set {name : String} {old member : JsValue} {before after : List (String × JsValue)}
    (h : value.IsObject (before ++ (name, old) :: after)) (hmember : member.isDefined = true) :
    (value.set name member).IsObject (before ++ (name, member) :: after) := by
  obtain ⟨members, hvalue, hnames, hperm⟩ := h
  have hmem : (name, old) ∈ members.filter (·.2.isDefined) :=
    hperm.mem_iff.mpr (List.mem_append_right _ List.mem_cons_self)
  obtain ⟨hin, hdefined⟩ := List.mem_filter.mp hmem
  obtain ⟨first, rest, hsplit⟩ := List.append_of_mem hin
  rw [hsplit] at hnames hperm
  have hset := @setMember_of_split _ _ rest _ (not_mem_before hnames) old member
  refine ⟨first ++ (name, member) :: rest, ?_, ?_, ?_⟩
  · rw [hvalue, hsplit]
    simp only [JsValue.set, hset]
  · simpa only [List.map_append, List.map_cons] using hnames
  · have hold : ∀ member : JsValue, member.isDefined = true →
        (first ++ (name, member) :: rest).filter (·.2.isDefined) =
          first.filter (·.2.isDefined) ++ (name, member) :: rest.filter (·.2.isDefined) := by
      intro member hmember
      simp only [List.filter_append, List.filter_cons, hmember, if_true]
    rw [hold old hdefined] at hperm
    rw [hold member hmember]
    have hothers : (first.filter (·.2.isDefined) ++ rest.filter (·.2.isDefined)).Perm (before ++ after) :=
      (List.perm_middle.symm.trans (hperm.trans List.perm_middle)).cons_inv
    exact List.perm_middle.trans ((hothers.cons _).trans List.perm_middle.symm)

/-- The members an object is said to have are defined and named once each. -/
theorem JsValue.IsObject.names (h : value.IsObject fields) : (fields.map (·.1)).Nodup := by
  obtain ⟨members, -, hnames, hperm⟩ := h
  exact (hperm.map (·.1)).nodup_iff.mp (hnames.sublist (List.filter_sublist.map _))

/-- An object is defined. -/
theorem JsValue.IsObject.isDefined (h : value.IsObject fields) : value.isDefined = true := by
  obtain ⟨members, hvalue, -⟩ := h
  rw [hvalue]
  rfl

/-- The canonical form of an object with the given members. -/
def canonicalObject (localeCompare : String → String → Bool) (fields : List (String × JsValue)) : Json :=
  .obj (sortOn localeCompare (·.1) (fields.map fun member => (member.1, member.2.canonical localeCompare)))

/-- The canonical form of an object depends on its defined members alone. -/
theorem JsValue.IsObject.canonical (hlocale : IsCollation localeCompare) (h : value.IsObject fields) :
    value.canonical localeCompare = canonicalObject localeCompare fields := by
  obtain ⟨members, hvalue, hnames, hperm⟩ := h
  have hkeys := canonicalFields_names localeCompare hnames
  rw [canonicalFields_eq_map] at hkeys
  rw [hvalue]
  simp only [JsValue.canonical, canonicalObject, canonicalFields_eq_map]
  rw [sortOn_eq_of_perm hlocale hkeys (hperm.map _)]

/-- An object is well formed with the members it is said to have. -/
theorem JsValue.IsObject.wellFormed (h : value.IsObject fields)
    (hfields : ∀ member ∈ fields, member.2.WellFormed) : value.WellFormed := by
  obtain ⟨members, hvalue, hnames, hperm⟩ := h
  rw [hvalue]
  refine ⟨hnames, fieldsWellFormed_iff.mpr ?_⟩
  intro member hmember hdefined
  exact hfields member (hperm.mem_iff.mp (List.mem_filter.mpr ⟨hmember, hdefined⟩))

/-- Two canonical objects agree exactly when they have the same members, up to their order. -/
theorem canonicalObject_lookup (hlocale : IsCollation localeCompare) {others : List (String × JsValue)}
    (hnames : (fields.map (·.1)).Nodup)
    (h : canonicalObject localeCompare fields = canonicalObject localeCompare others) (name : String) :
    (fields.lookup name).map (JsValue.canonical localeCompare) =
      (others.lookup name).map (JsValue.canonical localeCompare) := by
  have hkeys : ((fields.map fun member => (member.1, member.2.canonical localeCompare)).map (·.1)).Nodup := by
    rw [List.map_map]
    exact hnames
  have hperm := (sortOn_eq_iff hlocale hkeys).mp (Json.obj.inj h)
  have hlookup := lookup_eq_of_perm hkeys hperm name
  rw [lookup_map_values, lookup_map_values] at hlookup
  exact hlookup

/-- An array is the array of its records in canonical form. -/
theorem JsValue.IsArrayOf.canonical {α : Type} {members : α → List (String × JsValue)} {records : List α}
    (hlocale : IsCollation localeCompare) (h : value.IsArrayOf members records) :
    value.canonical localeCompare =
      .arr (records.map fun record => canonicalObject localeCompare (members record)) := by
  obtain ⟨items, hvalue, hitems⟩ := h
  rw [hvalue, JsValue.canonical, canonicalList_eq_map]
  congr 1
  clear hvalue
  induction hitems with
  | nil => rfl
  | cons hitem _ ih => rw [List.map_cons, List.map_cons, hitem.canonical hlocale, ih]

/-- An array is well formed with the members of its items. -/
theorem JsValue.IsArrayOf.wellFormed {α : Type} {members : α → List (String × JsValue)} {records : List α}
    (h : value.IsArrayOf members records)
    (hmembers : ∀ record, ∀ member ∈ members record, member.2.WellFormed) : value.WellFormed := by
  obtain ⟨items, hvalue, hitems⟩ := h
  rw [hvalue]
  apply listWellFormed_iff.mpr
  clear hvalue
  induction hitems with
  | nil =>
    intro item hitem
    cases hitem
  | cons hitem _ ih => exact List.forall_mem_cons.mpr ⟨hitem.wellFormed (hmembers _), ih⟩

/-- An array is defined. -/
theorem JsValue.IsArrayOf.isDefined {α : Type} {members : α → List (String × JsValue)} {records : List α}
    (h : value.IsArrayOf members records) : value.isDefined = true := by
  obtain ⟨items, hvalue, -⟩ := h
  rw [hvalue]
  rfl

/-- An array in the order of its providers holds its records in that order. -/
theorem JsValue.IsArrayOf.byId {α : Type} {members : α → List (String × JsValue)} {records : List α}
    (h : value.IsArrayOf members records) (provider : α → Uuid)
    (hprovider : ∀ record, ("vpsProviderId", .str (provider record).value) ∈ members record) :
    (value.byId localeCompare).IsArrayOf members
      (sortOn localeCompare (fun record => (provider record).value) records) := by
  obtain ⟨items, hvalue, hitems⟩ := h
  rw [hvalue]
  refine ⟨_, rfl, forall₂_sortOn hitems ?_⟩
  intro item record hitem
  rw [hitem.get_eq (hprovider record)]
  rfl

end IsObject

section Drafts

variable {localeCompare : String → String → Bool} {value : JsValue} {draft : EvolutionChangeInput}

/-- The texts of identifiers in order are those of the identifiers in order. -/
theorem sorted_ids (ids : List Uuid) : (JsValue.ids ids).sorted = .ids (sortOn textLe (·.value) ids) := by
  unfold JsValue.ids
  rw [JsValue.sorted, @map_sortOn _ _ _ _ _ _ (fun id : Uuid => JsValue.str id.value) JsValue.text]
  intro id _
  rfl

/-- Sorting the products of an impact sorts those it names. -/
theorem sortProducts_isObject {item : JsValue} {impact : DraftSharedLimit} (h : item.IsObject impact.fields) :
    item.sortProducts.IsObject (impact.sorted textLe).fields := by
  have hids : ("productIds", .ids impact.productIds) ∈ impact.fields := by
    simp only [DraftSharedLimit.fields, List.mem_cons, true_or, or_true]
  have hset : ∀ ids : List Uuid, item.IsObject impact.fields →
      (item.set "productIds" (.ids ids)).IsObject
        ({ impact with productIds := ids } : DraftSharedLimit).fields := by
    intro ids hitem
    exact @JsValue.IsObject.set _ _ _ _ [_, _, _] [_] hitem rfl
  unfold JsValue.sortProducts
  rw [h.get_eq hids, sorted_ids]
  exact hset _ h

/-- Replacing the lists of a draft replaces them among its members. -/
theorem setLists_isObject {links updates confirmations links' updates' confirmations' : JsValue}
    (h : value.IsObject (draft.fields links updates confirmations)) (hlinks : links'.isDefined = true)
    (hupdates : updates'.isDefined = true) (hconfirmations : confirmations'.isDefined = true) :
    (((value.set "links" links').set "providerUpdates" updates').set "confirmations" confirmations').IsObject
      (draft.fields links' updates' confirmations') := by
  let others := [("requestId", JsValue.str draft.requestId), ("expectedRevision", .nat draft.expectedRevision),
      ("action", .str draft.action.text)] ++
    optional "targetProviderId" (draft.targetProviderId.map fun id => .str id.value)
  have hupdated : ∀ links updates confirmations, draft.fields links updates confirmations =
      (others ++ [("links", links)]) ++ ("providerUpdates", updates) :: [("confirmations", confirmations)] := by
    intro links updates confirmations
    rw [List.append_assoc]
    rfl
  have hconfirmed : ∀ links updates confirmations, draft.fields links updates confirmations =
      (others ++ [("links", links), ("providerUpdates", updates)]) ++ ("confirmations", confirmations) :: [] := by
    intro links updates confirmations
    rw [List.append_assoc]
    rfl
  have hfirst : (value.set "links" links').IsObject (draft.fields links' updates confirmations) :=
    @JsValue.IsObject.set _ _ _ _ others [_, _] h hlinks
  rw [hupdated] at hfirst
  have hsecond := hfirst.set hupdates
  rw [← hupdated, hconfirmed] at hsecond
  have hthird := hsecond.set hconfirmations
  rw [← hconfirmed] at hthird
  exact hthird

/-- Putting the lists of a draft in order gives an object that holds the draft with its lists in order. -/
theorem normalizeDraft_object (h : DraftObject value draft) :
    DraftObject (value.normalizeDraft localeCompare) (draft.normalized localeCompare textLe) := by
  obtain ⟨links, updates, confirmations, identities, limits, hlinks, hupdates, hidentities, hlimits,
    hconfirmations, hvalue⟩ := h
  have hgetLinks : value.get "links" = links := hvalue.get_eq (by simp [EvolutionChangeInput.fields])
  have hgetUpdates : value.get "providerUpdates" = updates :=
    hvalue.get_eq (by simp [EvolutionChangeInput.fields])
  have hgetConfirmations : value.get "confirmations" = confirmations :=
    hvalue.get_eq (by simp [EvolutionChangeInput.fields])
  have hgetIdentities : confirmations.get "identities" = identities :=
    hconfirmations.get_eq List.mem_cons_self
  have hgetLimits : confirmations.get "sharedLimits" = limits :=
    hconfirmations.get_eq (List.mem_cons_of_mem _ List.mem_cons_self)
  have hsortedLimits : (limits.mapItems JsValue.sortProducts).IsArrayOf DraftSharedLimit.fields
      (draft.sharedLimits.map (·.sorted textLe)) := by
    obtain ⟨items, hitems, hall⟩ := hlimits
    rw [hitems]
    refine ⟨_, rfl, ?_⟩
    rw [List.forall₂_map_left_iff, List.forall₂_map_right_iff]
    exact hall.imp fun item impact hitem => sortProducts_isObject hitem
  have hlinks' := @JsValue.IsArrayOf.byId localeCompare _ _ _ _ hlinks DraftLink.vpsProviderId
    (fun _ => List.mem_cons_self)
  have hupdates' := @JsValue.IsArrayOf.byId localeCompare _ _ _ _ hupdates DraftProviderUpdate.vpsProviderId
    (fun _ => List.mem_cons_self)
  have hidentities' := @JsValue.IsArrayOf.byId localeCompare _ _ _ _ hidentities DraftIdentity.vpsProviderId
    (fun _ => List.mem_cons_self)
  have hlimits' := @JsValue.IsArrayOf.byId localeCompare _ _ _ _ hsortedLimits DraftSharedLimit.vpsProviderId
    (fun _ => List.mem_cons_self)
  refine ⟨_, _, .obj [("identities", identities.byId localeCompare),
      ("sharedLimits", (limits.mapItems JsValue.sortProducts).byId localeCompare)],
    _, _, hlinks', hupdates', hidentities', hlimits', ?_, ?_⟩
  · have hnames : ["identities", "sharedLimits"].Nodup := by decide
    refine ⟨_, rfl, hnames, ?_⟩
    simp only [List.filter_cons, hidentities'.isDefined, hlimits'.isDefined, if_true, List.filter_nil]
    exact List.Perm.refl _
  · unfold JsValue.normalizeDraft
    rw [hgetLinks, hgetUpdates, hgetConfirmations, hgetIdentities, hgetLimits]
    exact setLists_isObject hvalue hlinks'.isDefined hupdates'.isDefined rfl

/-- A number is well formed. -/
theorem nat_wellFormed (n : Nat) : (JsValue.nat n).WellFormed := isNumeral_repr n

/-- So is a limit. -/
theorem limit_wellFormed (maxInstances : Option Nat) : (JsValue.limit maxInstances).WellFormed := by
  cases maxInstances with
  | none => trivial
  | some n => exact nat_wellFormed n

/-- And a list of identifiers. -/
theorem ids_wellFormed (ids : List Uuid) : (JsValue.ids ids).WellFormed := by
  apply listWellFormed_iff.mpr
  intro item hitem
  obtain ⟨id, -, rfl⟩ := List.mem_map.mp hitem
  trivial

/-- A member that may be absent is well formed if its value is. -/
theorem optional_wellFormed {name : String} {found : Option JsValue} (h : ∀ value ∈ found, value.WellFormed) :
    ∀ member ∈ optional name found, member.2.WellFormed := by
  intro member hmember
  cases found with
  | none => cases hmember
  | some value =>
    rw [List.mem_singleton.mp hmember]
    exact h value rfl

/-- The members of a link of a draft are well formed. -/
theorem DraftLink.fields_wellFormed (link : DraftLink) : ∀ member ∈ link.fields, member.2.WellFormed := by
  unfold DraftLink.fields
  simp only [List.forall_mem_append]
  refine ⟨⟨⟨List.forall_mem_singleton.mpr trivial, optional_wellFormed ?_⟩, optional_wellFormed ?_⟩,
    optional_wellFormed ?_⟩
  · intro value hvalue
    obtain ⟨n, -, rfl⟩ := Option.mem_map.mp hvalue
    exact nat_wellFormed n
  · intro value hvalue
    obtain ⟨n, -, rfl⟩ := Option.mem_map.mp hvalue
    exact nat_wellFormed n
  · intro value hvalue
    obtain ⟨b, -, rfl⟩ := Option.mem_map.mp hvalue
    trivial

/-- So are those of a limit that a draft sets. -/
theorem DraftProviderUpdate.fields_wellFormed (update : DraftProviderUpdate) :
    ∀ member ∈ update.fields, member.2.WellFormed := by
  simp only [DraftProviderUpdate.fields, List.forall_mem_cons, List.not_mem_nil, false_imp_iff, implies_true, and_true]
  exact ⟨trivial, nat_wellFormed _, limit_wellFormed _⟩

/-- And those of an identity that it confirms. -/
theorem DraftIdentity.fields_wellFormed (identity : DraftIdentity) :
    ∀ member ∈ identity.fields, member.2.WellFormed := by
  simp only [DraftIdentity.fields, List.forall_mem_cons, List.not_mem_nil, false_imp_iff, implies_true, and_true]
  exact ⟨trivial, nat_wellFormed _, trivial⟩

/-- And those of an impact that it accepts. -/
theorem DraftSharedLimit.fields_wellFormed (impact : DraftSharedLimit) :
    ∀ member ∈ impact.fields, member.2.WellFormed := by
  simp only [DraftSharedLimit.fields, List.forall_mem_cons, List.not_mem_nil, false_imp_iff, implies_true, and_true]
  exact ⟨trivial, nat_wellFormed _, limit_wellFormed _, ids_wellFormed _, trivial⟩

/-- An object that holds a draft is well formed. -/
theorem DraftObject.wellFormed (h : DraftObject value draft) : value.WellFormed := by
  obtain ⟨links, updates, confirmations, identities, limits, hlinks, hupdates, hidentities, hlimits,
    hconfirmations, hvalue⟩ := h
  have hchecked : confirmations.WellFormed := by
    apply hconfirmations.wellFormed
    simp only [List.forall_mem_cons, List.not_mem_nil, false_imp_iff, implies_true, and_true]
    exact ⟨hidentities.wellFormed DraftIdentity.fields_wellFormed,
      hlimits.wellFormed DraftSharedLimit.fields_wellFormed⟩
  apply hvalue.wellFormed
  unfold EvolutionChangeInput.fields
  simp only [List.forall_mem_append, List.forall_mem_cons, List.not_mem_nil, false_imp_iff, implies_true, and_true]
  refine ⟨⟨⟨trivial, nat_wellFormed _, trivial⟩, optional_wellFormed ?_⟩,
    hlinks.wellFormed DraftLink.fields_wellFormed, hupdates.wellFormed DraftProviderUpdate.fields_wellFormed,
    hchecked⟩
  intro target htarget
  obtain ⟨id, -, rfl⟩ := Option.mem_map.mp htarget
  trivial

/-- An object that holds a snapshot is well formed. -/
theorem SnapshotObject.wellFormed {snapshot : ChangeSnapshot} (h : SnapshotObject value snapshot) :
    value.WellFormed := by
  obtain ⟨product, links, providers, hproduct, hlinks, hproviders, hvalue⟩ := h
  apply hvalue.wellFormed
  simp only [List.forall_mem_cons, List.not_mem_nil, false_imp_iff, implies_true, and_true]
  refine ⟨hproduct.wellFormed ?_, hlinks.wellFormed fun link => ?_, hproviders.wellFormed fun provider => ?_⟩
  · simp only [ProductSnapshot.fields, List.forall_mem_cons, List.not_mem_nil, false_imp_iff, implies_true, and_true]
    refine ⟨nat_wellFormed _, trivial, trivial, trivial, ?_, trivial⟩
    cases snapshot.product.defaultProviderId with
    | none => trivial
    | some id => trivial
  · simp only [LinkSnapshot.fields, List.forall_mem_cons, List.not_mem_nil, false_imp_iff, implies_true, and_true]
    exact ⟨trivial, nat_wellFormed _, nat_wellFormed _, trivial⟩
  · simp only [ProviderSnapshot.fields, List.forall_mem_cons, List.not_mem_nil, false_imp_iff, implies_true, and_true]
    exact ⟨trivial, nat_wellFormed _, limit_wellFormed _, trivial, ids_wellFormed _⟩

/-- A member that may be absent is found under its name. -/
theorem lookup_optional (name : String) (found : Option JsValue) (k : String) :
    (optional name found).lookup k = if k = name then found else none := by
  cases found with
  | none =>
    simp only [optional, Option.map_none, Option.toList_none, List.lookup_nil, ite_self]
  | some value =>
    simp only [optional, Option.map_some, Option.toList_some, List.lookup_cons, List.lookup_nil]
    by_cases h : k = name
    · simp only [h, BEq.rfl, if_true]
    · simp only [beq_eq_false_iff_ne.mpr h, if_neg h]

/-- A member that may be absent has its own name. -/
theorem optional_names (name : String) (found : Option JsValue) :
    List.Sublist ((optional name found).map (·.1)) [name] := by
  cases found with
  | none => exact List.nil_sublist _
  | some value => exact List.Sublist.refl _

/-- Numbers are told apart by how they print. -/
theorem repr_inj {m n : Nat} (h : m.repr = n.repr) : m = n := by
  have hdigits := congrArg (fun text => Nat.ofDigitChars 10 text.toList 0) h
  simpa only [Nat.toList_repr, Nat.ofDigitChars_ten_toDigits] using hdigits

/-- So are they by their canonical form. -/
theorem canonical_nat_inj {m n : Nat}
    (h : (JsValue.nat m).canonical localeCompare = (JsValue.nat n).canonical localeCompare) : m = n :=
  repr_inj (Json.number.inj h)

/-- And limits. -/
theorem canonical_limit_inj {m n : Option Nat}
    (h : (JsValue.limit m).canonical localeCompare = (JsValue.limit n).canonical localeCompare) : m = n := by
  cases m with
  | none =>
    cases n with
    | none => rfl
    | some b => cases h
  | some a =>
    cases n with
    | none => cases h
    | some b => exact congrArg some (canonical_nat_inj h)

/-- And identifiers. -/
theorem canonical_id_inj {a b : Uuid}
    (h : (JsValue.str a.value).canonical localeCompare = (JsValue.str b.value).canonical localeCompare) : a = b := by
  have hvalue : a.value = b.value := Json.str.inj h
  cases a
  cases b
  cases hvalue
  rfl

/-- And lists of identifiers. -/
theorem canonical_ids_inj {ids others : List Uuid}
    (h : (JsValue.ids ids).canonical localeCompare = (JsValue.ids others).canonical localeCompare) :
    ids = others := by
  have hlists := Json.arr.inj h
  rw [canonicalList_eq_map, canonicalList_eq_map, List.map_map, List.map_map] at hlists
  exact List.map_injective_iff.mpr (fun a b hab => canonical_id_inj hab) hlists

/-- The names of the members of a link of a draft. -/
theorem DraftLink.fields_names (link : DraftLink) : (link.fields.map (·.1)).Nodup := by
  have hnames : ["vpsProviderId", "expectedRevision", "allocationPriority", "acceptingNewInstances"].Nodup := by
    decide
  refine hnames.sublist ?_
  unfold DraftLink.fields
  rw [List.map_append, List.map_append, List.map_append]
  exact (((List.Sublist.refl ["vpsProviderId"]).append (optional_names _ _)).append (optional_names _ _)).append
    (optional_names _ _)

/-- Links of drafts are told apart by their canonical form. -/
theorem DraftLink.fields_inj (hlocale : IsCollation localeCompare) {link other : DraftLink}
    (h : canonicalObject localeCompare link.fields = canonicalObject localeCompare other.fields) :
    link = other := by
  have hfound := canonicalObject_lookup hlocale link.fields_names h
  have hprovider := hfound "vpsProviderId"
  have hrevision := hfound "expectedRevision"
  have hpriority := hfound "allocationPriority"
  have haccepting := hfound "acceptingNewInstances"
  simp only [DraftLink.fields, List.cons_append, List.nil_append, List.append_assoc, List.lookup_cons_self,
    Option.map_some, Option.some.injEq, List.lookup_cons, String.reduceBEq, List.lookup_append, lookup_optional,
    ↓reduceIte, String.reduceEq, Option.or_self, Option.or_none, Option.map_map, Option.none_or]
    at hprovider hrevision hpriority haccepting
  have hnat : Function.Injective (JsValue.canonical localeCompare ∘ JsValue.nat) :=
    fun m n hmn => canonical_nat_inj hmn
  have hbool : Function.Injective (JsValue.canonical localeCompare ∘ JsValue.bool) :=
    fun a b hab => Json.bool.inj hab
  have hrevision' := Option.map_injective hnat hrevision
  have hpriority' := Option.map_injective hnat hpriority
  have haccepting' := Option.map_injective hbool haccepting
  have hprovider' := canonical_id_inj hprovider
  cases link
  cases other
  cases hprovider'
  cases hrevision'
  cases hpriority'
  cases haccepting'
  rfl

/-- So are limits that drafts set. -/
theorem DraftProviderUpdate.fields_inj (hlocale : IsCollation localeCompare) {update other : DraftProviderUpdate}
    (h : canonicalObject localeCompare update.fields = canonicalObject localeCompare other.fields) :
    update = other := by
  have hnames : ["vpsProviderId", "expectedRevision", "maxInstances"].Nodup := by decide
  have hfound := @canonicalObject_lookup _ update.fields hlocale _ hnames h
  have hprovider := hfound "vpsProviderId"
  have hrevision := hfound "expectedRevision"
  have hlimit := hfound "maxInstances"
  simp only [DraftProviderUpdate.fields, List.lookup_cons_self, Option.map_some, Option.some.injEq,
    List.lookup_cons, String.reduceBEq] at hprovider hrevision hlimit
  have hprovider' := canonical_id_inj hprovider
  have hrevision' := canonical_nat_inj hrevision
  have hlimit' := canonical_limit_inj hlimit
  cases update
  cases other
  cases hprovider'
  cases hrevision'
  cases hlimit'
  rfl

/-- And identities that they confirm. -/
theorem DraftIdentity.fields_inj (hlocale : IsCollation localeCompare) {identity other : DraftIdentity}
    (h : canonicalObject localeCompare identity.fields = canonicalObject localeCompare other.fields) :
    identity = other := by
  have hnames : ["vpsProviderId", "expectedRevision", "confirmed"].Nodup := by decide
  have hfound := @canonicalObject_lookup _ identity.fields hlocale _ hnames h
  have hprovider := hfound "vpsProviderId"
  have hrevision := hfound "expectedRevision"
  simp only [DraftIdentity.fields, List.lookup_cons_self, Option.map_some, Option.some.injEq,
    List.lookup_cons, String.reduceBEq] at hprovider hrevision
  have hprovider' := canonical_id_inj hprovider
  have hrevision' := canonical_nat_inj hrevision
  cases identity
  cases other
  cases hprovider'
  cases hrevision'
  rfl

/-- And impacts that they accept. -/
theorem DraftSharedLimit.fields_inj (hlocale : IsCollation localeCompare) {impact other : DraftSharedLimit}
    (h : canonicalObject localeCompare impact.fields = canonicalObject localeCompare other.fields) :
    impact = other := by
  have hnames : ["vpsProviderId", "expectedRevision", "maxInstances", "productIds", "confirmed"].Nodup := by decide
  have hfound := @canonicalObject_lookup _ impact.fields hlocale _ hnames h
  have hprovider := hfound "vpsProviderId"
  have hrevision := hfound "expectedRevision"
  have hlimit := hfound "maxInstances"
  have hproducts := hfound "productIds"
  simp only [DraftSharedLimit.fields, List.lookup_cons_self, Option.map_some, Option.some.injEq,
    List.lookup_cons, String.reduceBEq] at hprovider hrevision hlimit hproducts
  have hprovider' := canonical_id_inj hprovider
  have hrevision' := canonical_nat_inj hrevision
  have hlimit' := canonical_limit_inj hlimit
  have hproducts' := canonical_ids_inj hproducts
  cases impact
  cases other
  cases hprovider'
  cases hrevision'
  cases hlimit'
  cases hproducts'
  rfl

/-- Arrays of records agree when their records are told apart by their canonical form. -/
theorem canonical_array_inj {α : Type} {members : α → List (String × JsValue)} {records others : List α}
    {first second : JsValue} (hlocale : IsCollation localeCompare)
    (hinj : ∀ a b, canonicalObject localeCompare (members a) = canonicalObject localeCompare (members b) → a = b)
    (hfirst : first.IsArrayOf members records) (hsecond : second.IsArrayOf members others)
    (h : first.canonical localeCompare = second.canonical localeCompare) : records = others := by
  rw [hfirst.canonical hlocale, hsecond.canonical hlocale] at h
  exact List.map_injective_iff.mpr hinj (Json.arr.inj h)

/-- The names of the members of a draft. -/
theorem EvolutionChangeInput.fields_names (draft : EvolutionChangeInput) (links updates confirmations : JsValue) :
    ((draft.fields links updates confirmations).map (·.1)).Nodup := by
  have hnames : ["requestId", "expectedRevision", "action", "targetProviderId", "links", "providerUpdates",
    "confirmations"].Nodup := by decide
  refine hnames.sublist ?_
  unfold EvolutionChangeInput.fields
  rw [List.map_append, List.map_append]
  exact ((List.Sublist.refl ["requestId", "expectedRevision", "action"]).append (optional_names _ _)).append
    (List.Sublist.refl _)

/-- Two objects that hold drafts have one canonical form exactly when they hold the same draft. -/
theorem DraftObject.canonical_inj (hlocale : IsCollation localeCompare) {other : JsValue}
    {draft' : EvolutionChangeInput} (h : DraftObject value draft) (h' : DraftObject other draft') :
    value.canonical localeCompare = other.canonical localeCompare ↔ draft = draft' := by
  obtain ⟨links, updates, confirmations, identities, limits, hlinks, hupdates, hidentities, hlimits,
    hconfirmations, hvalue⟩ := h
  obtain ⟨links', updates', confirmations', identities', limits', hlinks', hupdates', hidentities', hlimits',
    hconfirmations', hother⟩ := h'
  rw [hvalue.canonical hlocale, hother.canonical hlocale]
  constructor
  · intro hsame
    have hfound := canonicalObject_lookup hlocale (draft.fields_names links updates confirmations) hsame
    have hrequest := hfound "requestId"
    have hrevision := hfound "expectedRevision"
    have haction := hfound "action"
    have htarget := hfound "targetProviderId"
    have hlinked := hfound "links"
    have hupdated := hfound "providerUpdates"
    have hconfirmed := hfound "confirmations"
    simp only [EvolutionChangeInput.fields, List.cons_append, List.nil_append, List.lookup_cons_self,
      List.lookup_nil, Option.map_some, Option.some.injEq, List.lookup_cons, String.reduceBEq,
      List.lookup_append, lookup_optional, ↓reduceIte, String.reduceEq, Option.or_none, Option.map_map,
      Option.none_or] at hrequest hrevision haction htarget hlinked hupdated hconfirmed
    rw [hconfirmations.canonical hlocale, hconfirmations'.canonical hlocale] at hconfirmed
    have hchecked := @canonicalObject_lookup _
      [("identities", identities), ("sharedLimits", limits)] hlocale _
      (by decide : ["identities", "sharedLimits"].Nodup) hconfirmed
    have hidentified := hchecked "identities"
    have hlimited := hchecked "sharedLimits"
    simp only [List.lookup_cons_self, Option.map_some, Option.some.injEq, List.lookup_cons, String.reduceBEq]
      at hidentified hlimited
    have hrequest' : draft.requestId = draft'.requestId := Json.str.inj hrequest
    have hrevision' := canonical_nat_inj hrevision
    have haction' : draft.action = draft'.action := by
      have htext : draft.action.text = draft'.action.text := Json.str.inj haction
      revert htext
      cases draft.action <;> cases draft'.action <;> simp [ChangeAction.text]
    have htarget' : draft.targetProviderId = draft'.targetProviderId :=
      Option.map_injective (fun a b hab => canonical_id_inj hab) htarget
    have hlinks'' := canonical_array_inj hlocale (fun _ _ => DraftLink.fields_inj hlocale) hlinks hlinks' hlinked
    have hupdates'' := canonical_array_inj hlocale (fun _ _ => DraftProviderUpdate.fields_inj hlocale) hupdates
      hupdates' hupdated
    have hidentities'' := canonical_array_inj hlocale (fun _ _ => DraftIdentity.fields_inj hlocale) hidentities
      hidentities' hidentified
    have hlimits'' := canonical_array_inj hlocale (fun _ _ => DraftSharedLimit.fields_inj hlocale) hlimits
      hlimits' hlimited
    cases draft
    cases draft'
    simp only at hrequest' hrevision' haction' htarget' hlinks'' hupdates'' hidentities'' hlimits''
    rw [hrequest', hrevision', haction', htarget', hlinks'', hupdates'', hidentities'', hlimits'']
  · intro hsame
    rw [← hsame] at hlinks' hupdates' hidentities' hlimits' ⊢
    have hconfirmed : confirmations.canonical localeCompare = confirmations'.canonical localeCompare := by
      rw [hconfirmations.canonical hlocale, hconfirmations'.canonical hlocale]
      simp only [canonicalObject, List.map_cons, List.map_nil, hidentities.canonical hlocale,
        hidentities'.canonical hlocale, hlimits.canonical hlocale, hlimits'.canonical hlocale]
    simp only [canonicalObject, EvolutionChangeInput.fields, List.map_append, List.map_cons, List.map_nil,
      hlinks.canonical hlocale, hlinks'.canonical hlocale, hupdates.canonical hlocale,
      hupdates'.canonical hlocale, hconfirmed]

/-- Snapshots of products are told apart by their canonical form. -/
theorem ProductSnapshot.fields_inj (hlocale : IsCollation localeCompare) {product other : ProductSnapshot}
    (h : canonicalObject localeCompare product.fields = canonicalObject localeCompare other.fields) :
    product = other := by
  have hnames : ["revision", "adapterType", "hubRelay", "isActive", "defaultProviderId", "mode"].Nodup := by
    decide
  have hfound := @canonicalObject_lookup _ product.fields hlocale _ hnames h
  have hrevision := hfound "revision"
  have hadapter := hfound "adapterType"
  have hrelay := hfound "hubRelay"
  have hactive := hfound "isActive"
  have hdefault := hfound "defaultProviderId"
  have hmode := hfound "mode"
  simp only [ProductSnapshot.fields, List.lookup_cons_self, Option.map_some, Option.some.injEq, List.lookup_cons,
    String.reduceBEq] at hrevision hadapter hrelay hactive hdefault hmode
  have hrevision' := canonical_nat_inj hrevision
  have hadapter' : product.adapterType = other.adapterType := Json.str.inj hadapter
  have hrelay' : product.hubRelay = other.hubRelay := Json.bool.inj hrelay
  have hactive' : product.isActive = other.isActive := Json.bool.inj hactive
  have hdefault' : product.defaultProviderId = other.defaultProviderId := by
    revert hdefault
    cases product.defaultProviderId with
    | none =>
      cases other.defaultProviderId with
      | none => exact fun _ => rfl
      | some b =>
        intro hdefault
        cases hdefault
    | some a =>
      cases other.defaultProviderId with
      | none =>
        intro hdefault
        cases hdefault
      | some b => exact fun hdefault => congrArg some (canonical_id_inj hdefault)
  have hmode' : product.mode = other.mode := by
    have htext : product.mode.text = other.mode.text := Json.str.inj hmode
    revert htext
    cases product.mode <;> cases other.mode <;> simp [AllocationMode.text]
  cases product
  cases other
  simp only at hrevision' hadapter' hrelay' hactive' hdefault' hmode'
  rw [hrevision', hadapter', hrelay', hactive', hdefault', hmode']

/-- So are snapshots of links. -/
theorem LinkSnapshot.fields_inj (hlocale : IsCollation localeCompare) {link other : LinkSnapshot}
    (h : canonicalObject localeCompare link.fields = canonicalObject localeCompare other.fields) :
    link = other := by
  have hnames : ["vpsProviderId", "configurationRevision", "allocationPriority", "acceptingNewInstances"].Nodup := by
    decide
  have hfound := @canonicalObject_lookup _ link.fields hlocale _ hnames h
  have hprovider := hfound "vpsProviderId"
  have hrevision := hfound "configurationRevision"
  have hpriority := hfound "allocationPriority"
  have haccepting := hfound "acceptingNewInstances"
  simp only [LinkSnapshot.fields, List.lookup_cons_self, Option.map_some, Option.some.injEq, List.lookup_cons,
    String.reduceBEq] at hprovider hrevision hpriority haccepting
  have hprovider' := canonical_id_inj hprovider
  have hrevision' := canonical_nat_inj hrevision
  have hpriority' := canonical_nat_inj hpriority
  have haccepting' : link.acceptingNewInstances = other.acceptingNewInstances := Json.bool.inj haccepting
  cases link
  cases other
  simp only at hprovider' hrevision' hpriority' haccepting'
  rw [hprovider', hrevision', hpriority', haccepting']

/-- And snapshots of providers. -/
theorem ProviderSnapshot.fields_inj (hlocale : IsCollation localeCompare) {provider other : ProviderSnapshot}
    (h : canonicalObject localeCompare provider.fields = canonicalObject localeCompare other.fields) :
    provider = other := by
  have hnames : ["id", "revision", "maxInstances", "identityStatus", "productIds"].Nodup := by decide
  have hfound := @canonicalObject_lookup _ provider.fields hlocale _ hnames h
  have hid := hfound "id"
  have hrevision := hfound "revision"
  have hlimit := hfound "maxInstances"
  have hstatus := hfound "identityStatus"
  have hproducts := hfound "productIds"
  simp only [ProviderSnapshot.fields, List.lookup_cons_self, Option.map_some, Option.some.injEq, List.lookup_cons,
    String.reduceBEq] at hid hrevision hlimit hstatus hproducts
  have hid' := canonical_id_inj hid
  have hrevision' := canonical_nat_inj hrevision
  have hlimit' := canonical_limit_inj hlimit
  have hproducts' := canonical_ids_inj hproducts
  have hstatus' : provider.identityStatus = other.identityStatus := by
    have htext : provider.identityStatus.text = other.identityStatus.text := Json.str.inj hstatus
    revert htext
    cases provider.identityStatus <;> cases other.identityStatus <;> simp [IdentityStatus.text]
  cases provider
  cases other
  simp only at hid' hrevision' hlimit' hproducts' hstatus'
  rw [hid', hrevision', hlimit', hproducts', hstatus']

/-- Two objects that hold snapshots have one canonical form exactly when they hold the same snapshot. -/
theorem SnapshotObject.canonical_inj (hlocale : IsCollation localeCompare) {other : JsValue}
    {snapshot snapshot' : ChangeSnapshot} (h : SnapshotObject value snapshot)
    (h' : SnapshotObject other snapshot') :
    value.canonical localeCompare = other.canonical localeCompare ↔ snapshot = snapshot' := by
  obtain ⟨product, links, providers, hproduct, hlinks, hproviders, hvalue⟩ := h
  obtain ⟨product', links', providers', hproduct', hlinks', hproviders', hother⟩ := h'
  rw [hvalue.canonical hlocale, hother.canonical hlocale]
  constructor
  · intro hsame
    have hfound := @canonicalObject_lookup _
      [("product", product), ("links", links), ("providers", providers)] hlocale _
      (by decide : ["product", "links", "providers"].Nodup) hsame
    have hproducts := hfound "product"
    have hlinked := hfound "links"
    have hprovided := hfound "providers"
    simp only [List.lookup_cons_self, Option.map_some, Option.some.injEq, List.lookup_cons, String.reduceBEq]
      at hproducts hlinked hprovided
    rw [hproduct.canonical hlocale, hproduct'.canonical hlocale] at hproducts
    have hproduct'' := ProductSnapshot.fields_inj hlocale hproducts
    have hlinks'' := canonical_array_inj hlocale (fun _ _ => LinkSnapshot.fields_inj hlocale) hlinks hlinks' hlinked
    have hproviders'' := canonical_array_inj hlocale (fun _ _ => ProviderSnapshot.fields_inj hlocale) hproviders
      hproviders' hprovided
    cases snapshot
    cases snapshot'
    simp only at hproduct'' hlinks'' hproviders''
    rw [hproduct'', hlinks'', hproviders'']
  · intro hsame
    rw [← hsame] at hproduct' hlinks' hproviders'
    simp only [canonicalObject, List.map_cons, List.map_nil, hproduct.canonical hlocale,
      hproduct'.canonical hlocale, hlinks.canonical hlocale, hlinks'.canonical hlocale,
      hproviders.canonical hlocale, hproviders'.canonical hlocale]

end Drafts

section Content

variable {localeCompare productLe : String → String → Bool} {draft other : EvolutionChangeInput}

/-- Providers are told apart by the text of their id, so lists of them are too. -/
theorem nodup_values {ids : List Uuid} (h : ids.Nodup) : (ids.map (·.value)).Nodup := by
  refine h.map ?_
  intro a b hab
  cases a
  cases b
  cases hab
  rfl

/-- Records of different providers sort to one list exactly when they are the same records. -/
theorem sortById_eq_iff {α : Type} (hlocale : IsCollation localeCompare) {provider : α → Uuid}
    {records others : List α} (h : (records.map provider).Nodup) :
    sortOn localeCompare (fun record => (provider record).value) records =
        sortOn localeCompare (fun record => (provider record).value) others ↔ records.Perm others := by
  apply sortOn_eq_iff hlocale
  have hvalues := nodup_values h
  rwa [List.map_map] at hvalues

/-- Two impacts with their products in order agree exactly when they accept the same. -/
theorem DraftSharedLimit.sorted_eq_iff (horder : IsCollation productLe) {item other : DraftSharedLimit}
    (h : item.productIds.Nodup) : item.sorted productLe = other.sorted productLe ↔ item.Same other := by
  have hproducts := @sortOn_eq_iff _ _ _ (fun id : Uuid => id.value) _ other.productIds
    horder (nodup_values h)
  unfold DraftSharedLimit.sorted
  rw [DraftSharedLimit.mk.injEq, hproducts]
  constructor
  · intro hsame
    exact ⟨hsame.1, hsame.2.1, hsame.2.2.1, hsame.2.2.2⟩
  · intro hsame
    exact ⟨hsame.provider, hsame.revision, hsame.limit, hsame.products⟩

/-- Lists of impacts sort to one list exactly when one accepts what the other does, in any order. -/
theorem sharedLimits_perm_iff (horder : IsCollation productLe) {limits others : List DraftSharedLimit}
    (h : ∀ item ∈ limits, item.productIds.Nodup) :
    (limits.map (·.sorted productLe)).Perm (others.map (·.sorted productLe)) ↔
      ∃ rearranged, limits.Perm rearranged ∧ List.Forall₂ DraftSharedLimit.Same rearranged others := by
  have hsame : ∀ rearranged, limits.Perm rearranged →
      (rearranged.map (·.sorted productLe) = others.map (·.sorted productLe) ↔
        List.Forall₂ DraftSharedLimit.Same rearranged others) := by
    intro rearranged hperm
    have hnodup : ∀ item ∈ rearranged, item.productIds.Nodup := fun item hitem =>
      h item (hperm.mem_iff.mpr hitem)
    clear hperm h
    induction rearranged generalizing others with
    | nil =>
      cases others with
      | nil => simp
      | cons other others => simp
    | cons item rearranged ih =>
      cases others with
      | nil => simp
      | cons other others =>
        have hrest := @ih others fun item hitem => hnodup item (List.mem_cons_of_mem _ hitem)
        rw [List.map_cons, List.map_cons, List.cons.injEq, List.forall₂_cons]
        exact and_congr (DraftSharedLimit.sorted_eq_iff horder (hnodup item List.mem_cons_self)) hrest
  constructor
  · intro hperm
    have hexists := congrFun (congrFun (List.eq_map_comp_perm (DraftSharedLimit.sorted productLe))
      (others.map (·.sorted productLe))) limits
    obtain ⟨rearranged, heq, hrearranged⟩ := hexists.mpr hperm.symm
    exact ⟨rearranged, hrearranged.symm, (hsame rearranged hrearranged.symm).mp heq.symm⟩
  · intro hrearranged
    obtain ⟨rearranged, hperm, hall⟩ := hrearranged
    rw [← (hsame rearranged hperm).mpr hall]
    exact hperm.map _

/-- An accepted draft names each provider once in a list, and each product once in an impact. -/
theorem nodup_of_accepted (h : draft.accepted = true) :
    (draft.links.map (·.vpsProviderId)).Nodup ∧ (draft.providerUpdates.map (·.vpsProviderId)).Nodup ∧
      (draft.identities.map (·.vpsProviderId)).Nodup ∧ (draft.sharedLimits.map (·.vpsProviderId)).Nodup ∧
      ∀ item ∈ draft.sharedLimits, item.productIds.Nodup := by
  simp only [EvolutionChangeInput.accepted, EvolutionChangeInput.refined, Bool.and_eq_true, decide_eq_true_eq,
    List.all_eq_true] at h
  obtain ⟨-, ⟨⟨⟨⟨-, hlinks⟩, hupdates⟩, hidentities⟩, hlimits⟩, hproducts⟩ := h
  exact ⟨hlinks, hupdates, hidentities, hlimits, hproducts⟩

/-- An accepted draft with its lists in order is another one with its lists in order exactly when both ask for
the same. -/
theorem normalized_eq_iff (hlocale : IsCollation localeCompare) (horder : IsCollation productLe)
    (h : draft.accepted = true) :
    draft.normalized localeCompare productLe = other.normalized localeCompare productLe ↔
      draft.SameContent other := by
  obtain ⟨hlinks, hupdates, hidentities, hlimits, hproducts⟩ := nodup_of_accepted h
  have hsorted : ((draft.sharedLimits.map (·.sorted productLe)).map (·.vpsProviderId)).Nodup := by
    rw [List.map_map]
    exact hlimits
  have hlinked := @sortById_eq_iff _ _ hlocale _ _ other.links hlinks
  have hupdated := @sortById_eq_iff _ _ hlocale _ _ other.providerUpdates hupdates
  have hidentified := @sortById_eq_iff _ _ hlocale _ _ other.identities hidentities
  have hlimited := (@sortById_eq_iff _ _ hlocale _ _ (other.sharedLimits.map (·.sorted productLe)) hsorted).trans
    (sharedLimits_perm_iff horder hproducts)
  unfold EvolutionChangeInput.normalized
  rw [EvolutionChangeInput.mk.injEq, hlinked, hupdated, hidentified, hlimited]
  constructor
  · intro hsame
    obtain ⟨hrequest, hrevision, haction, htarget, hrest⟩ := hsame
    exact ⟨hrequest, hrevision, haction, htarget, hrest.1, hrest.2.1, hrest.2.2.1, hrest.2.2.2⟩
  · intro hsame
    exact ⟨hsame.requestId, hsame.revision, hsame.action, hsame.target, hsame.links, hsame.providerUpdates,
      hsame.identities, hsame.sharedLimits⟩

/-- The order of characters compares any two texts. -/
theorem isCollation_le : IsCollation fun a b : String => decide (a ≤ b) where
  total a b := by simpa only [decide_eq_true_eq] using String.le_total a b
  trans a b c := by
    intro hab hbc
    exact decide_eq_true (String.le_trans (of_decide_eq_true hab) (of_decide_eq_true hbc))
  antisymm a b := by
    intro hab hba
    exact String.le_antisymm (of_decide_eq_true hab) (of_decide_eq_true hba)

/-- Drafts that are kept in the order of the characters are the same exactly when they ask for the same. -/
theorem normalizeDraft_eq_iff (h : draft.accepted = true) :
    ConnectHub.normalizeDraft draft = ConnectHub.normalizeDraft other ↔ draft.SameContent other := by
  have hnormal : ∀ draft, ConnectHub.normalizeDraft draft =
      draft.normalized (fun a b => decide (a ≤ b)) fun a b => decide (a ≤ b) := by
    intro draft
    simp only [ConnectHub.normalizeDraft, EvolutionChangeInput.normalized, DraftSharedLimit.sorted, sortOn,
      decide_eq_true_eq]
  rw [hnormal, hnormal]
  exact normalized_eq_iff isCollation_le isCollation_le h

end Content

/-- Two objects that hold accepted drafts have one canonical text, once their lists are in order, exactly when
the drafts ask for the same. -/
theorem canonicalJson_normalizeDraft_iff {localeCompare : String → String → Bool}
    (hlocale : IsCollation localeCompare) {value other : JsValue} {draft draft' : EvolutionChangeInput}
    (hvalue : DraftObject value draft) (hother : DraftObject other draft') (haccepted : draft.accepted = true) :
    canonicalJson localeCompare (value.normalizeDraft localeCompare) =
      canonicalJson localeCompare (other.normalizeDraft localeCompare) ↔ draft.SameContent draft' := by
  have hnormal := @normalizeDraft_object localeCompare _ _ hvalue
  have hnormal' := @normalizeDraft_object localeCompare _ _ hother
  rw [canonicalJson_inj localeCompare hnormal.wellFormed hnormal'.wellFormed,
    hnormal.canonical_inj hlocale hnormal', normalized_eq_iff hlocale isCollation_textLe haccepted]

/-- Comparing the stored drafts of two requests, as `create` does, is comparing their canonical texts. -/
theorem normalizeDraft_eq_iff_canonicalJson {localeCompare : String → String → Bool}
    (hlocale : IsCollation localeCompare) {value other : JsValue} {draft draft' : EvolutionChangeInput}
    (hvalue : DraftObject value draft) (hother : DraftObject other draft') (haccepted : draft.accepted = true) :
    normalizeDraft draft = normalizeDraft draft' ↔
      canonicalJson localeCompare (value.normalizeDraft localeCompare) =
        canonicalJson localeCompare (other.normalizeDraft localeCompare) := by
  rw [normalizeDraft_eq_iff haccepted, canonicalJson_normalizeDraft_iff hlocale hvalue hother haccepted]

/-- Records as objects with their members in the order they are listed. -/
def JsValue.records {α : Type} (fields : α → List (String × JsValue)) (records : List α) : JsValue :=
  .arr (records.map fun record => .obj (fields record))

/-- A draft as an object. -/
def EvolutionChangeInput.js (draft : EvolutionChangeInput) : JsValue :=
  .obj (draft.fields (.records DraftLink.fields draft.links)
    (.records DraftProviderUpdate.fields draft.providerUpdates)
    (.obj [("identities", .records DraftIdentity.fields draft.identities),
           ("sharedLimits", .records DraftSharedLimit.fields draft.sharedLimits)]))

/-- A value that is well formed is defined. -/
theorem isDefined_of_wellFormed {value : JsValue} (h : value.WellFormed) : value.isDefined = true := by
  cases value with
  | undefined => exact h.elim
  | _ => rfl

/-- An object has the members it lists. -/
theorem isObject_obj {fields : List (String × JsValue)} (hnames : (fields.map (·.1)).Nodup)
    (hfields : ∀ member ∈ fields, member.2.isDefined = true) : (JsValue.obj fields).IsObject fields := by
  refine ⟨fields, rfl, hnames, ?_⟩
  rw [List.filter_eq_self.mpr hfields]

/-- Records are objects with their members. -/
theorem isArrayOf_records {α : Type} {fields : α → List (String × JsValue)}
    (hnames : ∀ record, ((fields record).map (·.1)).Nodup)
    (hfields : ∀ record, ∀ member ∈ fields record, member.2.WellFormed) (records : List α) :
    (JsValue.records fields records).IsArrayOf fields records := by
  refine ⟨_, rfl, ?_⟩
  rw [List.forall₂_map_left_iff]
  apply List.forall₂_same.mpr
  intro record _
  exact isObject_obj (hnames record) fun member hmember => isDefined_of_wellFormed (hfields record member hmember)

/-- Every draft is held by an object. -/
theorem draftObject_js (draft : EvolutionChangeInput) : DraftObject draft.js draft := by
  have hupdate : ∀ update : DraftProviderUpdate, (update.fields.map (·.1)).Nodup := fun _ =>
    (by decide : ["vpsProviderId", "expectedRevision", "maxInstances"].Nodup)
  have hidentity : ∀ identity : DraftIdentity, (identity.fields.map (·.1)).Nodup := fun _ =>
    (by decide : ["vpsProviderId", "expectedRevision", "confirmed"].Nodup)
  have himpact : ∀ impact : DraftSharedLimit, (impact.fields.map (·.1)).Nodup := fun _ =>
    (by decide : ["vpsProviderId", "expectedRevision", "maxInstances", "productIds", "confirmed"].Nodup)
  have hchecked : ["identities", "sharedLimits"].Nodup := by decide
  refine ⟨_, _, _, _, _, isArrayOf_records DraftLink.fields_names DraftLink.fields_wellFormed draft.links,
    isArrayOf_records hupdate DraftProviderUpdate.fields_wellFormed draft.providerUpdates,
    isArrayOf_records hidentity DraftIdentity.fields_wellFormed draft.identities,
    isArrayOf_records himpact DraftSharedLimit.fields_wellFormed draft.sharedLimits,
    isObject_obj hchecked ?_, isObject_obj (draft.fields_names _ _ _) ?_⟩
  · intro member hmember
    simp only [List.mem_cons, List.not_mem_nil, or_false] at hmember
    rcases hmember with rfl | rfl
    · rfl
    · rfl
  · intro member hmember
    simp only [EvolutionChangeInput.fields, optional, List.mem_append, List.mem_cons, List.not_mem_nil,
      or_false, Option.mem_toList, Option.map_map] at hmember
    rcases hmember with ((rfl | rfl | rfl) | htarget) | rfl | rfl | rfl
    · rfl
    · rfl
    · rfl
    · obtain ⟨id, -, rfl⟩ := Option.map_eq_some_iff.mp htarget
      rfl
    · rfl
    · rfl
    · rfl

/-- A draft is recognised by its canonical text exactly when its content is the same, a draft or a snapshot keeps
its canonical text when it is stored and read back, and a snapshot is recognised exactly when nothing changed. -/
theorem canonicalJson_recognises {localeCompare : String → String → Bool} (hlocale : IsCollation localeCompare) :
    (∀ value other draft draft', DraftObject value draft → DraftObject other draft' →
      draft.accepted = true → draft'.accepted = true →
      (canonicalJson localeCompare (value.normalizeDraft localeCompare) =
        canonicalJson localeCompare (other.normalizeDraft localeCompare) ↔ draft.SameContent draft')) ∧
    (∀ value, ((∃ draft, DraftObject value draft) ∨ ∃ snapshot, SnapshotObject value snapshot) →
      ∃ read, Json.parse value.json.stringify = some read ∧
        canonicalJson localeCompare read.js = canonicalJson localeCompare value) ∧
    ∀ value other snapshot snapshot', SnapshotObject value snapshot → SnapshotObject other snapshot' →
      (canonicalJson localeCompare value = canonicalJson localeCompare other ↔ snapshot = snapshot') := by
  refine ⟨?_, ?_, ?_⟩
  · intro value other draft draft' hvalue hother haccepted _
    exact canonicalJson_normalizeDraft_iff hlocale hvalue hother haccepted
  · intro value hvalue
    rcases hvalue with ⟨draft, hdraft⟩ | ⟨snapshot, hsnapshot⟩
    · exact canonicalJson_parse_stringify localeCompare hdraft.wellFormed
    · exact canonicalJson_parse_stringify localeCompare hsnapshot.wellFormed
  · intro value other snapshot snapshot' hvalue hother
    rw [canonicalJson_inj localeCompare hvalue.wellFormed hother.wellFormed]
    exact hvalue.canonical_inj hlocale hother

/-- A draft that links two providers. -/
def smallNorthSouth : EvolutionChangeInput where
  requestId := "request"
  expectedRevision := 0
  action := .configureCapacity
  links := [{ vpsProviderId := ⟨"north", by decide⟩, expectedRevision := some 1 },
            { vpsProviderId := ⟨"south", by decide⟩, acceptingNewInstances := some true }]

/-- The same with its links the other way round. -/
def smallSouthNorth : EvolutionChangeInput :=
  { smallNorthSouth with links := smallNorthSouth.links.reverse }

/-- Both have one canonical text. -/
theorem canonicalJson_recognises_small :
    canonicalJson textLe (smallNorthSouth.js.normalizeDraft textLe) =
      canonicalJson textLe (smallSouthNorth.js.normalizeDraft textLe) := by
  have hcontent : smallNorthSouth.SameContent smallSouthNorth :=
    ⟨rfl, rfl, rfl, rfl, (List.reverse_perm _).symm, List.Perm.refl _, List.Perm.refl _,
      [], List.Perm.refl _, List.Forall₂.nil⟩
  exact ((canonicalJson_recognises isCollation_textLe).1 _ _ smallNorthSouth smallSouthNorth
    (draftObject_js _) (draftObject_js _) (by decide) (by decide)).mpr hcontent

end ConnectHub
