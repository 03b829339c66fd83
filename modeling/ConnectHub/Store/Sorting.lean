import Mathlib.Data.List.Forall2
import Mathlib.Data.List.Sort

/-!
# Sorting records by a key

Records with distinct keys come out of a sort in one order only: two lists sort to the same list exactly when
they hold the same records.
-/

namespace Store

variable {α β κ : Type}

/-- An order in which any two keys can be compared, and only equal ones tie. -/
structure IsCollation (le : κ → κ → Bool) : Prop where
  total : ∀ a b, le a b = true ∨ le b a = true
  trans : ∀ a b c, le a b = true → le b c = true → le a c = true
  antisymm : ∀ a b, le a b = true → le b a = true → a = b

variable (le : κ → κ → Bool) (key : α → κ)

/-- The records in the order of their keys. -/
def sortOn (records : List α) : List α :=
  records.insertionSort fun a b => le (key a) (key b) = true

/-- Sorting loses and adds nothing. -/
theorem sortOn_perm (records : List α) : (sortOn le key records).Perm records :=
  List.perm_insertionSort _ records

variable {le key} {records others : List α}

/-- A sorted list is in order. -/
theorem sortOn_pairwise (hle : IsCollation le) :
    (sortOn le key records).Pairwise fun a b => le (key a) (key b) = true := by
  have htotal : Std.Total fun a b : α => le (key a) (key b) = true := ⟨fun a b => hle.total _ _⟩
  have htrans : IsTrans α fun a b => le (key a) (key b) = true := ⟨fun a b c => hle.trans _ _ _⟩
  exact List.pairwise_insertionSort _ records

/-- Records with distinct keys are told apart by them. -/
theorem eq_of_key_eq (hkeys : (records.map key).Nodup) {a b : α} (ha : a ∈ records) (hb : b ∈ records)
    (h : key a = key b) : a = b :=
  List.inj_on_of_nodup_map hkeys ha hb h

/-- The same records sort to the same list. -/
theorem sortOn_eq_of_perm (hle : IsCollation le) (hkeys : (records.map key).Nodup)
    (h : records.Perm others) : sortOn le key records = sortOn le key others := by
  have hperm : (sortOn le key records).Perm (sortOn le key others) :=
    (sortOn_perm le key records).trans (h.trans (sortOn_perm le key others).symm)
  refine hperm.eq_of_pairwise ?_ (sortOn_pairwise hle) (sortOn_pairwise hle)
  intro a b ha hb hab hba
  have hka : a ∈ records := (sortOn_perm le key records).mem_iff.mp ha
  have hkb : b ∈ records := h.mem_iff.mpr ((sortOn_perm le key others).mem_iff.mp hb)
  exact eq_of_key_eq hkeys hka hkb (hle.antisymm _ _ hab hba)

/-- Two lists of records with distinct keys sort to the same list exactly when one is a rearrangement of the
other. -/
theorem sortOn_eq_iff (hle : IsCollation le) (hkeys : (records.map key).Nodup) :
    sortOn le key records = sortOn le key others ↔ records.Perm others := by
  constructor
  · intro h
    have hfirst := (sortOn_perm le key records).symm
    rw [h] at hfirst
    exact hfirst.trans (sortOn_perm le key others)
  · exact sortOn_eq_of_perm hle hkeys

/-- Sorting commutes with a change of the records that keeps their keys. -/
theorem map_sortOn {f : α → β} {key' : β → κ} (h : ∀ a ∈ records, key' (f a) = key a) :
    (sortOn le key records).map f = sortOn le key' (records.map f) := by
  unfold sortOn
  apply List.map_insertionSort
  intro a ha b hb
  rw [h a ha, h b hb]

/-- Records that correspond one by one still do so once both lists are in order, if they agree on their keys. -/
theorem forall₂_sortOn {R : α → β → Prop} {key' : β → κ} {images : List β}
    (h : List.Forall₂ R records images) (hkey : ∀ a b, R a b → key a = key' b) :
    List.Forall₂ R (sortOn le key records) (sortOn le key' images) := by
  have hpairs : ∃ pairs : List (α × β), records = pairs.map Prod.fst ∧ images = pairs.map Prod.snd ∧
      ∀ pair ∈ pairs, R pair.1 pair.2 := by
    induction h with
    | nil => exact ⟨[], rfl, rfl, fun _ hpair => absurd hpair List.not_mem_nil⟩
    | cons hfirst _ ih =>
      obtain ⟨pairs, hrecords, himages, hall⟩ := ih
      refine ⟨(_, _) :: pairs, congrArg (List.cons _) hrecords, congrArg (List.cons _) himages, ?_⟩
      intro pair hpair
      cases List.mem_cons.mp hpair with
      | inl heq => exact heq ▸ hfirst
      | inr hrest => exact hall pair hrest
  obtain ⟨pairs, hrecords, himages, hall⟩ := hpairs
  have hleft := @map_sortOn _ _ _ le (fun pair : α × β => key' pair.2) pairs Prod.fst key
    fun pair hpair => hkey _ _ (hall pair hpair)
  have hright := @map_sortOn _ _ _ le (fun pair : α × β => key' pair.2) pairs Prod.snd key' fun pair _ => rfl
  rw [hrecords, himages, ← hleft, ← hright, List.forall₂_map_left_iff, List.forall₂_map_right_iff]
  apply List.forall₂_same.mpr
  intro pair hpair
  exact hall pair ((sortOn_perm le _ pairs).mem_iff.mp hpair)

/-- Rearranging records with distinct keys does not change which one a key finds. -/
theorem lookup_eq_of_perm [DecidableEq κ] {members others : List (κ × β)}
    (hkeys : (members.map (·.1)).Nodup) (h : members.Perm others) (k : κ) :
    members.lookup k = others.lookup k := by
  induction h with
  | nil => rfl
  | cons member _ ih =>
    obtain ⟨name, value⟩ := member
    have hrest := ih (List.nodup_cons.mp hkeys).2
    rw [List.lookup_cons, List.lookup_cons, hrest]
  | swap first second rest =>
    obtain ⟨name, value⟩ := first
    obtain ⟨other, found⟩ := second
    have hne : other ≠ name := by
      intro heq
      simp [heq] at hkeys
    simp only [List.lookup_cons]
    by_cases hname : k = name
    · have hother : (k == other) = false := beq_eq_false_iff_ne.mpr (hname ▸ hne.symm)
      rw [hother, beq_iff_eq.mpr hname]
    · rw [beq_eq_false_iff_ne.mpr hname]
  | trans first _ ih₁ ih₂ =>
    have hkeys' := (first.map (·.1)).nodup_iff.mp hkeys
    exact (ih₁ hkeys).trans (ih₂ hkeys')

/-- A member with a key of its own is the one its key finds. -/
theorem lookup_eq_some_of_mem [DecidableEq κ] {members : List (κ × β)} (hkeys : (members.map (·.1)).Nodup)
    {k : κ} {value : β} (h : (k, value) ∈ members) : members.lookup k = some value := by
  induction members with
  | nil => cases h
  | cons member members ih =>
    obtain ⟨name, found⟩ := member
    rw [List.map_cons, List.nodup_cons] at hkeys
    rw [List.lookup_cons]
    cases List.mem_cons.mp h with
    | inl hfirst =>
      cases hfirst
      rw [beq_self_eq_true]
    | inr hrest =>
      have hne : k ≠ name := by
        intro heq
        have hmem := List.mem_map_of_mem (f := fun member => member.1) hrest
        rw [heq] at hmem
        exact hkeys.1 hmem
      rw [beq_eq_false_iff_ne.mpr hne]
      exact ih hkeys.2 hrest

end Store
