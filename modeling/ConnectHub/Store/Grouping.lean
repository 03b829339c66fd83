import Mathlib.Data.Finset.Card
import Mathlib.Data.Finset.Dedup
import Mathlib.Data.List.Nodup
import Mathlib.Data.Finset.Insert

/-!
# First-match grouping

Items arrive one at a time. Each joins the first group that takes it or opens a group of its
own; joining either merges the item into the group or only records that the two clash. A group
takes at least the items that carry its name, so groups never share a name: their number is
bounded by the number of names, and it is that number when nothing clashed.
-/

namespace Store

/-- How items of type `α` are collected into groups of type `β`, each under a name. -/
structure Grouping (α β ν : Type) where
  itemName : α → ν
  groupName : β → ν
  joins : β → α → Bool
  clashes : β → α → Bool
  merge : β → α → β
  start : α → β
  joins_of_name : ∀ g a, groupName g = itemName a → joins g a = true
  name_of_agree : ∀ g a, joins g a = true → clashes g a = false → groupName g = itemName a
  name_merge : ∀ g a, groupName (merge g a) = groupName g
  name_start : ∀ a, groupName (start a) = itemName a

namespace Grouping

variable {α β ν : Type} (G : Grouping α β ν)

/-- Put an item into the first group that takes it, reporting whether it clashed there. -/
def place (a : α) : List β → List β × Bool
  | [] => ([G.start a], false)
  | g :: gs =>
    if G.joins g a then
      if G.clashes g a then (g :: gs, true) else (G.merge g a :: gs, false)
    else
      let rest := place a gs
      (g :: rest.1, rest.2)

/-- Put every item into its group, in order; the flag remembers any clash. -/
def collect (items : List α) (groups : List β) (clashed : Bool) : List β × Bool :=
  items.foldl (fun acc a => ((G.place a acc.1).1, acc.2 || (G.place a acc.1).2)) (groups, clashed)

/-- The names of the groups after placing an item: unchanged, or with the item's name added. -/
theorem place_names (a : α) (gs : List β) :
    (G.place a gs).1.map G.groupName = gs.map G.groupName ∨
      (G.place a gs).1.map G.groupName = gs.map G.groupName ++ [G.itemName a] ∧
        G.itemName a ∉ gs.map G.groupName := by
  induction gs with
  | nil =>
    right
    simp [place, G.name_start]
  | cons g gs ih =>
    by_cases hj : G.joins g a = true
    · left
      by_cases hc : G.clashes g a = true
      · simp [place, hj, hc]
      · simp [place, hj, hc, G.name_merge]
    · have hne : G.itemName a ≠ G.groupName g := fun h => hj (G.joins_of_name g a h.symm)
      rcases ih with ih | ⟨ih, hfresh⟩
      · left
        simp [place, hj, ih]
      · right
        simp only [place, hj, if_false, Bool.false_eq_true, List.map_cons, ih, List.cons_append,
          List.mem_cons, not_or, true_and]
        exact ⟨hne, hfresh⟩

/-- An item placed without a clash is in a group of its own name. -/
theorem place_mem_of_agree (a : α) (gs : List β) (h : (G.place a gs).2 = false) :
    G.itemName a ∈ (G.place a gs).1.map G.groupName := by
  induction gs with
  | nil => simp [place, G.name_start]
  | cons g gs ih =>
    by_cases hj : G.joins g a = true
    · by_cases hc : G.clashes g a = true
      · simp [place, hj, hc] at h
      · have hname := G.name_of_agree g a hj (by simpa using hc)
        simp [place, hj, hc, G.name_merge, hname]
    · simp only [place, hj, if_false, Bool.false_eq_true, List.map_cons] at h ⊢
      exact List.mem_cons_of_mem _ (ih h)

/-- One more item to collect. -/
theorem collect_cons (a : α) (items : List α) (groups : List β) (clashed : Bool) :
    G.collect (a :: items) groups clashed =
      G.collect items (G.place a groups).1 (clashed || (G.place a groups).2) := rfl

/-- The groups keep distinct names, drawn from the starting ones and the items'. -/
theorem collect_names (items : List α) (groups : List β) (clashed : Bool)
    (h : (groups.map G.groupName).Nodup) :
    ((G.collect items groups clashed).1.map G.groupName).Nodup ∧
      (G.collect items groups clashed).1.map G.groupName ⊆
        groups.map G.groupName ++ items.map G.itemName := by
  induction items generalizing groups clashed with
  | nil => simp [collect, h]
  | cons a items ih =>
    rw [collect_cons]
    rcases G.place_names a groups with hsame | ⟨hadd, hfresh⟩
    · obtain ⟨hnodup, hsub⟩ := ih (G.place a groups).1 (clashed || (G.place a groups).2) (hsame ▸ h)
      refine ⟨hnodup, fun x hx => ?_⟩
      have hmem := hsub hx
      rw [hsame] at hmem
      simp only [List.mem_append, List.map_cons, List.mem_cons] at hmem ⊢
      tauto
    · have hnodup' : ((G.place a groups).1.map G.groupName).Nodup := by
        rw [hadd, List.nodup_append]
        refine ⟨h, List.nodup_singleton _, ?_⟩
        intro x hx y hy hxy
        rw [List.mem_singleton] at hy
        exact hfresh (hy ▸ hxy ▸ hx)
      obtain ⟨hnodup, hsub⟩ := ih (G.place a groups).1 (clashed || (G.place a groups).2) hnodup'
      refine ⟨hnodup, fun x hx => ?_⟩
      have hmem := hsub hx
      rw [hadd] at hmem
      simp only [List.mem_append, List.map_cons, List.mem_cons] at hmem ⊢
      tauto

/-- Once a clash is recorded it stays recorded. -/
theorem collect_clashed (items : List α) (groups : List β) :
    (G.collect items groups true).2 = true := by
  induction items generalizing groups with
  | nil => rfl
  | cons a items ih =>
    rw [collect_cons, Bool.true_or]
    exact ih _

/-- Without a clash, every item's name and every starting name is the name of a group. -/
theorem names_subset_collect (items : List α) (groups : List β) (clashed : Bool)
    (h : (G.collect items groups clashed).2 = false) :
    groups.map G.groupName ++ items.map G.itemName ⊆
      (G.collect items groups clashed).1.map G.groupName := by
  induction items generalizing groups clashed with
  | nil => simp [collect]
  | cons a items ih =>
    rw [collect_cons] at h ⊢
    have hagree : (G.place a groups).2 = false := by
      by_contra hc
      rw [Bool.not_eq_false] at hc
      rw [hc, Bool.or_true, collect_clashed] at h
      exact absurd h (by simp)
    have hsub := ih _ _ h
    have hkept : groups.map G.groupName ⊆ (G.place a groups).1.map G.groupName := by
      rcases G.place_names a groups with hsame | ⟨hadd, _⟩
      · rw [hsame]
        exact List.Subset.refl _
      · rw [hadd]
        exact List.subset_append_left _ _
    intro x hx
    simp only [List.map_cons, List.mem_append, List.mem_cons] at hx
    rcases hx with hx | rfl | hx
    · exact hsub (List.mem_append_left _ (hkept hx))
    · exact hsub (List.mem_append_left _ (G.place_mem_of_agree a groups hagree))
    · exact hsub (List.mem_append_right _ hx)

/-- Collecting in two parts. -/
theorem collect_append (items others : List α) (groups : List β) (clashed : Bool) :
    G.collect (items ++ others) groups clashed =
      G.collect others (G.collect items groups clashed).1 (G.collect items groups clashed).2 :=
  List.foldl_append

/-- An item passes the groups that do not take it. -/
theorem place_append {a : α} {gs : List β} (h : ∀ g ∈ gs, G.joins g a = false) (rest : List β) :
    G.place a (gs ++ rest) = (gs ++ (G.place a rest).1, (G.place a rest).2) := by
  induction gs with
  | nil => rfl
  | cons g gs ih =>
    have hrest := ih fun g' hg' => h g' (List.mem_cons_of_mem _ hg')
    simp [place, h g List.mem_cons_self, hrest]

/-- Groups that take none of the items stay as they are, before what the items make of the others. -/
theorem collect_pass {items : List α} {gs : List β} (h : ∀ a ∈ items, ∀ g ∈ gs, G.joins g a = false)
    (rest : List β) (clashed : Bool) :
    G.collect items (gs ++ rest) clashed =
      (gs ++ (G.collect items rest clashed).1, (G.collect items rest clashed).2) := by
  induction items generalizing rest clashed with
  | nil => rfl
  | cons a items ih =>
    rw [collect_cons, collect_cons, G.place_append (h a List.mem_cons_self)]
    exact ih (fun a' ha' => h a' (List.mem_cons_of_mem _ ha')) _ _

/-- An item that agrees with every group that takes it does not clash. -/
theorem place_agrees {a : α} {gs : List β} (h : ∀ g ∈ gs, G.joins g a = true → G.clashes g a = false) :
    (G.place a gs).2 = false := by
  induction gs with
  | nil => rfl
  | cons g gs ih =>
    have hrest := ih fun g' hg' => h g' (List.mem_cons_of_mem _ hg')
    by_cases hj : G.joins g a = true
    · simp [place, hj, h g List.mem_cons_self hj]
    · simp [place, hj, hrest]

/-- Where a group comes from, once an item was placed. -/
theorem mem_place {a : α} {gs : List β} {g' : β} (h : g' ∈ (G.place a gs).1) :
    g' ∈ gs ∨ (g' = G.start a ∧ ∀ g ∈ gs, G.joins g a = false) ∨
      ∃ g ∈ gs, G.joins g a = true ∧ G.clashes g a = false ∧ g' = G.merge g a := by
  induction gs with
  | nil => exact Or.inr (Or.inl ⟨by simpa [place] using h, by simp⟩)
  | cons g gs ih =>
    by_cases hj : G.joins g a = true
    · by_cases hc : G.clashes g a = true
      · exact Or.inl (by simpa [place, hj, hc] using h)
      · rcases (by simpa [place, hj, hc] using h : g' = G.merge g a ∨ g' ∈ gs) with rfl | hold
        · exact Or.inr (Or.inr ⟨g, List.mem_cons_self, hj, by simpa using hc, rfl⟩)
        · exact Or.inl (List.mem_cons_of_mem _ hold)
    · rcases (by simpa [place, hj] using h : g' = g ∨ g' ∈ (G.place a gs).1) with rfl | hrest
      · exact Or.inl List.mem_cons_self
      · rcases ih hrest with hold | ⟨hstart, hnone⟩ | ⟨g₀, hg₀, hjoined⟩
        · exact Or.inl (List.mem_cons_of_mem _ hold)
        · refine Or.inr (Or.inl ⟨hstart, fun g₀ hg₀ => ?_⟩)
          rcases List.mem_cons.mp hg₀ with rfl | hg₀
          · simpa using hj
          · exact hnone g₀ hg₀
        · exact Or.inr (Or.inr ⟨g₀, List.mem_cons_of_mem _ hg₀, hjoined⟩)

/-- A group stays, or the item is merged into it. -/
theorem place_kept {a : α} {gs : List β} {g : β} (h : g ∈ gs) :
    g ∈ (G.place a gs).1 ∨
      (G.joins g a = true ∧ G.clashes g a = false ∧ G.merge g a ∈ (G.place a gs).1) := by
  induction gs with
  | nil => cases h
  | cons g₀ gs ih =>
    by_cases hj : G.joins g₀ a = true
    · by_cases hc : G.clashes g₀ a = true
      · left
        simpa [place, hj, hc] using h
      · rcases List.mem_cons.mp h with rfl | hold
        · exact Or.inr ⟨hj, by simpa using hc, by simp [place, hj, hc]⟩
        · left
          simp [place, hj, hc, hold]
    · rcases List.mem_cons.mp h with rfl | hold
      · left
        simp [place, hj]
      · rcases ih hold with hkept | ⟨hjoins, hagree, hmerged⟩
        · left
          simp [place, hj, hkept]
        · exact Or.inr ⟨hjoins, hagree, by simp [place, hj, hmerged]⟩

/-- An item that did not clash opened a group or was merged into one. -/
theorem place_placed {a : α} {gs : List β} (h : (G.place a gs).2 = false) :
    G.start a ∈ (G.place a gs).1 ∨
      ∃ g ∈ gs, G.joins g a = true ∧ G.clashes g a = false ∧ G.merge g a ∈ (G.place a gs).1 := by
  induction gs with
  | nil =>
    left
    simp [place]
  | cons g gs ih =>
    by_cases hj : G.joins g a = true
    · by_cases hc : G.clashes g a = true
      · simp [place, hj, hc] at h
      · exact Or.inr ⟨g, List.mem_cons_self, hj, by simpa using hc, by simp [place, hj, hc]⟩
    · rcases ih (by simpa [place, hj] using h) with hstart | ⟨g₀, hg₀, hjoins, hagree, hmerged⟩
      · left
        simp [place, hj, hstart]
      · exact Or.inr ⟨g₀, List.mem_cons_of_mem _ hg₀, hjoins, hagree, by simp [place, hj, hmerged]⟩

/-- A relation between the items collected so far and the groups that every placing without a clash keeps
holds of all the items and the final groups. -/
theorem collect_invariant {I : List α → List β → Prop}
    (hstep : ∀ done gs a, I done gs → (G.place a gs).2 = false → I (done ++ [a]) (G.place a gs).1)
    {items done : List α} {gs : List β} (hI : I done gs) (h : (G.collect items gs false).2 = false) :
    I (done ++ items) (G.collect items gs false).1 := by
  induction items generalizing done gs with
  | nil =>
    rw [List.append_nil]
    exact hI
  | cons a items ih =>
    rw [collect_cons, Bool.false_or] at h ⊢
    have hagree : (G.place a gs).2 = false := by
      by_contra hc
      rw [Bool.not_eq_false] at hc
      rw [hc, collect_clashed] at h
      cases h
    rw [hagree] at h ⊢
    have hrest := ih (hstep done gs a hI hagree) h
    rw [List.append_assoc] at hrest
    exact hrest

/-- Where such a relation excludes a clash, nothing clashes. -/
theorem collect_agrees {I : List α → List β → Prop} {items : List α}
    (hagree : ∀ done gs a, a ∈ items → I done gs → (G.place a gs).2 = false)
    (hstep : ∀ done gs a, a ∈ items → I done gs → I (done ++ [a]) (G.place a gs).1)
    {done : List α} {gs : List β} (hI : I done gs) : (G.collect items gs false).2 = false := by
  induction items generalizing done gs with
  | nil => rfl
  | cons a items ih =>
    rw [collect_cons, Bool.false_or, hagree done gs a List.mem_cons_self hI]
    exact ih (fun done gs a' ha' => hagree done gs a' (List.mem_cons_of_mem _ ha'))
      (fun done gs a' ha' => hstep done gs a' (List.mem_cons_of_mem _ ha'))
      (hstep done gs a List.mem_cons_self hI)

variable [DecidableEq ν]

/-- There are at most as many groups as the items have names. -/
theorem length_collect_le (items : List α) (clashed : Bool) :
    (G.collect items [] clashed).1.length ≤ (items.map G.itemName).toFinset.card := by
  obtain ⟨hnodup, hsub⟩ := G.collect_names items [] clashed List.nodup_nil
  rw [← List.length_map (f := G.groupName), ← List.toFinset_card_of_nodup hnodup]
  exact Finset.card_le_card fun x hx => by simpa using hsub (List.mem_toFinset.mp hx)

/-- Without a clash there are exactly as many groups as the items have names. -/
theorem length_collect_eq (items : List α) (clashed : Bool)
    (h : (G.collect items [] clashed).2 = false) :
    (G.collect items [] clashed).1.length = (items.map G.itemName).toFinset.card := by
  refine le_antisymm (G.length_collect_le items clashed) ?_
  obtain ⟨hnodup, _⟩ := G.collect_names items [] clashed List.nodup_nil
  rw [← List.length_map (f := G.groupName), ← List.toFinset_card_of_nodup hnodup]
  exact Finset.card_le_card fun x hx =>
    List.mem_toFinset.mpr (G.names_subset_collect items [] clashed h (by simpa using hx))

end Grouping

end Store
