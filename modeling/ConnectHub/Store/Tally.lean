import Mathlib.Data.List.Dedup
import Mathlib.Data.Set.Card

/-!
# Tallies

Keys are counted one after the other in an association list. What was counted is how often each key
occurs, so the number of keys counted twice or more is the size of the set of repeated keys, and it
is zero exactly when no key repeats.
-/

namespace Store

variable {α β ρ : Type} [DecidableEq α] [DecidableEq β]

/-- Count a key once more. -/
def countKey (key : α) : List (α × ℕ) → List (α × ℕ)
  | [] => [(key, 1)]
  | entry :: counts => if entry.1 = key then (key, entry.2 + 1) :: counts else entry :: countKey key counts

/-- How often each key occurs, in the order in which the keys were first seen. -/
def tally (keys : List α) : List (α × ℕ) := keys.foldl (fun counts key => countKey key counts) []

/-- How many keys occur more than once. -/
def repeatedKeys (keys : List α) : ℕ := ((tally keys).filter fun entry => 1 < entry.2).length

/-- One more key is counted last. -/
theorem tally_snoc (keys : List α) (key : α) : tally (keys ++ [key]) = countKey key (tally keys) := by
  rw [tally, List.foldl_append]
  rfl

/-- Counting a key adds it where it was not counted yet. -/
theorem mem_countKey_keys {key other : α} {counts : List (α × ℕ)} :
    other ∈ (countKey key counts).map (·.1) ↔ other = key ∨ other ∈ counts.map (·.1) := by
  induction counts with
  | nil => simp [countKey]
  | cons entry counts ih =>
    by_cases hsame : entry.1 = key
    · subst hsame
      simp [countKey]
    · simp only [countKey, if_neg hsame, List.map_cons, List.mem_cons, ih]
      exact or_left_comm

/-- Keys that are counted once each stay so. -/
theorem countKey_nodup {key : α} {counts : List (α × ℕ)} (h : (counts.map (·.1)).Nodup) :
    ((countKey key counts).map (·.1)).Nodup := by
  induction counts with
  | nil => exact List.nodup_singleton key
  | cons entry counts ih =>
    rw [List.map_cons, List.nodup_cons] at h
    by_cases hsame : entry.1 = key
    · subst hsame
      simp only [countKey, if_true, List.map_cons, List.nodup_cons]
      exact h
    · simp only [countKey, if_neg hsame, List.map_cons, List.nodup_cons]
      refine ⟨fun hmem => ?_, ih h.2⟩
      rcases mem_countKey_keys.mp hmem with hkey | hlater
      · exact hsame hkey
      · exact h.1 hlater

/-- What is counted after one more key. -/
theorem mem_countKey {key other : α} {n : ℕ} {counts : List (α × ℕ)} (hnodup : (counts.map (·.1)).Nodup)
    (hother : other ≠ key) : (other, n) ∈ countKey key counts ↔ (other, n) ∈ counts := by
  induction counts with
  | nil => simp [countKey, hother]
  | cons entry counts ih =>
    rw [List.map_cons, List.nodup_cons] at hnodup
    by_cases hsame : entry.1 = key
    · subst hsame
      simp only [countKey, if_true, List.mem_cons, Prod.mk.injEq, hother, false_and, false_or]
      refine ⟨Or.inr, fun h => h.resolve_left fun heq => hother (congrArg Prod.fst heq)⟩
    · simp only [countKey, if_neg hsame, List.mem_cons, ih hnodup.2]

/-- The count of a key that is counted once more. -/
theorem mem_countKey_self {key : α} {n : ℕ} {counts : List (α × ℕ)} (hnodup : (counts.map (·.1)).Nodup) :
    (key, n) ∈ countKey key counts ↔
      (key ∉ counts.map (·.1) ∧ n = 1) ∨ ∃ m, (key, m) ∈ counts ∧ n = m + 1 := by
  induction counts with
  | nil => simp [countKey]
  | cons entry counts ih =>
    rw [List.map_cons, List.nodup_cons] at hnodup
    by_cases hsame : entry.1 = key
    · subst hsame
      have hnone : ∀ m, (entry.1, m) ∉ counts := fun m hmem => hnodup.1 (List.mem_map_of_mem (f := (·.1)) hmem)
      simp only [countKey, if_true, List.mem_cons, Prod.mk.injEq, true_and, hnone, or_false, List.map_cons,
        true_or, not_true, false_and, false_or]
      constructor
      · rintro rfl
        exact ⟨entry.2, rfl, rfl⟩
      · rintro ⟨m, hm, rfl⟩
        rw [← show m = entry.2 from congrArg Prod.snd hm]
    · have hne : ∀ m, (key, m) ≠ entry := fun m heq => hsame (congrArg Prod.fst heq).symm
      simp only [countKey, if_neg hsame, List.mem_cons, hne, false_or, ih hnodup.2, List.map_cons, Ne.symm hsame]

/-- Each key is counted once. -/
theorem tally_nodup (keys : List α) : ((tally keys).map (·.1)).Nodup := by
  induction keys using List.reverseRecOn with
  | nil => exact List.nodup_nil
  | append_singleton keys key ih =>
    rw [tally_snoc]
    exact countKey_nodup ih

/-- The keys that are counted are the keys that occur. -/
theorem mem_tally_keys {key : α} {keys : List α} : key ∈ (tally keys).map (·.1) ↔ key ∈ keys := by
  induction keys using List.reverseRecOn with
  | nil => exact Iff.rfl
  | append_singleton keys last ih =>
    rw [tally_snoc, mem_countKey_keys, ih, List.mem_append, List.mem_singleton, or_comm]

/-- A key is counted as often as it occurs. -/
theorem mem_tally {key : α} {n : ℕ} {keys : List α} :
    (key, n) ∈ tally keys ↔ key ∈ keys ∧ n = keys.count key := by
  induction keys using List.reverseRecOn generalizing n with
  | nil => simp [tally]
  | append_singleton keys last ih =>
    rw [tally_snoc, List.count_append, List.mem_append, List.mem_singleton]
    by_cases hlast : key = last
    · subst hlast
      rw [mem_countKey_self (tally_nodup keys), mem_tally_keys, List.count_singleton_self]
      simp only [ih, or_true, true_and]
      by_cases hmem : key ∈ keys
      · simp [hmem]
      · simp [hmem, List.count_eq_zero_of_not_mem hmem]
    · have hnone : [last].count key = 0 := List.count_eq_zero_of_not_mem fun h => hlast (List.mem_singleton.mp h)
      rw [mem_countKey (tally_nodup keys) hlast, ih, hnone, Nat.add_zero, or_iff_left hlast]

/-- The number of repeated keys is the size of their set. -/
theorem repeatedKeys_eq (keys : List α) : repeatedKeys keys = Set.ncard {key | 1 < keys.count key} := by
  have hnodup : (((tally keys).filter fun entry => 1 < entry.2).map (·.1)).Nodup :=
    (List.filter_sublist.map _).nodup (tally_nodup keys)
  have hset : {key | 1 < keys.count key} =
      ↑(((tally keys).filter fun entry => 1 < entry.2).map (·.1)).toFinset := by
    ext key
    simp only [Set.mem_ofPred_eq, List.coe_toFinset, List.mem_map, List.mem_filter, decide_eq_true_eq, Prod.exists,
      exists_and_right, exists_eq_right, mem_tally]
    constructor
    · intro hcount
      exact ⟨_, ⟨List.count_pos_iff.mp (Nat.zero_lt_of_lt hcount), rfl⟩, hcount⟩
    · rintro ⟨n, ⟨-, rfl⟩, hcount⟩
      exact hcount
  rw [hset, Set.ncard_coe_finset, List.toFinset_card_of_nodup hnodup, List.length_map]
  rfl

/-- No key is repeated exactly when the keys are pairwise distinct. -/
theorem repeatedKeys_eq_zero {keys : List α} : repeatedKeys keys = 0 ↔ keys.Nodup := by
  rw [repeatedKeys, List.length_eq_zero_iff, List.filter_eq_nil_iff, List.nodup_iff_count_le_one]
  simp only [Prod.forall, mem_tally, decide_eq_true_eq, not_lt]
  constructor
  · intro h key
    by_cases hmem : key ∈ keys
    · exact h key _ ⟨hmem, rfl⟩
    · rw [List.count_eq_zero_of_not_mem hmem]
      exact Nat.zero_le 1
  · rintro h key n ⟨-, rfl⟩
    exact h key

/-- Keys written in another way are repeated as often, if the writing tells them apart. -/
theorem repeatedKeys_map {f : α → β} (hf : Function.Injective f) (keys : List α) :
    repeatedKeys (keys.map f) = repeatedKeys keys := by
  rw [repeatedKeys_eq, repeatedKeys_eq, ← Set.ncard_image_of_injective _ hf]
  congr 1
  ext key
  simp only [Set.mem_ofPred_eq, Set.mem_image]
  constructor
  · intro hcount
    obtain ⟨old, -, rfl⟩ := List.mem_map.mp (List.count_pos_iff.mp (Nat.zero_lt_of_lt hcount))
    exact ⟨old, by rwa [List.count_map_of_injective _ f hf] at hcount, rfl⟩
  · rintro ⟨old, hcount, rfl⟩
    rwa [List.count_map_of_injective _ f hf]

/-- A key that some of the rows have is repeated exactly when two of them have it. -/
theorem one_lt_count_filterMap {rows : List ρ} (hrows : rows.Nodup) (f : ρ → Option α) (key : α) :
    1 < (rows.filterMap f).count key ↔ ∃ r ∈ rows, ∃ s ∈ rows, r ≠ s ∧ f r = some key ∧ f s = some key := by
  induction rows with
  | nil => simp
  | cons row rows ih =>
    obtain ⟨hnew, hrest⟩ := List.nodup_cons.mp hrows
    by_cases hrow : f row = some key
    · rw [List.filterMap_cons_some hrow, List.count_cons_self, Nat.lt_add_left_iff_pos, List.count_pos_iff,
        List.mem_filterMap]
      constructor
      · rintro ⟨s, hs, hkey⟩
        exact ⟨row, List.mem_cons_self, s, List.mem_cons_of_mem row hs, fun heq => hnew (heq ▸ hs), hrow, hkey⟩
      · rintro ⟨r, hr, s, hs, hne, hrkey, hskey⟩
        rcases List.mem_cons.mp hr with rfl | hr
        · rcases List.mem_cons.mp hs with rfl | hs
          · exact absurd rfl hne
          · exact ⟨s, hs, hskey⟩
        · exact ⟨r, hr, hrkey⟩
    · -- a row without the key counts for nothing
      have hcount : ((row :: rows).filterMap f).count key = (rows.filterMap f).count key := by
        cases hother : f row with
        | none => rw [List.filterMap_cons_none hother]
        | some other =>
          rw [List.filterMap_cons_some hother, List.count_cons_of_ne]
          rintro rfl
          exact hrow hother
      rw [hcount, ih hrest]
      constructor
      · rintro ⟨r, hr, s, hs, h⟩
        exact ⟨r, List.mem_cons_of_mem row hr, s, List.mem_cons_of_mem row hs, h⟩
      · rintro ⟨r, hr, s, hs, hne, hrkey, hskey⟩
        have hother : ∀ t ∈ row :: rows, f t = some key → t ∈ rows := fun t ht hkey =>
          (List.mem_cons.mp ht).resolve_left fun heq => hrow (heq ▸ hkey)
        exact ⟨r, hother r hr hrkey, s, hother s hs hskey, hne, hrkey, hskey⟩

/-- Where no key repeats, two rows with one key are one row. -/
theorem eq_of_nodup_filterMap {rows : List ρ} (hrows : rows.Nodup) {f : ρ → Option α} (h : (rows.filterMap f).Nodup)
    {r s : ρ} (hr : r ∈ rows) (hs : s ∈ rows) {key : α} (hrkey : f r = some key) (hskey : f s = some key) : r = s := by
  by_contra hne
  have htwice := (one_lt_count_filterMap hrows f key).mpr ⟨r, hr, s, hs, hne, hrkey, hskey⟩
  exact absurd (List.nodup_iff_count_le_one.mp h key) (Nat.not_le.mpr htwice)

/-- The number of keys that two rows share is the number of repeated keys. -/
theorem repeatedKeys_filterMap {rows : List ρ} (hrows : rows.Nodup) (f : ρ → Option α) :
    repeatedKeys (rows.filterMap f) =
      Set.ncard {key | ∃ r ∈ rows, ∃ s ∈ rows, r ≠ s ∧ f r = some key ∧ f s = some key} := by
  rw [repeatedKeys_eq]
  congr 1
  exact Set.ext (one_lt_count_filterMap hrows f)

end Store
