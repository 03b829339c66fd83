import Mathlib.Data.List.Nodup
import Mathlib.Data.List.Perm.Basic
import Mathlib.Data.List.Basic

/-!
# Keyed tables

A table is a list of rows whose keys are pairwise distinct, so a lookup by key, a membership
fact and an update by key always speak of the same row. The order of the rows is the order in
which a scan returns them; nothing relies on it, and `SameRows` relates two tables that differ
in it alone.
-/

namespace Store

/-- Rows of a table carry their own primary key. -/
class Keyed (ρ : Type) (κ : outParam Type) where
  /-- The primary key of a row. -/
  key : ρ → κ

/-- A list of rows with distinct primary keys. -/
structure Table (ρ : Type) {κ : Type} [Keyed ρ κ] where
  rows : List ρ
  nodup : (rows.map Keyed.key).Nodup

namespace Table

variable {ρ κ : Type} [Keyed ρ κ]

instance : Membership ρ (Table ρ) := ⟨fun t r => r ∈ t.rows⟩

/-- Membership in a table is membership in its rows. -/
theorem mem_rows {t : Table ρ} {r : ρ} : r ∈ t.rows ↔ r ∈ t := Iff.rfl

/-- The table without rows. -/
def empty : Table ρ := ⟨[], List.nodup_nil⟩

/-- Two rows of a table with the same key are the same row. -/
theorem eq_of_key_eq {t : Table ρ} {r r' : ρ} (hr : r ∈ t) (hr' : r' ∈ t)
    (h : Keyed.key r = Keyed.key r') : r = r' :=
  List.inj_on_of_nodup_map t.nodup hr hr' h

/-- Change the rows that satisfy a test, keeping every key. -/
def modify (t : Table ρ) (p : ρ → Bool) (f : ρ → ρ)
    (hf : ∀ r, Keyed.key (f r) = Keyed.key r := by exact fun _ => Eq.symm rfl) : Table ρ where
  rows := t.rows.map fun r => if p r then f r else r
  nodup := by
    have hkey : Keyed.key ∘ (fun r => if p r then f r else r) = (Keyed.key : ρ → κ) := by
      funext r
      by_cases hp : p r
      · simp [hp, hf]
      · simp [hp]
    rw [List.map_map, hkey]
    exact t.nodup

/-- Delete the rows that satisfy a test. -/
def remove (t : Table ρ) (p : ρ → Bool) : Table ρ where
  rows := t.rows.filter fun r => !p r
  nodup := (List.filter_sublist.map _).nodup t.nodup

/-- The rows of a modified table are the old rows, changed where the test holds. -/
theorem mem_modify {t : Table ρ} {p : ρ → Bool} {f : ρ → ρ} {hf} {r : ρ} :
    r ∈ t.modify p f hf ↔ ∃ r₀ ∈ t, (if p r₀ then f r₀ else r₀) = r :=
  List.mem_map

/-- Some row of a modified table has a property exactly when some old row has it in its new form. -/
theorem exists_mem_modify {t : Table ρ} {p : ρ → Bool} {f : ρ → ρ} {hf} {P : ρ → Prop} :
    (∃ r ∈ t.modify p f hf, P r) ↔ ∃ r ∈ t, P (if p r then f r else r) := by
  simp only [mem_modify]
  constructor
  · rintro ⟨_, ⟨r, hr, rfl⟩, hP⟩
    exact ⟨r, hr, hP⟩
  · rintro ⟨r, hr, hP⟩
    exact ⟨_, ⟨r, hr, rfl⟩, hP⟩

/-- The rows left by a deletion are those on which the test fails. -/
theorem mem_remove {t : Table ρ} {p : ρ → Bool} {r : ρ} :
    r ∈ t.remove p ↔ r ∈ t ∧ p r = false := by
  change r ∈ t.rows.filter _ ↔ _
  rw [List.mem_filter, mem_rows, Bool.not_eq_true']

section Lookup

variable [DecidableEq κ]

/-- The row with the given key. -/
def find? (t : Table ρ) (k : κ) : Option ρ := t.rows.find? fun r => Keyed.key r = k

/-- Insert a row at the end, unless its key is taken. -/
def insert? (t : Table ρ) (r : ρ) : Option (Table ρ) :=
  if h : Keyed.key r ∉ t.rows.map Keyed.key then
    some ⟨t.rows ++ [r], by
      rw [List.map_append, List.nodup_append]
      refine ⟨t.nodup, List.nodup_singleton _, ?_⟩
      intro a ha b hb hab
      rw [List.map_singleton, List.mem_singleton] at hb
      exact h (hb ▸ hab ▸ ha)⟩
  else none

/-- A lookup returns the row of the table that has the key. -/
theorem find?_eq_some {t : Table ρ} {k : κ} {r : ρ} :
    t.find? k = some r ↔ r ∈ t ∧ Keyed.key r = k := by
  constructor
  · intro h
    exact ⟨List.mem_of_find?_eq_some h, by simpa using List.find?_some h⟩
  · rintro ⟨hr, rfl⟩
    cases h : t.find? (Keyed.key r) with
    | none =>
      have hnone := List.find?_eq_none.mp h r hr
      simp at hnone
    | some r' =>
      have hkey : Keyed.key r' = Keyed.key r := by simpa using List.find?_some h
      rw [eq_of_key_eq (List.mem_of_find?_eq_some h) hr hkey]

/-- A lookup fails exactly when no row has the key. -/
theorem find?_eq_none {t : Table ρ} {k : κ} : t.find? k = none ↔ ∀ r ∈ t, Keyed.key r ≠ k := by
  rw [find?, List.find?_eq_none]
  exact forall₂_congr fun r _ => by simp

/-- Every row is found under its own key. -/
theorem find?_key {t : Table ρ} {r : ρ} (hr : r ∈ t) : t.find? (Keyed.key r) = some r :=
  find?_eq_some.mpr ⟨hr, rfl⟩

/-- A lookup in a modified table finds the old row, changed where the test holds. -/
theorem find?_modify {t : Table ρ} {p : ρ → Bool} {f : ρ → ρ} {hf} {k : κ} :
    (t.modify p f hf).find? k = (t.find? k).map fun r => if p r then f r else r := by
  cases h : t.find? k with
  | none =>
    rw [Option.map_none, find?_eq_none]
    intro r hr
    obtain ⟨r₀, hr₀, rfl⟩ := mem_modify.mp hr
    have hne := find?_eq_none.mp h r₀ hr₀
    by_cases hp : p r₀
    · simpa only [hp, if_true, hf] using hne
    · simpa [hp] using hne
  | some r =>
    obtain ⟨hr, hk⟩ := find?_eq_some.mp h
    rw [Option.map_some, find?_eq_some]
    refine ⟨mem_modify.mpr ⟨r, hr, rfl⟩, ?_⟩
    by_cases hp : p r
    · simpa only [hp, if_true, hf] using hk
    · simpa [hp] using hk

/-- A lookup among rows that were changed one by one, keeping every key, finds the old row changed. -/
theorem find?_of_rows_map {t t' : Table ρ} {f : ρ → ρ} (hf : ∀ r, Keyed.key (f r) = Keyed.key r)
    (h : t'.rows = t.rows.map f) (k : κ) : t'.find? k = (t.find? k).map f := by
  unfold find?
  rw [h, List.find?_map]
  congr 2
  funext r
  rw [Function.comp_apply, hf]

/-- An insertion succeeded on a fresh key and added exactly its row. -/
theorem insert?_eq_some {t t' : Table ρ} {r : ρ} (h : t.insert? r = some t') :
    (∀ r' ∈ t, Keyed.key r' ≠ Keyed.key r) ∧ t'.rows = t.rows ++ [r] := by
  unfold insert? at h
  split at h
  · next hfresh =>
    cases h
    refine ⟨fun r' hr' hk => hfresh ?_, rfl⟩
    exact hk ▸ List.mem_map_of_mem (f := Keyed.key) hr'
  · cases h

/-- An insertion fails on a key that is taken. -/
theorem insert?_eq_none {t : Table ρ} {r : ρ} (h : t.insert? r = none) :
    ∃ r' ∈ t, Keyed.key r' = Keyed.key r := by
  unfold insert? at h
  split at h
  · cases h
  · next htaken => exact List.mem_map.mp (not_not.mp htaken)

/-- The rows after an insertion are the new row and the old ones. -/
theorem mem_insert? {t t' : Table ρ} {r x : ρ} (h : t.insert? r = some t') :
    x ∈ t' ↔ x ∈ t ∨ x = r := by
  rw [← mem_rows, (insert?_eq_some h).2, List.mem_append, List.mem_singleton, mem_rows]

/-- Insert several rows, unless a key is taken or repeated. -/
def insertAll? : List ρ → Table ρ → Option (Table ρ)
  | [], t => some t
  | r :: rs, t => (t.insert? r).bind (insertAll? rs)

/-- An insertion changes no lookup but that of its own key. -/
theorem find?_insert? {t t' : Table ρ} {r : ρ} {k : κ} (h : t.insert? r = some t') :
    t'.find? k = if Keyed.key r = k then some r else t.find? k := by
  have hfresh := (insert?_eq_some h).1
  split
  · next hk => exact find?_eq_some.mpr ⟨(mem_insert? h).mpr (Or.inr rfl), hk⟩
  · next hk =>
    cases hf : t.find? k with
    | some x =>
      obtain ⟨hx, hxk⟩ := find?_eq_some.mp hf
      exact find?_eq_some.mpr ⟨(mem_insert? h).mpr (Or.inl hx), hxk⟩
    | none =>
      rw [find?_eq_none]
      intro x hx
      rcases (mem_insert? h).mp hx with hold | rfl
      · exact find?_eq_none.mp hf x hold
      · exact hk

end Lookup

/-- Two tables hold the same rows, possibly scanned in another order. -/
def SameRows (t t' : Table ρ) : Prop := t.rows.Perm t'.rows

/-- Reordering keeps membership. -/
theorem SameRows.mem_iff {t t' : Table ρ} (h : t.SameRows t') {r : ρ} : r ∈ t ↔ r ∈ t' :=
  List.Perm.mem_iff h

end Table

end Store
