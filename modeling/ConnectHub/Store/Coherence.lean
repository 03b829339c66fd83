import Mathlib.Logic.Function.Defs

/-!
# Caches of lookups

A cache keeps answers under the keys of the lookups that gave them, and serves an answer that still fits the
lookup. It is coherent if every answer it serves is one that the source gives. Where no two lookups share a key,
keeping an answer of the source, deleting keys, and changing the source keep it so, as long as a change deletes
the keys of the cached lookups whose answer it changes.
-/

namespace Store

variable {ι κ α : Type}

/-- A cache by the keys of its entries. -/
abbrev KeyedCache (κ α : Type) : Type := κ → Option α

/-- Keep an answer. -/
def KeyedCache.set [DecidableEq κ] (cache : KeyedCache κ α) (k : κ) (a : α) : KeyedCache κ α :=
  fun other => if other = k then some a else cache other

/-- Delete some keys. -/
def KeyedCache.drop (cache : KeyedCache κ α) (dropped : κ → Bool) : KeyedCache κ α :=
  fun k => if dropped k then none else cache k

/-- Every answer that is served for a lookup is one that the source gives. -/
def Coherent (key : ι → κ) (serves gives : ι → α → Prop) (cache : KeyedCache κ α) : Prop :=
  ∀ i a, cache (key i) = some a → serves i a → gives i a

variable {key : ι → κ} {serves gives gives' : ι → α → Prop} {cache : KeyedCache κ α}

/-- A cache after some keys were deleted holds only what it held. -/
theorem KeyedCache.drop_eq_some {dropped : κ → Bool} {k : κ} {a : α} :
    cache.drop dropped k = some a ↔ dropped k = false ∧ cache k = some a := by
  unfold KeyedCache.drop
  cases dropped k <;> simp

/-- An empty cache is coherent. -/
theorem Coherent.empty : Coherent key serves gives fun _ => none := nofun

/-- Keeping what the source gives keeps the cache coherent. -/
theorem Coherent.set [DecidableEq κ] (hkey : Function.Injective key) (h : Coherent key serves gives cache) {i : ι}
    {a : α} (hgives : gives i a) : Coherent key serves gives (cache.set (key i) a) := by
  intro j b hcached hserves
  unfold KeyedCache.set at hcached
  split at hcached
  · next hsame =>
    cases hcached
    rw [hkey hsame]
    exact hgives
  · exact h j b hcached hserves

/-- So does deleting keys, and so does a change of the source that deletes the key of every cached lookup it gives
another answer. -/
theorem Coherent.change {dropped : κ → Bool} (h : Coherent key serves gives cache)
    (hkept : ∀ i a, cache (key i) = some a → dropped (key i) = false → gives i a → gives' i a) :
    Coherent key serves gives' (cache.drop dropped) := by
  intro i a hcached hserves
  obtain ⟨hdropped, hcached⟩ := KeyedCache.drop_eq_some.mp hcached
  exact hkept i a hcached hdropped (h i a hcached hserves)

/-- Answers that the source gives for more reasons are given. -/
theorem Coherent.mono (h : Coherent key serves gives cache) (hgives : ∀ i a, gives i a → gives' i a) :
    Coherent key serves gives' cache := fun i a hcached hserves => hgives i a (h i a hcached hserves)

end Store
