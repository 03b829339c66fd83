import ConnectHub.Auth
import ConnectHub.ProvisioningRuns
import Mathlib.Data.Fintype.EquivFin

/-!
# Rotating an API key

A rotation drops the cached entry of the old key before it replaces the hash. A guard that looked the product
up under the old hash may keep it again in between, and then the old key is let through until that entry
expires. Whether it is, is decided by what is kept, and about to be kept, when the rotation returns.
-/

namespace ConnectHub

open Store

section Rotation

variable {hashSHA256 : String → String} {apiKey newApiKey : String} {hist : List AuthEvent}
  {shared shared' : AuthShared} {task : AuthTask} {e : AuthEvent} {next : Option AuthTask}
  {new : List AuthTask} {p q : Pool AuthShared AuthTask} {es fs : List AuthEvent} {id : Uuid}

/-- At most one product has the hash of the key, and none once it was rotated away. -/
structure AuthRight (hash : String) (hist : List AuthEvent) (shared : AuthShared) : Prop where
  single : ∀ product ∈ shared.products, ∀ other ∈ shared.products,
    product.apiKeyHash = hash → other.apiKeyHash = hash → product.id = other.id
  gone : ∀ id, .rotated id hash ∈ hist → ∀ product ∈ shared.products, product.apiKeyHash ≠ hash

/-- A rotation that has read the hash rotates the only product that may still have it. -/
def AuthTask.Owns (hash : String) (shared : AuthShared) : AuthTask → Prop
  | .invalidate id apiKeyHash | .replace id apiKeyHash => apiKeyHash = hash →
      ∀ product ∈ shared.products, product.apiKeyHash = hash → product.id = id
  | _ => True

/-- No product gets the hash that did not have it. -/
def AuthGuarantee (hash : String) (shared shared' : AuthShared) : Prop :=
  ∀ product ∈ shared'.products, product.apiKeyHash = hash →
    ∃ old ∈ shared.products, old.id = product.id ∧ old.apiKeyHash = hash

/-- A step that is not observed is not the end of a rotation. -/
theorem silent_ne_rotated (hash : String) (id : Uuid) : AuthEvent.silent ≠ .rotated id hash := by
  intro h
  cases h

/-- Where nothing was edited, no product gets the hash. -/
theorem AuthGuarantee.refl {hash : String} (hproducts : shared'.products = shared.products) :
    AuthGuarantee hash shared shared' := by
  intro product hproduct hhash
  rw [hproducts] at hproduct
  exact ⟨product, hproduct, rfl, hhash⟩

/-- The guarantee keeps what holds of the products, as long as no rotation of the hash returns. -/
theorem AuthGuarantee.right {hash : String} (hguarantee : AuthGuarantee hash shared shared')
    (hright : AuthRight hash hist shared) (he : ∀ id, e ≠ .rotated id hash) :
    AuthRight hash (hist ++ [e]) shared' := by
  refine ⟨fun product hproduct other hother hhash hhash' => ?_, fun id hid product hproduct hhash => ?_⟩
  · obtain ⟨old, hold, hid, holdHash⟩ := hguarantee product hproduct hhash
    obtain ⟨old', hold', hid', holdHash'⟩ := hguarantee other hother hhash'
    rw [← hid, ← hid']
    exact hright.single old hold old' hold' holdHash holdHash'
  · obtain ⟨old, hold, -, holdHash⟩ := hguarantee product hproduct hhash
    rcases List.mem_append.mp hid with hid | hid
    · exact hright.gone id hid old hold holdHash
    · exact he id (List.mem_singleton.mp hid).symm

/-- What a rotation knows of the products survives the others. -/
theorem AuthTask.Owns.stable {hash : String} (h : task.Owns hash shared)
    (hguarantee : AuthGuarantee hash shared shared') : task.Owns hash shared' := by
  cases task with
  | invalidate id apiKeyHash | replace id apiKeyHash =>
    intro hold product hproduct hhash
    obtain ⟨old, holdMem, hid, holdHash⟩ := hguarantee product hproduct hhash
    rw [← hid]
    exact h hold old holdMem holdHash
  | _ => trivial

/-- Every task but the replacement of a hash leaves the products alone, and no rotation returns from it. -/
theorem AuthTask.run_kept (h : ∀ id apiKeyHash, task ≠ .replace id apiKeyHash) :
    (task.run hashSHA256 newApiKey shared).2.1.products = shared.products ∧
      ∀ id apiKeyHash, (task.run hashSHA256 newApiKey shared).1 ≠ .rotated id apiKeyHash := by
  cases task with
  | replace id apiKeyHash => exact absurd rfl (h id apiKeyHash)
  | found | invalidate =>
    constructor
    · rfl
    · intro id apiKeyHash he
      cases he
  | canActivate call presented =>
    simp only [AuthTask.run]
    split
    · simp
    · split <;> simp
  | missed | known | rotateKey =>
    simp only [AuthTask.run]
    split <;> simp

/-- A product that has a hash after another was replaced by a fresh one had it before, and is not the product
whose hash was replaced. -/
theorem mem_replaced {hash : String} {product : Product} (fresh : hashSHA256 newApiKey ≠ hash)
    (hproduct : product ∈ shared.products.modify (fun row => row.id = id)
      ({ · with apiKeyHash := hashSHA256 newApiKey }))
    (hhash : product.apiKeyHash = hash) :
    product ∈ shared.products ∧ product.id ≠ id := by
  obtain ⟨old, hold, hnew⟩ := Table.mem_modify.mp hproduct
  split at hnew
  · rw [← hnew] at hhash
    exact absurd hhash fresh
  · next hother =>
    rw [← hnew]
    exact ⟨hold, of_decide_eq_false (Bool.eq_false_iff.mpr hother)⟩

/-- What a task knows of whom it rotates, it knows in its next phase. -/
theorem AuthTask.Owns.goes_on {hash : String} (hright : AuthRight hash hist shared)
    (howns : task.Owns hash shared)
    (hproducts : (task.run hashSHA256 newApiKey shared).2.1.products = shared.products) :
    ∀ t ∈ (task.run hashSHA256 newApiKey shared).2.2,
      t.Owns hash (task.run hashSHA256 newApiKey shared).2.1 := by
  intro t ht
  refine AuthTask.Owns.stable ?_ (.refl hproducts)
  cases task with
  | rotateKey id =>
    simp only [AuthTask.run] at ht
    split at ht
    · next product hfound =>
      obtain ⟨hproduct, hid⟩ := Table.find?_eq_some.mp hfound
      obtain rfl := Option.some.inj ht
      intro hhash other hother hotherHash
      rw [← hid]
      exact hright.single other hother product hproduct hotherHash hhash
    · cases ht
  | invalidate id apiKeyHash =>
    obtain rfl := Option.some.inj ht
    exact howns
  | found call presented payload =>
    obtain rfl := Option.some.inj ht
    trivial
  | canActivate call presented =>
    simp only [AuthTask.run] at ht
    split at ht
    · cases ht
    · split at ht
      · obtain rfl := Option.some.inj ht
        trivial
      · obtain rfl := Option.some.inj ht
        trivial
  | missed call presented =>
    simp only [AuthTask.run] at ht
    split at ht
    · obtain rfl := Option.some.inj ht
      trivial
    · cases ht
  | known call presented payload =>
    simp only [AuthTask.run] at ht
    split at ht <;> cases ht
  | replace id apiKeyHash =>
    simp only [AuthTask.run] at ht
    split at ht <;> cases ht

/-- A task that does not replace the hash of a product leaves the products alone, and no rotation returns. -/
theorem AuthTask.run_idle (h : ¬∃ id apiKeyHash, task = .replace id apiKeyHash ∧
      (shared.products.find? id).isSome = true) :
    (task.run hashSHA256 newApiKey shared).2.1.products = shared.products ∧
      ∀ id apiKeyHash, (task.run hashSHA256 newApiKey shared).1 ≠ .rotated id apiKeyHash := by
  by_cases hreplace : ∃ id apiKeyHash, task = .replace id apiKeyHash
  · obtain ⟨id, apiKeyHash, rfl⟩ := hreplace
    have hmissing : (shared.products.find? id).isSome ≠ true := fun hfound =>
      h ⟨id, apiKeyHash, rfl, hfound⟩
    simp [AuthTask.run, hmissing]
  · exact AuthTask.run_kept fun id apiKeyHash htask => hreplace ⟨id, apiKeyHash, htask⟩

/-- No statement gives a product the hash. -/
theorem AuthStatement.guarantee (h : AuthStatement hashSHA256 apiKey shared task e shared' next) :
    AuthGuarantee (hashSHA256 apiKey) shared shared' := by
  cases h with
  | ran newApiKey fresh =>
    by_cases hreplaces : ∃ id apiKeyHash, task = .replace id apiKeyHash ∧
        (shared.products.find? id).isSome = true
    · obtain ⟨id, apiKeyHash, rfl, hfound⟩ := hreplaces
      simp only [AuthTask.run, hfound, if_true]
      intro product hproduct hhash
      exact ⟨product, (mem_replaced fresh hproduct hhash).1, rfl, hhash⟩
    · exact .refl (AuthTask.run_idle hreplaces).1

/-- Nothing else gives a product the hash either. -/
theorem AuthMove.guarantee (h : AuthMove hashSHA256 apiKey shared e shared' new) :
    AuthGuarantee (hashSHA256 apiKey) shared shared' := by
  cases h with
  | called | rotates => exact .refl rfl
  | elsewhere cache products => exact products

/-- A statement keeps what holds of the products and gives the hash to none; a task goes on knowing whom it
rotates. -/
theorem AuthStatement.right (h : AuthStatement hashSHA256 apiKey shared task e shared' next)
    (hright : AuthRight (hashSHA256 apiKey) hist shared) (howns : task.Owns (hashSHA256 apiKey) shared) :
    AuthRight (hashSHA256 apiKey) (hist ++ [e]) shared' ∧
      AuthGuarantee (hashSHA256 apiKey) shared shared' ∧
      ∀ t ∈ next, t.Owns (hashSHA256 apiKey) shared' := by
  have hguarantee := h.guarantee
  cases h with
  | ran newApiKey fresh =>
    by_cases hreplaces : ∃ id apiKeyHash, task = .replace id apiKeyHash ∧
        (shared.products.find? id).isSome = true
    · obtain ⟨id, apiKeyHash, rfl, hfound⟩ := hreplaces
      simp only [AuthTask.run, hfound, if_true] at hguarantee ⊢
      refine ⟨⟨?_, ?_⟩, hguarantee, fun t ht => by cases ht⟩
      · intro product hproduct other hother hhash hhash'
        exact hright.single product (mem_replaced fresh hproduct hhash).1 other
          (mem_replaced fresh hother hhash').1 hhash hhash'
      · intro rotated hrotated product hproduct hhash
        obtain ⟨hold, hid⟩ := mem_replaced fresh hproduct hhash
        rcases List.mem_append.mp hrotated with hrotated | hrotated
        · exact hright.gone rotated hrotated product hold hhash
        · obtain ⟨-, hsame⟩ := AuthEvent.rotated.inj (List.mem_singleton.mp hrotated)
          exact hid (howns hsame.symm product hold hhash)
    · obtain ⟨hproducts, hsilent⟩ := AuthTask.run_idle hreplaces
      exact ⟨hguarantee.right hright fun id => hsilent id _, hguarantee,
        AuthTask.Owns.goes_on hright howns hproducts⟩

/-- What happens besides keeps what holds of the products and gives the hash to none. -/
theorem AuthMove.right (h : AuthMove hashSHA256 apiKey shared e shared' new)
    (hright : AuthRight (hashSHA256 apiKey) hist shared) :
    AuthRight (hashSHA256 apiKey) (hist ++ [e]) shared' ∧
      AuthGuarantee (hashSHA256 apiKey) shared shared' ∧
      ∀ t ∈ new, t.Owns (hashSHA256 apiKey) shared' := by
  have hguarantee := h.guarantee
  cases h with
  | called call presented =>
    refine ⟨hguarantee.right hright (silent_ne_rotated _), hguarantee, fun t ht => ?_⟩
    rw [List.mem_singleton.mp ht]
    trivial
  | rotates id =>
    refine ⟨hguarantee.right hright (silent_ne_rotated _), hguarantee, fun t ht => ?_⟩
    rw [List.mem_singleton.mp ht]
    trivial
  | elsewhere cache products =>
    exact ⟨hguarantee.right hright (silent_ne_rotated _), hguarantee, fun t ht => by cases ht⟩

/-- Guards and rotations keep what holds of the products. -/
theorem rotationDiscipline : Discipline (AuthStatement hashSHA256 apiKey) (AuthMove hashSHA256 apiKey) .silent
    (AuthRight (hashSHA256 apiKey)) (fun _ shared task => task.Owns (hashSHA256 apiKey) shared)
    (fun _ shared _ shared' => AuthGuarantee (hashSHA256 apiKey) shared shared') where
  statement_ok := fun hright howns h => h.right hright howns
  environment_ok := fun hright h => h.right hright
  lost_ok := fun hright =>
    ⟨AuthGuarantee.right (.refl rfl) hright (silent_ne_rotated _), .refl rfl⟩
  stable := fun howns hguarantee => howns.stable hguarantee

/-- Once a rotation of the hash returned, no product has it. -/
theorem gone_of_rotated (hunique : ∀ product ∈ p.shared.products, ∀ other ∈ p.shared.products,
      product.apiKeyHash = other.apiKeyHash → product.id = other.id)
    (hstart : p.tasks = [])
    (h : Run (AuthStep hashSHA256 apiKey) p (es ++ [.rotated id (hashSHA256 apiKey)]) q) :
    ∀ product ∈ q.shared.products, product.apiKeyHash ≠ hashSHA256 apiKey := by
  have hright : AuthRight (hashSHA256 apiKey) [] p.shared :=
    ⟨fun product hproduct other hother hhash hhash' =>
      hunique product hproduct other hother (hhash.trans hhash'.symm), fun id hid => by cases hid⟩
  have htasks : ∀ task ∈ p.tasks, task.Owns (hashSHA256 apiKey) p.shared := by
    intro task htask
    rw [hstart] at htask
    cases htask
  have hend := (h.right rotationDiscipline ⟨hright, htasks⟩).1
  exact hend.gone id (List.mem_append_right _ (List.mem_append_right _ List.mem_cons_self))

/-- Where a rotation returned, it drew a key with another hash. -/
theorem exists_fresh_of_rotated {hash : String}
    (h : Run (AuthStep hashSHA256 apiKey) p (es ++ [.rotated id hash]) q) :
    ∃ newApiKey, hashSHA256 newApiKey ≠ hashSHA256 apiKey := by
  obtain ⟨_, _, -, hstep, -⟩ := h.exists_step
  generalize hevent : AuthEvent.rotated id hash = e at hstep
  cases hstep with
  | ran position run =>
    cases run with
    | ran newApiKey fresh => exact ⟨newApiKey, fresh⟩
  | came move => cases move <;> cases hevent
  | lost position => cases hevent

/-- Nothing under the hash of a key lets a request through: no entry of an active product is kept, and no guard
is about to keep one. -/
structure AuthWithdrawn (hashSHA256 : String → String) (apiKey : String)
    (p : Pool AuthShared AuthTask) : Prop where
  kept : ∀ payload, p.shared.cache (hashSHA256 apiKey) = some payload → payload.isActive = false
  found : ∀ call presented payload, .found call presented payload ∈ p.tasks →
    hashSHA256 presented = hashSHA256 apiKey → payload.isActive = false

/-- A key that is withdrawn was not accepted from a call. -/
structure AuthRejected (hash : String) (apiKey : String) (call : Nat) (hist : List AuthEvent)
    (shared : AuthShared) : Prop where
  gone : ∀ product ∈ shared.products, product.apiKeyHash ≠ hash
  kept : ∀ payload, shared.cache hash = some payload → payload.isActive = false
  rejected : ∀ payload, .accepted call apiKey payload ∉ hist

/-- A guard found nothing under the hash that is active, and the call in question knows of nothing active. -/
def AuthTask.Rejects (hashSHA256 : String → String) (apiKey : String) (call : Nat) : AuthTask → Prop
  | .found _ presented payload => hashSHA256 presented = hashSHA256 apiKey → payload.isActive = false
  | .known called presented payload => called = call → presented = apiKey → payload.isActive = false
  | _ => True

/-- Where nothing is let through, what holds of a withdrawn key goes on to hold. -/
theorem AuthRejected.goes_on {hash : String} {call : Nat} (h : AuthRejected hash apiKey call hist shared)
    (hguarantee : AuthGuarantee hash shared shared')
    (hkept : ∀ payload, shared'.cache hash = some payload → payload.isActive = false)
    (he : ∀ payload, e ≠ .accepted call apiKey payload) :
    AuthRejected hash apiKey call (hist ++ [e]) shared' := by
  refine ⟨fun product hproduct hhash => ?_, hkept, fun payload hmem => ?_⟩
  · obtain ⟨old, hold, -, holdHash⟩ := hguarantee product hproduct hhash
    exact h.gone old hold holdHash
  · rcases List.mem_append.mp hmem with hmem | hmem
    · exact h.rejected payload hmem
    · exact he payload (List.mem_singleton.mp hmem).symm

/-- Once a key is withdrawn, a statement neither keeps anything active under its hash nor lets the call in
question through. -/
theorem AuthStatement.rejected {call : Nat} (h : AuthStatement hashSHA256 apiKey shared task e shared' next)
    (hrejected : AuthRejected (hashSHA256 apiKey) apiKey call hist shared)
    (hrejects : task.Rejects hashSHA256 apiKey call) :
    AuthRejected (hashSHA256 apiKey) apiKey call (hist ++ [e]) shared' ∧
      ∀ t ∈ next, t.Rejects hashSHA256 apiKey call := by
  have hguarantee := h.guarantee
  cases h with
  | ran newApiKey fresh =>
    cases task with
    | canActivate called presented =>
      simp only [AuthTask.run] at hguarantee ⊢
      split
      · exact ⟨hrejected.goes_on (.refl rfl) hrejected.kept (by simp), by simp⟩
      · split
        · next payload hkept =>
          refine ⟨hrejected.goes_on (.refl rfl) hrejected.kept (by simp), fun t ht => ?_⟩
          obtain rfl := Option.some.inj ht
          intro _ hpresented
          rw [hpresented] at hkept
          exact hrejected.kept payload hkept
        · refine ⟨hrejected.goes_on (.refl rfl) hrejected.kept (by simp), fun t ht => ?_⟩
          obtain rfl := Option.some.inj ht
          trivial
    | missed called presented =>
      simp only [AuthTask.run] at hguarantee ⊢
      split
      · next product hproduct =>
        refine ⟨hrejected.goes_on (.refl rfl) hrejected.kept (by simp), fun t ht => ?_⟩
        obtain rfl := Option.some.inj ht
        intro hpresented
        have hhash : product.apiKeyHash = hashSHA256 presented := by
          simpa using List.find?_some hproduct
        exact absurd (hhash.trans hpresented) (hrejected.gone product (List.mem_of_find?_eq_some hproduct))
      · exact ⟨hrejected.goes_on (.refl rfl) hrejected.kept (by simp), by simp⟩
    | found called presented payload =>
      refine ⟨hrejected.goes_on hguarantee (fun kept hkept => ?_) (by simp [AuthTask.run]), fun t ht => ?_⟩
      · simp only [AuthTask.run, AuthShared.setWithTTL, Function.update_apply] at hkept
        split at hkept
        · next hhash =>
          obtain rfl := Option.some.inj hkept
          exact hrejects hhash.symm
        · exact hrejected.kept kept hkept
      · obtain rfl := Option.some.inj ht
        intro _ hpresented
        exact hrejects (congrArg hashSHA256 hpresented)
    | known called presented payload =>
      simp only [AuthTask.run] at hguarantee ⊢
      split
      · next hactive =>
        refine ⟨hrejected.goes_on (.refl rfl) hrejected.kept fun payload' he => ?_, by simp⟩
        obtain ⟨hcall, hpresented, -⟩ := AuthEvent.accepted.inj he
        rw [hrejects hcall hpresented] at hactive
        cases hactive
      · exact ⟨hrejected.goes_on (.refl rfl) hrejected.kept (by simp), by simp⟩
    | rotateKey id =>
      simp only [AuthTask.run] at hguarantee ⊢
      split
      · refine ⟨hrejected.goes_on (.refl rfl) hrejected.kept (by simp), fun t ht => ?_⟩
        obtain rfl := Option.some.inj ht
        trivial
      · exact ⟨hrejected.goes_on (.refl rfl) hrejected.kept (by simp), by simp⟩
    | invalidate id apiKeyHash =>
      refine ⟨hrejected.goes_on hguarantee (fun kept hkept => ?_) (by simp [AuthTask.run]), fun t ht => ?_⟩
      · simp only [AuthTask.run, AuthShared.del, Function.update_apply] at hkept
        split at hkept
        · cases hkept
        · exact hrejected.kept kept hkept
      · obtain rfl := Option.some.inj ht
        trivial
    | replace id apiKeyHash =>
      simp only [AuthTask.run] at hguarantee ⊢
      split
      · next hfound =>
        rw [if_pos hfound] at hguarantee
        exact ⟨hrejected.goes_on hguarantee hrejected.kept (by simp), by simp⟩
      · exact ⟨hrejected.goes_on (.refl rfl) hrejected.kept (by simp), by simp⟩

/-- Once a key is withdrawn, nothing else keeps anything under its hash either. -/
theorem AuthMove.rejected {call : Nat} (h : AuthMove hashSHA256 apiKey shared e shared' new)
    (hrejected : AuthRejected (hashSHA256 apiKey) apiKey call hist shared) :
    AuthRejected (hashSHA256 apiKey) apiKey call (hist ++ [e]) shared' ∧
      ∀ t ∈ new, t.Rejects hashSHA256 apiKey call := by
  have hguarantee := h.guarantee
  cases h with
  | called called presented =>
    refine ⟨hrejected.goes_on hguarantee hrejected.kept (by simp), fun t ht => ?_⟩
    rw [List.mem_singleton.mp ht]
    trivial
  | rotates id =>
    refine ⟨hrejected.goes_on hguarantee hrejected.kept (by simp), fun t ht => ?_⟩
    rw [List.mem_singleton.mp ht]
    trivial
  | elsewhere cache products =>
    refine ⟨hrejected.goes_on hguarantee (fun payload hkept => ?_) (by simp), by simp⟩
    rcases cache (hashSHA256 apiKey) with hsame | hnone
    · rw [hsame] at hkept
      exact hrejected.kept payload hkept
    · rw [hnone] at hkept
      cases hkept

/-- Guards and rotations let no later call with a withdrawn key through. -/
theorem rejectionDiscipline (call : Nat) : Discipline (AuthStatement hashSHA256 apiKey)
    (AuthMove hashSHA256 apiKey) .silent (AuthRejected (hashSHA256 apiKey) apiKey call)
    (fun _ _ task => task.Rejects hashSHA256 apiKey call) (fun _ _ _ _ => True) where
  statement_ok := fun hrejected hrejects h =>
    ⟨(h.rejected hrejected hrejects).1, trivial, (h.rejected hrejected hrejects).2⟩
  environment_ok := fun hrejected h => ⟨(h.rejected hrejected).1, trivial, (h.rejected hrejected).2⟩
  lost_ok := fun hrejected => ⟨hrejected.goes_on (.refl rfl) hrejected.kept (by simp), trivial⟩
  stable := fun hrejects _ => hrejects

/-- A call with a withdrawn key that starts later is not let through. -/
theorem AuthWithdrawn.rejected {call : Nat} {payload : AuthCachePayload}
    (hwithdrawn : AuthWithdrawn hashSHA256 apiKey p)
    (hgone : ∀ product ∈ p.shared.products, product.apiKeyHash ≠ hashSHA256 apiKey)
    (hlater : ∀ task ∈ p.tasks, task.call? ≠ some call)
    (h : Run (AuthStep hashSHA256 apiKey) p es q) : .accepted call apiKey payload ∉ es := by
  have hstart : p.Right (AuthRejected (hashSHA256 apiKey) apiKey call)
      (fun _ _ task => task.Rejects hashSHA256 apiKey call) [] := by
    refine ⟨⟨hgone, hwithdrawn.kept, by simp⟩, fun task htask => ?_⟩
    cases task with
    | found called presented payload => exact hwithdrawn.found called presented payload htask
    | known called presented payload =>
      intro hcall
      exact absurd (congrArg some hcall) (hlater _ htask)
    | _ => trivial
  exact (h.right (rejectionDiscipline call) hstart).1.rejected payload

/-- Where something active is kept under the hash of a key, a later call with that key is let through. -/
theorem accepted_of_kept (call : Nat) {payload : AuthCachePayload}
    (hfresh : hashSHA256 newApiKey ≠ hashSHA256 apiKey) (hkey : apiKey ≠ "")
    (hkept : p.shared.cache (hashSHA256 apiKey) = some payload) (hactive : payload.isActive = true) :
    ∃ t, Run (AuthStep hashSHA256 apiKey) p [.silent, .silent, .accepted call apiKey payload] t := by
  have hcalled : AuthStep hashSHA256 apiKey p .silent ⟨p.shared, [.canActivate call apiKey] ++ p.tasks⟩ :=
    .came (.called call apiKey)
  have hknown : AuthStep hashSHA256 apiKey ⟨p.shared, [.canActivate call apiKey] ++ p.tasks⟩ .silent
      ⟨p.shared, .known call apiKey payload :: p.tasks⟩ := by
    have hrun : AuthStatement hashSHA256 apiKey p.shared (.canActivate call apiKey) _ _ _ :=
      .ran newApiKey hfresh
    simp only [AuthTask.run, hkey, if_false, hkept] at hrun
    have htasks : (⟨p.shared, [.canActivate call apiKey] ++ p.tasks⟩ : Pool AuthShared AuthTask).tasks =
      .canActivate call apiKey :: p.tasks := rfl
    exact PoolStep.first htasks hrun
  have haccepted : AuthStep hashSHA256 apiKey ⟨p.shared, .known call apiKey payload :: p.tasks⟩
      (.accepted call apiKey payload) ⟨p.shared, p.tasks⟩ := by
    have hrun : AuthStatement hashSHA256 apiKey p.shared (.known call apiKey payload) _ _ _ :=
      .ran newApiKey hfresh
    simp only [AuthTask.run, hactive, if_true] at hrun
    have htasks : (⟨p.shared, .known call apiKey payload :: p.tasks⟩ : Pool AuthShared AuthTask).tasks =
      .known call apiKey payload :: p.tasks := rfl
    exact PoolStep.first htasks hrun
  exact ⟨_, .cons hcalled (.cons hknown (.single haccepted))⟩

/-- After a rotation returned, its old key is let through from no later call if and only if, as it returned,
no entry of an active product was kept under the old hash, and no guard was about to keep one. -/
theorem rotated_key_rejected_iff (hkey : apiKey ≠ "")
    (hunique : ∀ product ∈ p.shared.products, ∀ other ∈ p.shared.products,
      product.apiKeyHash = other.apiKeyHash → product.id = other.id)
    (hstart : p.tasks = [])
    (h : Run (AuthStep hashSHA256 apiKey) p (es ++ [.rotated id (hashSHA256 apiKey)]) q) :
    (∀ fs t, Run (AuthStep hashSHA256 apiKey) q fs t →
        ∀ call, (∀ task ∈ q.tasks, task.call? ≠ some call) →
          ∀ payload, .accepted call apiKey payload ∉ fs) ↔ AuthWithdrawn hashSHA256 apiKey q := by
  obtain ⟨newApiKey, hfresh⟩ := exists_fresh_of_rotated h
  constructor
  · intro hrejected
    obtain ⟨call, hcall⟩ := Infinite.exists_notMem_finset (q.tasks.filterMap (·.call?)).toFinset
    have hlater : ∀ task ∈ q.tasks, task.call? ≠ some call := by
      intro task htask hsome
      exact hcall (List.mem_toFinset.mpr (List.mem_filterMap.mpr ⟨task, htask, hsome⟩))
    refine ⟨fun payload hkept => ?_, fun called presented payload hfound hhash => ?_⟩
    · by_contra hactive
      obtain ⟨t, hrun⟩ := accepted_of_kept call hfresh hkey hkept (Bool.not_eq_false _ ▸ hactive)
      exact hrejected _ t hrun call hlater payload (by simp)
    · by_contra hactive
      obtain ⟨before, after, position⟩ := List.append_of_mem hfound
      have hkeeps : AuthStatement hashSHA256 apiKey q.shared (.found called presented payload) _ _ _ :=
        .ran newApiKey hfresh
      obtain ⟨t, hrun⟩ := accepted_of_kept call
        (p := ⟨q.shared.setWithTTL (hashSHA256 presented) payload,
          before ++ ([.known called presented payload] ++ after)⟩) hfresh hkey
        (by simp [AuthShared.setWithTTL, hhash]) (Bool.not_eq_false _ ▸ hactive)
      exact hrejected _ t (.cons (.ran position hkeeps) hrun) call hlater payload (by simp)
  · intro hwithdrawn fs t hrun call hlater payload
    exact hwithdrawn.rejected (gone_of_rotated hunique hstart h) hlater hrun

end Rotation

/-- The digests of two keys. -/
def smallSHA256 (key : String) : String :=
  if key = "old-key" then "762c08fc17a1cc5f00d248f8b50f2f2f4d17ff2934ac31e64deacb3f5bb3f2ec"
  else if key = "new-key" then "479a61d5370a0351ad498a8f324e0f9ad50bfafbe4c044ea49cbe3981e8cb573"
  else ""

/-- A product with the old key, which nobody has presented lately. -/
def smallAuth : Pool AuthShared AuthTask where
  shared :=
    { cache := fun _ => none
      products := ⟨[{ smallProduct with apiKeyHash := smallSHA256 "old-key" }], by decide⟩ }
  tasks := []

/-- The first task under way takes its next step. -/
theorem smallStep (p : Pool AuthShared AuthTask) (task : AuthTask) (rest : List AuthTask)
    (h : p.tasks = task :: rest) :
    AuthStep smallSHA256 "old-key" p (task.run smallSHA256 "new-key" p.shared).1
      ⟨(task.run smallSHA256 "new-key" p.shared).2.1,
        (task.run smallSHA256 "new-key" p.shared).2.2.toList ++ rest⟩ :=
  PoolStep.first h (.ran "new-key" (by decide))

/-- The task behind the first one takes its next step. -/
theorem smallStepBehind (p : Pool AuthShared AuthTask) (first task : AuthTask) (rest : List AuthTask)
    (h : p.tasks = first :: task :: rest) :
    AuthStep smallSHA256 "old-key" p (task.run smallSHA256 "new-key" p.shared).1
      ⟨(task.run smallSHA256 "new-key" p.shared).2.1,
        [first] ++ ((task.run smallSHA256 "new-key" p.shared).2.2.toList ++ rest)⟩ :=
  .ran h (.ran "new-key" (by decide))

/-- Where the only guard that is under way kept the product before its entry was dropped, the old key is rejected
once the rotation returned, but for the call of that guard. -/
theorem rotated_key_rejected_iff_small : ∃ es q,
    Run (AuthStep smallSHA256 "old-key") smallAuth
      (es ++ [.rotated smallProduct.id (smallSHA256 "old-key")]) q ∧
    q.tasks.map (·.call?) = [some 0] ∧
    ∀ fs t, Run (AuthStep smallSHA256 "old-key") q fs t →
      ∀ call, call ≠ 0 → ∀ payload, .accepted call "old-key" payload ∉ fs := by
  have hsteps := Run.cons (show AuthStep smallSHA256 "old-key" smallAuth .silent _ from
    PoolStep.came (.called 0 "old-key")) <| .cons (smallStep _ _ _ rfl) <| .cons (smallStep _ _ _ rfl) <|
    .cons (.came (.rotates smallProduct.id)) <| .cons (smallStep _ _ _ rfl) <|
    .cons (smallStepBehind _ _ _ _ rfl) <| .cons (smallStep _ _ _ rfl) <| .single (smallStep _ _ _ rfl)
  have hrun : Run (AuthStep smallSHA256 "old-key") smallAuth
    (List.replicate 7 .silent ++ [.rotated smallProduct.id (smallSHA256 "old-key")]) _ := hsteps
  have hwithdrawn := (rotated_key_rejected_iff (by decide) ?_ rfl hrun).mpr ⟨?_, ?_⟩
  · refine ⟨_, _, hrun, rfl, fun fs t hlater call hcall => hwithdrawn fs t hlater call fun task htask => ?_⟩
    rw [List.mem_singleton.mp htask]
    exact fun hsame => hcall (Option.some.inj hsame).symm
  · intro product hproduct other hother _
    rw [List.mem_singleton.mp hproduct, List.mem_singleton.mp hother]
  · intro payload hkept
    cases hkept
  · intro call presented payload hfound
    cases List.mem_singleton.mp hfound

/-- Where a guard looks the product up after its entry was dropped and before its hash is replaced, the old key
is let through from a call that starts after the rotation returned. -/
theorem rotated_key_accepted : ∃ es fs q t payload,
    Run (AuthStep smallSHA256 "old-key") smallAuth
      (es ++ [.rotated smallProduct.id (smallSHA256 "old-key")]) q ∧
    Run (AuthStep smallSHA256 "old-key") q fs t ∧ (∀ task ∈ q.tasks, task.call? ≠ some 1) ∧
    .accepted 1 "old-key" payload ∈ fs := by
  have hsteps := Run.cons (show AuthStep smallSHA256 "old-key" smallAuth .silent _ from
    PoolStep.came (.rotates smallProduct.id)) <| .cons (smallStep _ _ _ rfl) <|
    .cons (smallStep _ _ _ rfl) <| .cons (.came (.called 0 "old-key")) <| .cons (smallStep _ _ _ rfl) <|
    .cons (smallStep _ _ _ rfl) <| .cons (smallStep _ _ _ rfl) <| .cons (smallStep _ _ _ rfl) <|
    .single (smallStep _ _ _ rfl)
  have hrotated : Run (AuthStep smallSHA256 "old-key") smallAuth
      ([.silent, .silent, .silent, .silent, .silent, .silent, .silent,
        .accepted 0 "old-key" (smallProduct.authPayload (smallSHA256 "old-key"))] ++
        [.rotated smallProduct.id (smallSHA256 "old-key")]) _ := hsteps
  refine ⟨_, _, _, _, smallProduct.authPayload (smallSHA256 "old-key"), hrotated,
    .cons (.came (.called 1 "old-key")) <| .cons (smallStep _ _ _ rfl) <| .single (smallStep _ _ _ rfl),
    ?_, ?_⟩
  · intro task htask
    cases htask
  · exact List.mem_cons_of_mem _ (List.mem_cons_of_mem _ List.mem_cons_self)

end ConnectHub
