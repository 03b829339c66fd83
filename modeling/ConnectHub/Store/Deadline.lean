import Mathlib.Data.Rat.Floor
import Mathlib.Tactic.Linarith

/-!
# Deadlines

Work may take a fixed time, of which a margin is kept back for its end. It may be stopped before, for a reason
that lasts, and asks for time before each call it makes. A call is granted whole milliseconds that end before
the margin begins, and nothing any more once the work was stopped.
-/

namespace Store

/-- How long some work may take, what of that is kept back for its end, and why the work was stopped, if it was. -/
structure Deadline (ρ : Type) where
  timeoutMs : ℚ
  finishMarginMs : ℚ
  reason : Option ρ := none
deriving DecidableEq, Repr

namespace Deadline

variable {ρ : Type} (deadline : Deadline ρ) (expiry : ρ)

/-- How much time is left. -/
def remainingMs (elapsed : ℚ) : ℚ := max 0 (deadline.timeoutMs - elapsed)

/-- Stop the work, unless it was stopped before. -/
def abort (reason : ρ) : Deadline ρ :=
  if deadline.reason.isSome then deadline else { deadline with reason := some reason }

/-- Whether the work may go on; it is stopped if no time is left. -/
def assertActive (elapsed : ℚ) : Deadline ρ × Except ρ Unit :=
  let checked := if deadline.reason.isNone ∧ deadline.remainingMs elapsed ≤ 0 then deadline.abort expiry else deadline
  (checked, match checked.reason with
    | some reason => .error reason
    | none => .ok ())

/-- The time that a call is granted. The clock is read when the work is checked and again when what is left is
computed. -/
def callTimeout (limitMs : ℤ) (checkedAt readAt : ℚ) : Deadline ρ × Except ρ ℤ :=
  match deadline.assertActive expiry checkedAt with
  | (checked, .error reason) => (checked, .error reason)
  | (checked, .ok ()) =>
    let available := (checked.remainingMs readAt - checked.finishMarginMs).floor
    if available ≤ 0 then
      match (checked.abort expiry).assertActive expiry readAt with
      | (stopped, .error reason) => (stopped, .error reason)
      | (stopped, .ok ()) => (stopped, .ok (min limitMs available))
    else (checked, .ok (min limitMs available))

/-- What any operation may do to a deadline: stop work that was not stopped. -/
structure Leads (before after : Deadline ρ) : Prop where
  timeoutMs : after.timeoutMs = before.timeoutMs
  finishMarginMs : after.finishMarginMs = before.finishMarginMs
  reason : ∀ reason, before.reason = some reason → after.reason = some reason

variable {deadline expiry} {before middle after : Deadline ρ}

/-- Nothing happens. -/
theorem Leads.refl (deadline : Deadline ρ) : deadline.Leads deadline := ⟨rfl, rfl, fun _ h => h⟩

/-- One operation follows another. -/
theorem Leads.trans (h₁ : before.Leads middle) (h₂ : middle.Leads after) : before.Leads after :=
  ⟨h₂.timeoutMs.trans h₁.timeoutMs, h₂.finishMarginMs.trans h₁.finishMarginMs,
    fun reason h => h₂.reason reason (h₁.reason reason h)⟩

/-- Work that is going on after some operations was going on before them. -/
theorem Leads.active (h : before.Leads after) (hactive : after.reason = none) : before.reason = none := by
  cases hreason : before.reason with
  | none => rfl
  | some reason =>
    rw [h.reason reason hreason] at hactive
    cases hactive

/-- Work is stopped by the first reason only. -/
theorem abort_leads (deadline : Deadline ρ) (reason : ρ) : deadline.Leads (deadline.abort reason) := by
  unfold abort
  cases hreason : deadline.reason with
  | none => exact ⟨rfl, rfl, fun _ h => absurd (hreason.symm.trans h) nofun⟩
  | some first =>
    rw [Option.isSome_some, if_pos rfl]
    exact Leads.refl deadline

/-- Work that is stopped stays stopped. -/
theorem abort_of_some {reason : ρ} (h : deadline.reason = some reason) (other : ρ) :
    deadline.abort other = deadline := by
  rw [abort, h, Option.isSome_some, if_pos rfl]

/-- Work that is going on is stopped. -/
theorem abort_of_none (h : deadline.reason = none) (reason : ρ) :
    deadline.abort reason = { deadline with reason := some reason } := by
  rw [abort, h, Option.isSome_none, if_neg Bool.false_ne_true]

/-- Work is stopped by its first reason, which is the given one if there was none before. -/
theorem abort_origin {reason first : ρ} (h : (deadline.abort reason).reason = some first) :
    deadline.reason = some first ∨ first = reason := by
  cases hreason : deadline.reason with
  | none =>
    rw [abort_of_none hreason] at h
    exact .inr (Option.some.inj h).symm
  | some found =>
    rw [abort_of_some hreason, hreason] at h
    exact .inl h

/-- Work that is stopped is so for a reason. -/
theorem abort_isSome (deadline : Deadline ρ) (reason : ρ) : (deadline.abort reason).reason.isSome = true := by
  cases h : deadline.reason with
  | none => rw [abort_of_none h, Option.isSome_some]
  | some first => rw [abort_of_some h, h, Option.isSome_some]

/-- Work that may go on was not stopped, and has time left. -/
theorem assertActive_ok {elapsed : ℚ} (h : (deadline.assertActive expiry elapsed).2 = .ok ()) :
    (deadline.assertActive expiry elapsed).1 = deadline ∧ deadline.reason = none ∧ elapsed < deadline.timeoutMs := by
  unfold assertActive at h ⊢
  by_cases hover : deadline.reason.isNone ∧ deadline.remainingMs elapsed ≤ 0
  · simp only [if_pos hover, abort_of_none (Option.isNone_iff_eq_none.mp hover.1)] at h
    cases h
  · simp only [if_neg hover] at h ⊢
    cases hreason : deadline.reason with
    | some reason =>
      rw [hreason] at h
      cases h
    | none =>
      refine ⟨trivial, rfl, ?_⟩
      by_contra hlate
      refine hover ⟨Option.isNone_iff_eq_none.mpr hreason, ?_⟩
      rw [remainingMs, max_eq_left (by linarith)]

/-- Work that may not go on is stopped, for the reason given. -/
theorem assertActive_error {elapsed : ℚ} {reason : ρ}
    (h : (deadline.assertActive expiry elapsed).2 = .error reason) :
    (deadline.assertActive expiry elapsed).1.reason = some reason := by
  unfold assertActive at h ⊢
  simp only at h ⊢
  split at h
  · rename_i found hfound
    rw [hfound, Except.error.inj h]
  · cases h

/-- A check stops work or leaves it. -/
theorem assertActive_leads (deadline : Deadline ρ) (expiry : ρ) (elapsed : ℚ) :
    deadline.Leads (deadline.assertActive expiry elapsed).1 := by
  unfold assertActive
  by_cases hover : deadline.reason.isNone ∧ deadline.remainingMs elapsed ≤ 0
  · simp only [if_pos hover]
    exact abort_leads deadline expiry
  · simp only [if_neg hover]
    exact Leads.refl deadline

/-- Work that was stopped may not go on, and is refused for that reason. -/
theorem assertActive_of_some {reason : ρ} (h : deadline.reason = some reason) (elapsed : ℚ) :
    deadline.assertActive expiry elapsed = (deadline, .error reason) := by
  have hnot : ¬(deadline.reason.isNone ∧ deadline.remainingMs elapsed ≤ 0) := by
    rw [h, Option.isNone_some]
    exact fun hover => Bool.false_ne_true hover.1
  unfold assertActive
  simp only [if_neg hnot]
  rw [h]

/-- Work is stopped by a check only because no time is left. -/
theorem assertActive_origin {elapsed : ℚ} {first : ρ}
    (h : (deadline.assertActive expiry elapsed).1.reason = some first) :
    deadline.reason = some first ∨ first = expiry := by
  unfold assertActive at h
  by_cases hover : deadline.reason.isNone ∧ deadline.remainingMs elapsed ≤ 0
  · simp only [if_pos hover] at h
    exact abort_origin h
  · simp only [if_neg hover] at h
    exact .inl h

/-- A call that is granted its time finds work that is going on, and leaves the deadline as it was. -/
theorem callTimeout_ok {limitMs granted : ℤ} {checkedAt readAt : ℚ}
    (h : (deadline.callTimeout expiry limitMs checkedAt readAt).2 = .ok granted) :
    (deadline.callTimeout expiry limitMs checkedAt readAt).1 = deadline ∧ deadline.reason = none ∧
      0 < (deadline.remainingMs readAt - deadline.finishMarginMs).floor ∧
      granted = min limitMs (deadline.remainingMs readAt - deadline.finishMarginMs).floor := by
  unfold callTimeout at h ⊢
  cases hactive : deadline.assertActive expiry checkedAt with
  | mk checked active =>
    cases active with
    | error reason =>
      rw [hactive] at h
      cases h
    | ok _ =>
      have hok := @assertActive_ok _ deadline expiry checkedAt (by rw [hactive])
      rw [hactive] at hok h
      obtain ⟨hsame, hnone, -⟩ := hok
      simp only at hsame h ⊢
      subst hsame
      by_cases hleft : (checked.remainingMs readAt - checked.finishMarginMs).floor ≤ 0
      · rw [if_pos hleft, abort_of_none hnone, assertActive_of_some rfl] at h
        cases h
      · rw [if_neg hleft] at h ⊢
        exact ⟨rfl, hnone, lt_of_not_ge hleft, (Except.ok.inj h).symm⟩

/-- What a call that is granted its time was granted: no more than its limit, and no more than what is left before
the margin. It has all of its limit exactly if that much is left. -/
structure Grants (deadline : Deadline ρ) (limitMs : ℤ) (readAt : ℚ) (granted : ℤ) : Prop where
  active : deadline.reason = none
  limit : granted ≤ limitMs
  positive : 1 ≤ limitMs → 1 ≤ granted
  within : readAt + granted ≤ deadline.timeoutMs - deadline.finishMarginMs
  full : granted = limitMs ↔ readAt + limitMs ≤ deadline.timeoutMs - deadline.finishMarginMs

/-- Every call is granted that. -/
theorem callTimeout_grants {limitMs granted : ℤ} {checkedAt readAt : ℚ} (hmargin : 0 ≤ deadline.finishMarginMs)
    (h : (deadline.callTimeout expiry limitMs checkedAt readAt).2 = .ok granted) :
    deadline.Grants limitMs readAt granted := by
  obtain ⟨-, hnone, hpositive, hgranted⟩ := callTimeout_ok h
  have hone : (1 : ℤ) ≤ (deadline.remainingMs readAt - deadline.finishMarginMs).floor := hpositive
  have hleft := Rat.le_floor_iff.mp hone
  push_cast at hleft
  have hopen : deadline.remainingMs readAt = deadline.timeoutMs - readAt := by
    unfold remainingMs at hleft ⊢
    rcases max_choice 0 (deadline.timeoutMs - readAt) with hmax | hmax
    · rw [hmax] at hleft
      linarith
    · exact hmax
  have hfloor := Rat.floor_le (deadline.remainingMs readAt - deadline.finishMarginMs)
  rw [hopen] at hgranted hone hfloor
  have hbelow : granted ≤ (deadline.timeoutMs - readAt - deadline.finishMarginMs).floor := by omega
  refine ⟨hnone, by omega, by omega, ?_, ?_⟩
  · have hle : (granted : ℚ) ≤ ((deadline.timeoutMs - readAt - deadline.finishMarginMs).floor : ℚ) := by
      exact_mod_cast hbelow
    linarith
  · have hiff : granted = limitMs ↔ limitMs ≤ (deadline.timeoutMs - readAt - deadline.finishMarginMs).floor := by
      omega
    rw [hiff, Rat.le_floor_iff]
    constructor <;> intro hle <;> linarith

/-- Work that is going on and has time left may go on. -/
theorem assertActive_of_none {elapsed : ℚ} (h : deadline.reason = none) (hleft : elapsed < deadline.timeoutMs) :
    deadline.assertActive expiry elapsed = (deadline, .ok ()) := by
  have hopen : deadline.remainingMs elapsed = deadline.timeoutMs - elapsed := max_eq_right (by linarith)
  have hnot : ¬(deadline.reason.isNone ∧ deadline.remainingMs elapsed ≤ 0) := by
    rintro ⟨-, hover⟩
    rw [hopen] at hover
    linarith
  unfold assertActive
  simp only [if_neg hnot]
  rw [h]

/-- A call that is asked for early enough is granted all of its limit. -/
theorem callTimeout_full {limitMs : ℤ} {checkedAt readAt : ℚ} (h : deadline.reason = none) (hpositive : 0 < limitMs)
    (hleft : checkedAt < deadline.timeoutMs)
    (hearly : readAt + limitMs ≤ deadline.timeoutMs - deadline.finishMarginMs) :
    (deadline.callTimeout expiry limitMs checkedAt readAt).2 = .ok limitMs := by
  have hremaining : deadline.timeoutMs - readAt ≤ deadline.remainingMs readAt := le_max_right _ _
  have hfloor : limitMs ≤ (deadline.remainingMs readAt - deadline.finishMarginMs).floor :=
    Rat.le_floor_iff.mpr (by linarith)
  rw [callTimeout, assertActive_of_none h hleft]
  simp only
  rw [if_neg (by omega), min_eq_left hfloor]

/-- A call that is refused leaves the work stopped, for the reason given. -/
theorem callTimeout_error {limitMs : ℤ} {checkedAt readAt : ℚ} {reason : ρ}
    (h : (deadline.callTimeout expiry limitMs checkedAt readAt).2 = .error reason) :
    (deadline.callTimeout expiry limitMs checkedAt readAt).1.reason = some reason := by
  unfold callTimeout at h ⊢
  cases hactive : deadline.assertActive expiry checkedAt with
  | mk checked active =>
    cases active with
    | error first =>
      have herror := @assertActive_error _ deadline expiry checkedAt first (by rw [hactive])
      rw [hactive] at herror h
      rw [← Except.error.inj h]
      exact herror
    | ok _ =>
      rw [hactive] at h
      simp only at h ⊢
      split at h
      · rename_i hleft
        rw [if_pos hleft]
        obtain ⟨first, hfirst⟩ := Option.isSome_iff_exists.mp (abort_isSome checked expiry)
        rw [assertActive_of_some hfirst] at h ⊢
        rw [← Except.error.inj h]
        exact hfirst
      · cases h

/-- Asking for time stops work or leaves it. -/
theorem callTimeout_leads (deadline : Deadline ρ) (expiry : ρ) (limitMs : ℤ) (checkedAt readAt : ℚ) :
    deadline.Leads (deadline.callTimeout expiry limitMs checkedAt readAt).1 := by
  have hchecked := assertActive_leads deadline expiry checkedAt
  unfold callTimeout
  cases hactive : deadline.assertActive expiry checkedAt with
  | mk checked active =>
    rw [hactive] at hchecked
    cases active with
    | error reason => exact hchecked
    | ok _ =>
      simp only
      split
      · obtain ⟨first, hfirst⟩ := Option.isSome_iff_exists.mp (abort_isSome checked expiry)
        rw [assertActive_of_some hfirst]
        exact hchecked.trans (abort_leads checked expiry)
      · exact hchecked

/-- Work that was stopped is granted no more time. -/
theorem callTimeout_of_some {reason : ρ} (h : deadline.reason = some reason) (limitMs : ℤ) (checkedAt readAt : ℚ) :
    deadline.callTimeout expiry limitMs checkedAt readAt = (deadline, .error reason) := by
  rw [callTimeout, assertActive_of_some h]

/-- Work is stopped by asking for time only because none is left. -/
theorem callTimeout_origin {limitMs : ℤ} {checkedAt readAt : ℚ} {first : ρ}
    (h : (deadline.callTimeout expiry limitMs checkedAt readAt).1.reason = some first) :
    deadline.reason = some first ∨ first = expiry := by
  unfold callTimeout at h
  cases hactive : deadline.assertActive expiry checkedAt with
  | mk checked active =>
    have hchecked := @assertActive_origin _ deadline expiry checkedAt first
    rw [hactive] at hchecked h
    cases active with
    | error reason => exact hchecked h
    | ok _ =>
      simp only at h
      split at h
      · obtain ⟨found, hfound⟩ := Option.isSome_iff_exists.mp (abort_isSome checked expiry)
        rw [assertActive_of_some hfound] at h
        rcases abort_origin h with hold | hnew
        · exact hchecked hold
        · exact .inr hnew
      · exact hchecked h

end Deadline

end Store
