import ConnectHub.Store.Pool
import Mathlib.Algebra.Group.Nat.Defs
import Mathlib.Data.Int.Notation
import Mathlib.Data.List.Basic

/-!
# Admission of media requests

A media request is admitted before its body is read, as long as fewer than the limit are active. Until the
service takes it over, the end of the exchange or the timeout gives its slot back; afterwards only the release
that the service was given does. Each request follows its own course, and the counter is what all of them hold.
-/

namespace ConnectHub

open Store

section Model

/-- How the HTTP side of a request ends. -/
inductive HttpEnd
  | aborted | close | finish
deriving DecidableEq, Repr

/-- An admitted request: whether it was taken over and released, whether its timer is set, and which events are
still listened to. -/
structure AdmittedRequest where
  adopted : Bool := false
  released : Bool := false
  timer : Bool := true
  listening : List HttpEnd := [.aborted, .close, .finish]
deriving DecidableEq, Repr

/-- The active count and the requests admitted so far. -/
structure MediaAdmission where
  active : ℤ := 0
  requests : List AdmittedRequest := []
deriving DecidableEq, Repr

/-- Something happens: a request arrives, which may be over by then, a listener or the timer of one is called,
or it is taken over or released. -/
inductive AdmissionEvent
  | arrive (ended : Bool)
  | http (index : ℕ) (ending : HttpEnd)
  | timeout (index : ℕ)
  | take (index : ℕ)
  | release (index : ℕ)
deriving DecidableEq, Repr

/-- The answer to a request that goes no further. -/
structure MediaReply where
  statusCode : ℕ
  error : String
  message : String
  closes : Bool := false
deriving DecidableEq, Repr

/-- What comes of an event. -/
inductive AdmissionEffect
  | replied (reply : MediaReply)
  | admitted (index : ℕ)
  | freed (index : ℕ)
deriving DecidableEq, Repr

/-- The answer while no slot is free. -/
def capacityUnavailable : MediaReply where
  statusCode := 503
  error := "SERVICE_UNAVAILABLE"
  message := "Media capacity temporarily unavailable"

/-- The answer to a request whose body takes too long; the connection is closed. -/
def uploadTimedOut : MediaReply where
  statusCode := 408
  error := "REQUEST_TIMEOUT"
  message := "Request timeout"
  closes := true

/-- The request once it was released: nothing of it is waited for. -/
def AdmittedRequest.freed (request : AdmittedRequest) : AdmittedRequest :=
  { request with released := true, timer := false, listening := [] }

/-- Release a request, unless it was released before. -/
def MediaAdmission.release (admission : MediaAdmission) (index : ℕ) : MediaAdmission × List AdmissionEffect :=
  match admission.requests[index]? with
  | none => (admission, [])
  | some request =>
    if request.released then (admission, [])
    else (⟨admission.active - 1, admission.requests.set index request.freed⟩, [.freed index])

/-- The exchange of a request is over: release it, unless it was taken over. -/
def MediaAdmission.ends (admission : MediaAdmission) (index : ℕ) : MediaAdmission × List AdmissionEffect :=
  match admission.requests[index]? with
  | none => (admission, [])
  | some request => if request.adopted then (admission, []) else admission.release index

/-- Change a request. -/
def MediaAdmission.put (admission : MediaAdmission) (index : ℕ) (request : AdmittedRequest) : MediaAdmission :=
  { admission with requests := admission.requests.set index request }

/-- A request that was just admitted. -/
def newRequest : AdmittedRequest := {}

variable (limit : ℕ)

/-- What happens to the counter and the requests. -/
def MediaAdmission.step (admission : MediaAdmission) : AdmissionEvent → MediaAdmission × List AdmissionEffect
  | .arrive ended =>
    if admission.active ≥ limit then (admission, [.replied capacityUnavailable])
    else
      let index := admission.requests.length
      let admitted : MediaAdmission := ⟨admission.active + 1, admission.requests ++ [newRequest]⟩
      let checked := if ended then admitted.release index else (admitted, [])
      (checked.1, .admitted index :: checked.2)
  | .http index ending =>
    match admission.requests[index]? with
    | none => (admission, [])
    | some request =>
      if ending ∈ request.listening then
        (admission.put index { request with listening := request.listening.erase ending }).ends index
      else (admission, [])
  | .timeout index =>
    match admission.requests[index]? with
    | none => (admission, [])
    | some request =>
      if request.timer then
        let called := (admission.put index { request with timer := false }).ends index
        (called.1, (if request.adopted then [] else [.replied uploadTimedOut]) ++ called.2)
      else (admission, [])
  | .take index =>
    match admission.requests[index]? with
    | none => (admission, [])
    | some request => (admission.put index { request with adopted := true, timer := false }, [])
  | .release index =>
    match admission.requests[index]? with
    | none => (admission, [])
    | some request => if request.adopted then admission.release index else (admission, [])

/-- One thing happens after another; the effects are kept in their order. -/
def MediaAdmission.exec (admission : MediaAdmission) :
    List AdmissionEvent → MediaAdmission × List AdmissionEffect
  | [] => (admission, [])
  | event :: events =>
    let first := admission.step limit event
    let rest := MediaAdmission.exec first.1 events
    (rest.1, first.2 ++ rest.2)

/-- The media message of an admitted request: whatever happens meanwhile, the slot is taken over first and
released at last. -/
def sendMedia (index : ℕ) (meanwhile : List AdmissionEvent) : List AdmissionEvent :=
  .take index :: (meanwhile ++ [.release index])

end Model

section Course

/-- Release a request by itself. -/
def AdmittedRequest.release (request : AdmittedRequest) : AdmittedRequest :=
  if request.released then request else request.freed

/-- The exchange of a request by itself is over. -/
def AdmittedRequest.ends (request : AdmittedRequest) : AdmittedRequest :=
  if request.adopted then request else request.release

/-- The request that an event is about. -/
def AdmissionEvent.target : AdmissionEvent → Option ℕ
  | .arrive _ => none
  | .http index _ => some index
  | .timeout index => some index
  | .take index => some index
  | .release index => some index

/-- What an event does to the request of an index. -/
def AdmittedRequest.react (index : ℕ) (request : AdmittedRequest) : AdmissionEvent → AdmittedRequest
  | .arrive _ => request
  | .http other ending =>
    if other = index ∧ ending ∈ request.listening then
      { request with listening := request.listening.erase ending }.ends
    else request
  | .timeout other => if other = index ∧ request.timer then { request with timer := false }.ends else request
  | .take other => if other = index then { request with adopted := true, timer := false } else request
  | .release other => if other = index ∧ request.adopted then request.release else request

/-- Whether a request holds a slot. -/
def MediaAdmission.Holds (admission : MediaAdmission) (index : ℕ) : Prop :=
  ∃ request, admission.requests[index]? = some request ∧ request.released = false

/-- How many requests hold a slot. -/
def MediaAdmission.holders (admission : MediaAdmission) : ℕ := admission.requests.countP fun r => !r.released

/-- A request that nobody took over was released, or its timer is set and all its ends are listened to. -/
def AdmittedRequest.Watched (request : AdmittedRequest) : Prop :=
  request.adopted = false → request.released = true ∨
    request.timer = true ∧ request.listening = [.aborted, .close, .finish]

variable {index other : ℕ} {request : AdmittedRequest} {event : AdmissionEvent}

/-- A released request is released. -/
theorem AdmittedRequest.release_released (request : AdmittedRequest) : request.release.released = true := by
  unfold AdmittedRequest.release
  by_cases h : request.released = true
  · rw [if_pos h]
    exact h
  · rw [if_neg h]
    rfl

/-- Releasing a request takes it over from nobody. -/
theorem AdmittedRequest.release_adopted (request : AdmittedRequest) : request.release.adopted = request.adopted := by
  unfold AdmittedRequest.release
  split <;> rfl

/-- Neither does the end of its exchange. -/
theorem AdmittedRequest.ends_adopted (request : AdmittedRequest) : request.ends.adopted = request.adopted := by
  unfold AdmittedRequest.ends
  split
  · rfl
  · exact request.release_adopted

/-- The end of its exchange releases a request exactly if nobody took it over. -/
theorem AdmittedRequest.ends_released (request : AdmittedRequest) :
    request.ends.released = (request.released || !request.adopted) := by
  unfold AdmittedRequest.ends
  cases h : request.adopted with
  | true =>
    rw [if_pos rfl, Bool.not_true, Bool.or_false]
  | false =>
    rw [if_neg Bool.false_ne_true, Bool.not_false, Bool.or_true]
    exact request.release_released

/-- Nothing happens to a request that an event is not about. -/
theorem AdmittedRequest.react_other (hevent : event.target = some other) (hdiffer : other ≠ index) :
    request.react index event = request := by
  cases event with
  | arrive ended => rfl
  | _ =>
    cases hevent
    simp only [AdmittedRequest.react, hdiffer, false_and, if_false]

/-- What can happen to a request: nothing, its exchange ends, it is taken over, or the release of one that was
taken over runs. -/
inductive AdmittedRequest.Reacts (index : ℕ) (request : AdmittedRequest) (event : AdmissionEvent) :
    AdmittedRequest → Prop
  | kept : AdmittedRequest.Reacts index request event request
  | ended {called : AdmittedRequest} (hadopted : called.adopted = request.adopted)
    (hreleased : called.released = request.released) : AdmittedRequest.Reacts index request event called.ends
  | taken : AdmittedRequest.Reacts index request event { request with adopted := true, timer := false }
  | released (hadopted : request.adopted = true) (hevent : event = .release index) :
    AdmittedRequest.Reacts index request event request.release

/-- Each event does one of these. -/
theorem AdmittedRequest.reacts (index : ℕ) (request : AdmittedRequest) (event : AdmissionEvent) :
    request.Reacts index event (request.react index event) := by
  cases event with
  | arrive ended => exact .kept
  | http other ending =>
    rw [AdmittedRequest.react]
    split
    · exact .ended rfl rfl
    · exact .kept
  | timeout other =>
    rw [AdmittedRequest.react]
    split
    · exact .ended rfl rfl
    · exact .kept
  | take other =>
    rw [AdmittedRequest.react]
    split
    · exact .taken
    · exact .kept
  | release other =>
    rw [AdmittedRequest.react]
    split
    · next h => exact .released h.2 (congrArg AdmissionEvent.release h.1)
    · exact .kept

variable {after : AdmittedRequest}

/-- What was taken over stays so. -/
theorem AdmittedRequest.Reacts.adopted (h : request.Reacts index event after) (hadopted : request.adopted = true) :
    after.adopted = true := by
  cases h with
  | kept => exact hadopted
  | ended hsame =>
    rw [AdmittedRequest.ends_adopted, hsame]
    exact hadopted
  | taken => rfl
  | released =>
    rw [AdmittedRequest.release_adopted]
    exact hadopted

/-- What was released stays so. -/
theorem AdmittedRequest.Reacts.released_stays (h : request.Reacts index event after)
    (hreleased : request.released = true) : after.released = true := by
  cases h with
  | kept => exact hreleased
  | ended _ hsame =>
    rw [AdmittedRequest.ends_released, hsame, hreleased]
    rfl
  | taken => exact hreleased
  | released => exact request.release_released

/-- What was taken over keeps its slot until its release runs. -/
theorem AdmittedRequest.Reacts.held (h : request.Reacts index event after) (hadopted : request.adopted = true)
    (hheld : request.released = false) (hevent : event ≠ .release index) : after.released = false := by
  cases h with
  | kept => exact hheld
  | ended hadopted' hreleased' =>
    rw [AdmittedRequest.ends_released, hadopted', hreleased', hadopted, hheld]
    rfl
  | taken => exact hheld
  | released _ hrelease => exact absurd hrelease hevent

/-- A request stays watched, whatever happens. -/
theorem AdmittedRequest.Watched.react_watched (h : request.Watched) (index : ℕ) (event : AdmissionEvent) :
    (request.react index event).Watched := by
  generalize hafter : request.react index event = after
  have hreacts := request.reacts index event
  rw [hafter] at hreacts
  cases hreacts with
  | kept => exact h
  | @ended called =>
    intro hnone
    rw [AdmittedRequest.ends_adopted] at hnone
    left
    rw [AdmittedRequest.ends_released, hnone, Bool.not_false, Bool.or_true]
  | taken => exact fun hnone => nomatch hnone
  | released => exact fun _ => .inl request.release_released

/-- The end of the exchange of a request that nobody took over releases it. -/
theorem AdmittedRequest.Watched.react_http (h : request.Watched) (hadopted : request.adopted = false)
    (ending : HttpEnd) : (request.react index (.http index ending)).released = true := by
  cases h hadopted with
  | inl hreleased => exact (request.reacts index _).released_stays hreleased
  | inr hwatched =>
    have hlistens : ending ∈ request.listening := by
      rw [hwatched.2]
      cases ending <;> decide
    rw [AdmittedRequest.react, if_pos ⟨rfl, hlistens⟩, AdmittedRequest.ends_released, hadopted, Bool.not_false,
      Bool.or_true]

/-- And so does its timeout. -/
theorem AdmittedRequest.Watched.react_timeout (h : request.Watched) (hadopted : request.adopted = false) :
    (request.react index (.timeout index)).released = true := by
  cases h hadopted with
  | inl hreleased => exact (request.reacts index _).released_stays hreleased
  | inr hwatched =>
    rw [AdmittedRequest.react, if_pos ⟨rfl, hwatched.1⟩, AdmittedRequest.ends_released, hadopted, Bool.not_false,
      Bool.or_true]

/-- The release of a request that was taken over frees its slot. -/
theorem AdmittedRequest.react_release (hadopted : request.adopted = true) :
    (request.react index (.release index)).released = true := by
  rw [AdmittedRequest.react, if_pos ⟨rfl, hadopted⟩]
  exact request.release_released

end Course

section Steps

variable {limit : ℕ} {admission : MediaAdmission} {index other : ℕ} {request : AdmittedRequest}
  {event : AdmissionEvent} {events : List AdmissionEvent}

/-- Changing a request leaves the others alone. -/
theorem put_requests (h : admission.requests[index]? = some request) (changed : AdmittedRequest) (other : ℕ) :
    (admission.put index changed).requests[other]? =
      if index = other then some changed else admission.requests[other]? := by
  have hlt := (List.getElem?_eq_some_iff.mp h).1
  rw [MediaAdmission.put, List.getElem?_set, if_pos hlt]

/-- Releasing a request leaves the others alone. -/
theorem release_requests (h : admission.requests[index]? = some request) (other : ℕ) :
    (admission.release index).1.requests[other]? =
      if index = other then some request.release else admission.requests[other]? := by
  have hlt := (List.getElem?_eq_some_iff.mp h).1
  rw [MediaAdmission.release, h, AdmittedRequest.release]
  simp only
  split
  · split
    · next heq => rw [← heq, h]
    · rfl
  · rw [List.getElem?_set, if_pos hlt]

/-- So does the end of its exchange. -/
theorem ends_requests (h : admission.requests[index]? = some request) (other : ℕ) :
    (admission.ends index).1.requests[other]? =
      if index = other then some request.ends else admission.requests[other]? := by
  rw [MediaAdmission.ends, h, AdmittedRequest.ends]
  simp only
  split
  · split
    · next heq => rw [← heq, h]
    · rfl
  · exact release_requests h other

/-- And so do both one after the other. -/
theorem put_ends_requests (h : admission.requests[index]? = some request) (changed : AdmittedRequest)
    (other : ℕ) :
    ((admission.put index changed).ends index).1.requests[other]? =
      if index = other then some changed.ends else admission.requests[other]? := by
  have hput := put_requests h changed index
  rw [if_pos rfl] at hput
  rw [ends_requests hput, put_requests h]
  split <;> rfl

/-- An event leaves the other requests alone. -/
theorem step_other (hevent : event.target = some other) (hdiffer : other ≠ index) :
    (admission.step limit event).1.requests[index]? = admission.requests[index]? := by
  cases event with
  | arrive ended => cases hevent
  | http target ending =>
    cases hevent
    rw [MediaAdmission.step]
    cases hother : admission.requests[other]? with
    | none => rfl
    | some found =>
      simp only
      split
      · rw [put_ends_requests hother, if_neg hdiffer]
      · rfl
  | timeout target =>
    cases hevent
    rw [MediaAdmission.step]
    cases hother : admission.requests[other]? with
    | none => rfl
    | some found =>
      simp only
      split
      · rw [put_ends_requests hother, if_neg hdiffer]
      · rfl
  | take target =>
    cases hevent
    rw [MediaAdmission.step]
    cases hother : admission.requests[other]? with
    | none => rfl
    | some found =>
      simp only
      rw [put_requests hother, if_neg hdiffer]
  | release target =>
    cases hevent
    rw [MediaAdmission.step]
    cases hother : admission.requests[other]? with
    | none => rfl
    | some found =>
      simp only
      split
      · rw [release_requests hother, if_neg hdiffer]
      · rfl

/-- What an event does to the request it is about. -/
theorem step_target (h : admission.requests[index]? = some request) (hevent : event.target = some index) :
    (admission.step limit event).1.requests[index]? = some (request.react index event) := by
  cases event with
  | arrive ended => cases hevent
  | http target ending =>
    cases hevent
    rw [MediaAdmission.step, AdmittedRequest.react, h]
    by_cases hlistens : ending ∈ request.listening
    · simp only [hlistens, and_self, if_true]
      rw [put_ends_requests h, if_pos rfl]
    · simp only [hlistens, if_false]
      exact h
  | timeout target =>
    cases hevent
    rw [MediaAdmission.step, AdmittedRequest.react, h]
    by_cases htimer : request.timer = true
    · simp only [htimer, and_self, if_true]
      rw [put_ends_requests h, if_pos rfl]
    · simp only [htimer]
      exact h
  | take target =>
    cases hevent
    rw [MediaAdmission.step, AdmittedRequest.react, h]
    simp only [if_true]
    rw [put_requests h, if_pos rfl]
  | release target =>
    cases hevent
    rw [MediaAdmission.step, AdmittedRequest.react, h]
    by_cases hadopted : request.adopted = true
    · simp only [hadopted, and_self, if_true]
      rw [release_requests h, if_pos rfl]
    · simp only [hadopted]
      exact h

/-- An event about a request that was never admitted does nothing. -/
theorem step_missing (h : admission.requests[index]? = none) (hevent : event.target = some index) :
    (admission.step limit event).1 = admission := by
  cases event with
  | arrive ended => cases hevent
  | _ =>
    cases hevent
    rw [MediaAdmission.step, h]

/-- Each request follows its own course. -/
theorem step_requests (h : admission.requests[index]? = some request) :
    (admission.step limit event).1.requests[index]? = some (request.react index event) := by
  have hlt := (List.getElem?_eq_some_iff.mp h).1
  cases htarget : event.target with
  | none =>
    cases event with
    | arrive ended =>
      rw [MediaAdmission.step, AdmittedRequest.react]
      split
      · exact h
      · have hold : (admission.requests ++ [newRequest])[index]? = admission.requests[index]? :=
          List.getElem?_append_left hlt
        cases ended with
        | false => exact hold.trans h
        | true =>
          simp only [if_true]
          rw [release_requests List.getElem?_concat_length, if_neg (Nat.ne_of_gt hlt)]
          exact hold.trans h
    | _ => cases htarget
  | some other =>
    by_cases hsame : other = index
    · rw [hsame] at htarget
      exact step_target h htarget
    · rw [step_other htarget hsame, AdmittedRequest.react_other htarget hsame]
      exact h

end Steps

section Balance

/-- Whether an effect admits a request. -/
def AdmissionEffect.isAdmitted : AdmissionEffect → Bool
  | .admitted _ => true
  | _ => false

/-- Whether an effect frees a slot. -/
def AdmissionEffect.isFreed : AdmissionEffect → Bool
  | .freed _ => true
  | _ => false

/-- Whether a request was released. -/
def MediaAdmission.hasFreed (admission : MediaAdmission) (index : ℕ) : Bool :=
  admission.requests[index]?.any (·.released)

/-- The effects account for the counter, for the slots that are held and for the requests that were released. -/
structure Balanced (before : MediaAdmission) (effects : List AdmissionEffect) (after : MediaAdmission) : Prop where
  active : after.active + effects.countP (·.isFreed) = before.active + effects.countP (·.isAdmitted)
  holders : after.holders + effects.countP (·.isFreed) = before.holders + effects.countP (·.isAdmitted)
  freed : ∀ index, effects.count (.freed index) + (before.hasFreed index).toNat = (after.hasFreed index).toNat

variable {limit : ℕ} {admission before middle after : MediaAdmission} {effects others : List AdmissionEffect}
  {index : ℕ} {request changed : AdmittedRequest}

/-- Nothing is accounted for by no effects. -/
theorem Balanced.refl (admission : MediaAdmission) : Balanced admission [] admission :=
  ⟨rfl, rfl, fun _ => Nat.zero_add _⟩

/-- Accounts add up. -/
theorem Balanced.trans (h₁ : Balanced before effects middle) (h₂ : Balanced middle others after) :
    Balanced before (effects ++ others) after where
  active := by
    have hfirst := h₁.active
    have hsecond := h₂.active
    rw [List.countP_append, List.countP_append]
    push_cast
    omega
  holders := by
    have hfirst := h₁.holders
    have hsecond := h₂.holders
    rw [List.countP_append, List.countP_append]
    omega
  freed index := by
    rw [List.count_append, ← h₂.freed index, ← h₁.freed index]
    omega

/-- Changing a request without releasing it needs no account. -/
theorem put_balanced (h : admission.requests[index]? = some request) (hsame : changed.released = request.released) :
    Balanced admission [] (admission.put index changed) where
  active := rfl
  holders := by
    have hcount := countP_set_add h changed fun r => !r.released
    rw [hsame] at hcount
    exact Nat.add_right_cancel hcount
  freed other := by
    rw [MediaAdmission.hasFreed, MediaAdmission.hasFreed, put_requests h]
    split
    · next heq =>
      rw [← heq, h, Option.any_some, Option.any_some, hsame]
      exact Nat.zero_add _
    · exact Nat.zero_add _

/-- A release is accounted for, also one that comes again. -/
theorem release_balanced (h : admission.requests[index]? = some request) :
    Balanced admission (admission.release index).2 (admission.release index).1 := by
  have hrequests := release_requests h
  revert hrequests
  rw [MediaAdmission.release, h]
  simp only
  split
  · intro
    exact Balanced.refl admission
  · next hheld =>
    intro hrequests
    refine ⟨(Int.sub_add_cancel admission.active 1).trans (Int.add_zero _).symm, ?_, fun other => ?_⟩
    · have hcount := countP_set_add h request.freed fun r => !r.released
      rw [Bool.eq_false_iff.mpr hheld] at hcount
      exact hcount
    · rw [MediaAdmission.hasFreed, MediaAdmission.hasFreed, hrequests]
      by_cases hsame : index = other
      · rw [if_pos hsame, ← hsame, h, List.count_singleton_self, Option.any_some, Option.any_some,
          request.release_released, Bool.eq_false_iff.mpr hheld]
        rfl
      · have hother : AdmissionEffect.freed index ≠ .freed other := fun heq =>
          hsame (AdmissionEffect.freed.inj heq)
        rw [if_neg hsame, List.count_cons_of_ne hother]
        exact Nat.zero_add _

/-- So is the end of an exchange. -/
theorem ends_balanced (h : admission.requests[index]? = some request) :
    Balanced admission (admission.ends index).2 (admission.ends index).1 := by
  rw [MediaAdmission.ends, h]
  simp only
  split
  · exact Balanced.refl admission
  · exact release_balanced h

/-- And that of a request that was changed first. -/
theorem put_ends_balanced (h : admission.requests[index]? = some request)
    (hsame : changed.released = request.released) :
    Balanced admission ((admission.put index changed).ends index).2 ((admission.put index changed).ends index).1 := by
  have hput := put_requests h changed index
  rw [if_pos rfl] at hput
  exact (put_balanced h hsame).trans (ends_balanced hput)

/-- An answer is no part of the account. -/
theorem Balanced.replied (h : Balanced before effects after) (reply : MediaReply) :
    Balanced before (.replied reply :: effects) after where
  active := by
    rw [List.countP_cons_of_neg Bool.false_ne_true, List.countP_cons_of_neg Bool.false_ne_true]
    exact h.active
  holders := by
    rw [List.countP_cons_of_neg Bool.false_ne_true, List.countP_cons_of_neg Bool.false_ne_true]
    exact h.holders
  freed index := by
    have hother : AdmissionEffect.replied reply ≠ .freed index := nofun
    rw [List.count_cons_of_ne hother]
    exact h.freed index

/-- An admission is accounted for. -/
theorem admit_balanced (admission : MediaAdmission) :
    Balanced admission [.admitted admission.requests.length]
      ⟨admission.active + 1, admission.requests ++ [newRequest]⟩ where
  active := Int.add_zero _
  holders := by
    rw [MediaAdmission.holders, List.countP_append]
    rfl
  freed index := by
    have hother : AdmissionEffect.admitted admission.requests.length ≠ .freed index := nofun
    rw [List.count_cons_of_ne hother, List.count_nil, Nat.zero_add, MediaAdmission.hasFreed,
      MediaAdmission.hasFreed]
    by_cases hlt : index < admission.requests.length
    · rw [List.getElem?_append_left hlt]
    · rw [List.getElem?_eq_none (Nat.le_of_not_lt hlt), List.getElem?_append_right (Nat.le_of_not_lt hlt)]
      cases index - admission.requests.length with
      | zero => rfl
      | succ _ => rfl

/-- Whatever happens is accounted for. -/
theorem step_balanced (limit : ℕ) (admission : MediaAdmission) (event : AdmissionEvent) :
    Balanced admission (admission.step limit event).2 (admission.step limit event).1 := by
  cases event with
  | arrive ended =>
    rw [MediaAdmission.step]
    split
    · exact (Balanced.refl admission).replied _
    · have hadmitted := admit_balanced admission
      cases ended with
      | false => exact hadmitted
      | true => exact hadmitted.trans (release_balanced List.getElem?_concat_length)
  | http index ending =>
    rw [MediaAdmission.step]
    cases h : admission.requests[index]? with
    | none => exact Balanced.refl admission
    | some request =>
      simp only
      split
      · exact put_ends_balanced h rfl
      · exact Balanced.refl admission
  | timeout index =>
    rw [MediaAdmission.step]
    cases h : admission.requests[index]? with
    | none => exact Balanced.refl admission
    | some request =>
      simp only
      split
      · have hsame : ({ request with timer := false } : AdmittedRequest).released = request.released := rfl
        have hcalled := put_ends_balanced h hsame
        split
        · exact hcalled
        · exact hcalled.replied _
      · exact Balanced.refl admission
  | take index =>
    rw [MediaAdmission.step]
    cases h : admission.requests[index]? with
    | none => exact Balanced.refl admission
    | some request => exact put_balanced h rfl
  | release index =>
    rw [MediaAdmission.step]
    cases h : admission.requests[index]? with
    | none => exact Balanced.refl admission
    | some request =>
      simp only
      split
      · exact release_balanced h
      · exact Balanced.refl admission

/-- A release admits nothing. -/
theorem release_admits (admission : MediaAdmission) (index : ℕ) :
    (admission.release index).2.countP (·.isAdmitted) = 0 := by
  rw [MediaAdmission.release]
  cases admission.requests[index]? with
  | none => rfl
  | some request =>
    simp only
    split <;> rfl

/-- The end of an exchange admits nothing. -/
theorem ends_admits (admission : MediaAdmission) (index : ℕ) :
    (admission.ends index).2.countP (·.isAdmitted) = 0 := by
  rw [MediaAdmission.ends]
  cases admission.requests[index]? with
  | none => rfl
  | some request =>
    simp only
    split
    · rfl
    · exact release_admits admission index

/-- At most one request is admitted, and only below the limit. -/
theorem step_admits (limit : ℕ) (admission : MediaAdmission) (event : AdmissionEvent) :
    (admission.step limit event).2.countP (·.isAdmitted) = 0 ∨
      admission.active < limit ∧ (admission.step limit event).2.countP (·.isAdmitted) = 1 := by
  cases event with
  | arrive ended =>
    rw [MediaAdmission.step]
    split
    · exact .inl rfl
    · next hfree =>
      right
      refine ⟨Int.not_le.mp hfree, ?_⟩
      cases ended with
      | false => rfl
      | true =>
        rw [List.countP_cons_of_pos rfl]
        exact congrArg (· + 1) (release_admits _ _)
  | http index ending =>
    left
    rw [MediaAdmission.step]
    cases admission.requests[index]? with
    | none => rfl
    | some request =>
      simp only
      split
      · exact ends_admits _ _
      · rfl
  | timeout index =>
    left
    rw [MediaAdmission.step]
    cases admission.requests[index]? with
    | none => rfl
    | some request =>
      simp only
      split
      · rw [List.countP_append, ends_admits]
        split <;> rfl
      · rfl
  | take index =>
    left
    rw [MediaAdmission.step]
    cases admission.requests[index]? <;> rfl
  | release index =>
    left
    rw [MediaAdmission.step]
    cases admission.requests[index]? with
    | none => rfl
    | some request =>
      simp only
      split
      · exact release_admits _ _
      · rfl

/-- The counter does not exceed the limit. -/
theorem step_within (h : admission.active ≤ limit) (event : AdmissionEvent) :
    (admission.step limit event).1.active ≤ limit := by
  have hbalanced := (step_balanced limit admission event).active
  cases step_admits limit admission event with
  | inl hnone => omega
  | inr hone => omega

end Balance

section Runs

variable {limit : ℕ} {admission : MediaAdmission} {events later : List AdmissionEvent} {index : ℕ}
  {request : AdmittedRequest}

/-- A run is accounted for. -/
theorem exec_balanced (limit : ℕ) (admission : MediaAdmission) (events : List AdmissionEvent) :
    Balanced admission (admission.exec limit events).2 (admission.exec limit events).1 := by
  induction events generalizing admission with
  | nil => exact Balanced.refl admission
  | cons event events ih => exact (step_balanced limit admission event).trans (ih _)

/-- The counter stays within the limit. -/
theorem exec_within (h : admission.active ≤ limit) (events : List AdmissionEvent) :
    (admission.exec limit events).1.active ≤ limit := by
  induction events generalizing admission with
  | nil => exact h
  | cons event events ih => exact ih (step_within h event)

/-- Each request follows its own course all along. -/
theorem exec_requests (h : admission.requests[index]? = some request) (events : List AdmissionEvent) :
    (admission.exec limit events).1.requests[index]? = some (events.foldl (·.react index) request) := by
  induction events generalizing admission request with
  | nil => exact h
  | cons event events ih => exact ih (step_requests h)

/-- Only an arrival brings a new request, which is watched. -/
theorem step_new {event : AdmissionEvent} (h : admission.requests[index]? = none)
    (hnew : (admission.step limit event).1.requests[index]? = some request) : request.Watched := by
  cases htarget : event.target with
  | none =>
    cases event with
    | arrive ended =>
      rw [MediaAdmission.step] at hnew
      split at hnew
      · rw [h] at hnew
        cases hnew
      · have hlast : ∀ found, (admission.requests ++ [newRequest])[index]? = some found →
            found = newRequest := by
          intro found hfound
          rw [List.getElem?_append_right (List.getElem?_eq_none_iff.mp h)] at hfound
          exact List.mem_singleton.mp (List.mem_of_getElem? hfound)
        cases ended with
        | false =>
          rw [hlast request hnew]
          exact fun _ => .inr ⟨rfl, rfl⟩
        | true =>
          simp only [if_true] at hnew
          rw [release_requests List.getElem?_concat_length] at hnew
          split at hnew
          · cases hnew
            exact fun _ => .inl newRequest.release_released
          · rw [hlast request hnew]
            exact fun _ => .inr ⟨rfl, rfl⟩
    | _ => cases htarget
  | some other =>
    by_cases hsame : other = index
    · rw [hsame] at htarget
      rw [step_missing h htarget, h] at hnew
      cases hnew
    · rw [step_other htarget hsame, h] at hnew
      cases hnew

/-- Every request is watched until it is taken over. -/
theorem exec_watched (h : ∀ request ∈ admission.requests, request.Watched) (events : List AdmissionEvent) :
    ∀ request ∈ (admission.exec limit events).1.requests, request.Watched := by
  induction events generalizing admission with
  | nil => exact h
  | cons event events ih =>
    refine ih fun request hmem => ?_
    obtain ⟨index, hindex⟩ := List.getElem?_of_mem hmem
    cases hbefore : admission.requests[index]? with
    | none => exact step_new hbefore hindex
    | some found =>
      rw [step_requests hbefore] at hindex
      cases hindex
      exact (h found (List.mem_of_getElem? hbefore)).react_watched index event

/-- What was released stays so. -/
theorem foldl_released (h : request.released = true) (events : List AdmissionEvent) :
    (events.foldl (·.react index) request).released = true := by
  induction events generalizing request with
  | nil => exact h
  | cons event events ih => exact ih ((request.reacts index event).released_stays h)

/-- What was taken over stays so. -/
theorem foldl_adopted (h : request.adopted = true) (events : List AdmissionEvent) :
    (events.foldl (·.react index) request).adopted = true := by
  induction events generalizing request with
  | nil => exact h
  | cons event events ih => exact ih ((request.reacts index event).adopted h)

/-- What was taken over keeps its slot until its release runs. -/
theorem foldl_held (hadopted : request.adopted = true) (hheld : request.released = false)
    (h : .release index ∉ events) : (events.foldl (·.react index) request).released = false := by
  induction events generalizing request with
  | nil => exact hheld
  | cons event events ih =>
    have hreacts := request.reacts index event
    have hevent : event ≠ .release index := fun heq => h (heq ▸ List.mem_cons_self)
    exact ih (hreacts.adopted hadopted) (hreacts.held hadopted hheld hevent)
      fun hmem => h (List.mem_cons_of_mem _ hmem)

/-- The execution of a message leaves no slot behind. -/
theorem foldl_sendMedia (request : AdmittedRequest) (meanwhile : List AdmissionEvent) :
    ((sendMedia index meanwhile).foldl (·.react index) request).released = true := by
  have htaken : (request.react index (.take index)).adopted = true := by
    rw [AdmittedRequest.react, if_pos rfl]
  rw [sendMedia, List.foldl_cons, List.foldl_append]
  exact AdmittedRequest.react_release (foldl_adopted htaken meanwhile)

/-- A request that was released holds no slot. -/
theorem not_holds (h : admission.requests[index]? = some request) (hreleased : request.released = true) :
    ¬ admission.Holds index := by
  rintro ⟨other, hother, hheld⟩
  rw [h] at hother
  cases hother
  rw [hreleased] at hheld
  cases hheld

/-- Whatever media requests do in whatever order, no more of them are active than the limit, and the counter is
that of the requests that hold a slot. Each is released at most once; one that nobody took over holds no slot
after an end of its exchange or its timeout, one that was taken over keeps its slot until its release runs, and
the execution of a message leaves none behind. -/
theorem media_slots (limit : ℕ) (events : List AdmissionEvent) :
    let run := MediaAdmission.exec limit {} events
    0 ≤ run.1.active ∧ run.1.active ≤ limit ∧ run.1.active = run.1.holders ∧
      run.1.active = run.2.countP (·.isAdmitted) - run.2.countP (·.isFreed) ∧
      (∀ index, run.2.count (.freed index) ≤ 1) ∧
      ∀ index request, run.1.requests[index]? = some request →
        (request.adopted = false → ∀ later,
          (∀ ending, ¬ (run.1.exec limit (.http index ending :: later)).1.Holds index) ∧
            ¬ (run.1.exec limit (.timeout index :: later)).1.Holds index) ∧
        (request.adopted = true → request.released = false → ∀ later, .release index ∉ later →
          (run.1.exec limit later).1.Holds index) ∧
        ∀ meanwhile later, ¬ (run.1.exec limit (sendMedia index meanwhile ++ later)).1.Holds index := by
  intro run
  have hbalanced := exec_balanced limit {} events
  have hactive : run.1.active + run.2.countP (·.isFreed) = 0 + run.2.countP (·.isAdmitted) := hbalanced.active
  have hholders : run.1.holders + run.2.countP (·.isFreed) = 0 + run.2.countP (·.isAdmitted) :=
    hbalanced.holders
  refine ⟨?_, exec_within (Int.natCast_nonneg limit) events, ?_, ?_, fun index => ?_, fun index request h => ?_⟩
  · omega
  · omega
  · omega
  · have hfreed := hbalanced.freed index
    have hle := Bool.toNat_le (run.1.hasFreed index)
    change run.2.count (.freed index) + _ = (run.1.hasFreed index).toNat at hfreed
    omega
  · have hwatched : request.Watched :=
      exec_watched (fun _ hmem => absurd hmem List.not_mem_nil) events request (List.mem_of_getElem? h)
    refine ⟨fun hadopted later => ⟨fun ending => ?_, ?_⟩, fun hadopted hheld later hnone => ?_,
      fun meanwhile later => ?_⟩
    · exact not_holds (exec_requests h _) (foldl_released (hwatched.react_http hadopted ending) later)
    · exact not_holds (exec_requests h _) (foldl_released (hwatched.react_timeout hadopted) later)
    · exact ⟨_, exec_requests h later, foldl_held hadopted hheld hnone⟩
    · have hsent := @exec_requests limit _ _ _ h (sendMedia index meanwhile ++ later)
      rw [List.foldl_append] at hsent
      exact not_holds hsent (foldl_released (foldl_sendMedia request meanwhile) later)

end Runs

end ConnectHub
