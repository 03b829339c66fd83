import Mathlib.Data.List.Basic

/-!
# Subscribers

What produces values for a subscriber may go on after the subscriber was closed, by an error, a completion or
itself; nothing that is sent then arrives. What is to be done at the end is registered once the subscription
has returned, and is due once: at the closing, or at the registration if the subscriber was closed by then.
-/

namespace Store

/-- What a subscriber is told. -/
inductive Notification (α ε : Type)
  | next (value : α)
  | error (error : ε)
  | complete
deriving DecidableEq, Repr

/-- What a subscriber was told so far, whether it is closed, and whether something is registered for its end. -/
structure Subscriber (α ε : Type) where
  sent : List (Notification α ε) := []
  closed : Bool := false
  teardown : Bool := false
deriving DecidableEq, Repr

namespace Subscriber

variable {α ε : Type} (subscriber : Subscriber α ε)

/-- Send a value. -/
def next (value : α) : Subscriber α ε :=
  if subscriber.closed then subscriber else { subscriber with sent := subscriber.sent ++ [.next value] }

/-- Close a subscriber after a last notification, if there is one, and tell whether its end is due. -/
def close (last : Option (Notification α ε)) : Subscriber α ε × Bool :=
  if subscriber.closed then (subscriber, false)
  else ({ sent := subscriber.sent ++ last.toList, closed := true, teardown := false }, subscriber.teardown)

/-- Send an error. -/
def error (error : ε) : Subscriber α ε × Bool := subscriber.close (some (.error error))

/-- Send the completion. -/
def complete : Subscriber α ε × Bool := subscriber.close (some .complete)

/-- The subscriber wants no more. -/
def unsubscribe : Subscriber α ε × Bool := subscriber.close none

/-- Register what is to be done at the end, and tell whether that is due. -/
def add : Subscriber α ε × Bool :=
  if subscriber.closed then (subscriber, true) else ({ subscriber with teardown := true }, false)

/-- Whether a notification is a value. -/
def isNext : Notification α ε → Bool
  | .next _ => true
  | _ => false

/-- Values come first, and an open subscriber was told nothing else; at most one last notification follows. -/
def Grammatical : Prop :=
  ∃ values last, subscriber.sent = values ++ Option.toList last ∧ (∀ told ∈ values, isNext told = true) ∧
    (subscriber.closed = false → last = none)

variable {subscriber}

/-- A closing closes. -/
theorem close_closed (subscriber : Subscriber α ε) (last : Option (Notification α ε)) :
    (subscriber.close last).1.closed = true := by
  unfold close
  split
  · assumption
  · rfl

/-- A value after values. -/
theorem Grammatical.next (h : subscriber.Grammatical) (value : α) : (subscriber.next value).Grammatical := by
  unfold Subscriber.next
  split
  · exact h
  · rename_i hopen
    obtain ⟨values, last, hsent, hvalues, hlast⟩ := h
    have hnone := hlast (Bool.eq_false_iff.mpr hopen)
    rw [hnone, Option.toList_none, List.append_nil] at hsent
    refine ⟨values ++ [.next value], none, ?_, ?_, fun _ => rfl⟩
    · rw [Option.toList_none, List.append_nil, ← hsent]
    · intro told htold
      rcases List.mem_append.mp htold with hold | hnew
      · exact hvalues told hold
      · rw [List.mem_singleton.mp hnew]
        rfl

/-- A last notification after values. -/
theorem Grammatical.close (h : subscriber.Grammatical) (last : Option (Notification α ε)) :
    (subscriber.close last).1.Grammatical := by
  unfold Subscriber.close
  split
  · exact h
  · rename_i hopen
    obtain ⟨values, earlier, hsent, hvalues, hearlier⟩ := h
    have hnone := hearlier (Bool.eq_false_iff.mpr hopen)
    rw [hnone, Option.toList_none, List.append_nil] at hsent
    refine ⟨values, last, ?_, hvalues, fun hclosed => absurd hclosed Bool.true_eq_false.mp⟩
    rw [← hsent]

end Subscriber

end Store
