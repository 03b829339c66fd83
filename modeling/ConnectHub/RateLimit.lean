import ConnectHub.Auth
import ConnectHub.Store.Numbering

/-!
# The rate limit of a product

Every request of a product raises one counter, which lasts a second from the moment that the request which found it
missing sets its expiry. Requests interleave, their processes may stop at any point, and no statement of a guard
waits for another guard. What passes is bounded over any stretch of time; a counter whose expiry was never set
keeps counting, and refuses everything from the limit on.
-/

namespace ConnectHub

open Store

/-- A counter, and when it expires, if it does. -/
structure RateCounter where
  value : ℕ
  expiresAt : Option ℕ := none
deriving DecidableEq

/-- The counters by product, and the clock of the cache in milliseconds. -/
structure RateShared where
  now : ℕ
  counters : Uuid → Option RateCounter

/-- Whether a counter has not expired. -/
def RateCounter.isLive (now : ℕ) (counter : RateCounter) : Bool :=
  match counter.expiresAt with
  | some expiresAt => now ≤ expiresAt
  | none => true

/-- The counter of a product, unless it expired. -/
def RateShared.live (shared : RateShared) (productId : Uuid) : Option RateCounter :=
  (shared.counters productId).filter (·.isLive shared.now)

/-- Raise the counter of a product; one that is missing starts without an expiry. -/
def RateShared.raised (shared : RateShared) (productId : Uuid) : RateCounter :=
  match shared.live productId with
  | some counter => { counter with value := counter.value + 1 }
  | none => { value := 1 }

/-- Write the counter of a product. -/
def RateShared.put (shared : RateShared) (productId : Uuid) (counter : RateCounter) : RateShared :=
  { shared with counters := Function.update shared.counters productId (some counter) }

/-- The counter that was written. -/
@[simp] theorem RateShared.put_self (shared : RateShared) (productId : Uuid) (counter : RateCounter) :
    (shared.put productId counter).counters productId = some counter := Function.update_self _ _ _

/-- A counter of another product. -/
theorem RateShared.put_other (shared : RateShared) {productId id : Uuid} (h : id ≠ productId) (counter : RateCounter) :
    (shared.put id counter).counters productId = shared.counters productId := Function.update_of_ne (Ne.symm h) _ _

/-- Raise the counter of a product by one. -/
def RateShared.increment (shared : RateShared) (productId : Uuid) : RateShared :=
  shared.put productId (shared.raised productId)

/-- Let the counter of a product expire, if there is one. -/
def RateShared.expire (shared : RateShared) (productId : Uuid) (ttlSeconds : ℕ) : RateShared :=
  match shared.live productId with
  | some counter => shared.put productId { counter with expiresAt := some (shared.now + ttlSeconds * 1000) }
  | none => shared

/-- A guard under way, before its next access or its decision. -/
inductive RateTask
  | increment (productId : Uuid)
  | expire (productId : Uuid) (current : ℕ)
  | judge (productId : Uuid) (current : ℕ)
deriving DecidableEq

/-- What is seen of a step. -/
inductive RateEvent
  | arrived
  | ticked
  | counted (productId : Uuid) (now current : ℕ)
  | expiring (productId : Uuid)
  | admitted (productId : Uuid) (current : ℕ)
  | refused (productId : Uuid) (current : ℕ)
  | lost
deriving DecidableEq

/-- The next access of a guard: what it leaves, what is seen of it, and how the guard goes on. -/
def RateTask.run (limit : ℕ) (shared : RateShared) : RateTask → RateShared × RateEvent × Option RateTask
  | .increment productId =>
    let current := (shared.raised productId).value
    (shared.increment productId, .counted productId shared.now current,
      some (if current = 1 then .expire productId current else .judge productId current))
  | .expire productId current => (shared.expire productId 1, .expiring productId, some (.judge productId current))
  | .judge productId current =>
    (shared, if current > limit then .refused productId current else .admitted productId current, none)

/-- The guard of a request: one without a product is let through at once. -/
def RateTask.canActivate (product : Option AuthCachePayload) : List RateTask :=
  product.toList.map fun payload => .increment payload.productId

/-- What happens besides: time goes by, and requests arrive. -/
inductive RateMove (shared : RateShared) : RateEvent → RateShared → List RateTask → Prop
  | tick (elapsed : ℕ) : RateMove shared .ticked { shared with now := shared.now + elapsed } []
  | arrive (product : Option AuthCachePayload) : RateMove shared .arrived shared (RateTask.canActivate product)

/-- Guards in any number, statement by statement and in any order; one is lost when its process stops or an access of
it fails. -/
def RateStep (limit : ℕ) : Pool RateShared RateTask → RateEvent → Pool RateShared RateTask → Prop :=
  PoolStep (fun shared task e shared' next => task.run limit shared = (shared', e, next)) RateMove .lost

/-- The instant and the number that an event hands out to a product. -/
def RateEvent.handed? (productId : Uuid) : RateEvent → Option (ℕ × ℕ)
  | .counted id now current => if id = productId then some (now, current) else none
  | _ => none

/-- What was handed out to a product. -/
def handedTo (productId : Uuid) (events : List RateEvent) : List (ℕ × ℕ) := events.filterMap (·.handed? productId)

section Windows

variable {limit : ℕ} {productId : Uuid} {hist : List RateEvent} {shared : RateShared}

/-- How the counter of a product agrees with the numbers that were handed out. -/
structure Numbered (productId : Uuid) (hist : List RateEvent) (shared : RateShared) : Prop where
  handed : Handed 1000 (handedTo productId hist)
  past : ∀ a ∈ handedTo productId hist, a.1 ≤ shared.now
  last : (handedTo productId hist).getLast?.map (·.2) = (shared.counters productId).map (·.value)
  deadline : ∀ counter, shared.counters productId = some counter → ∀ expiresAt, counter.expiresAt = some expiresAt →
    expiresAt ≤ shared.now + 1000 ∧ ∀ a ∈ handedTo productId hist, a.2 = 1 → a.1 + 1000 ≤ expiresAt

/-- One more event. -/
theorem handedTo_snoc (productId : Uuid) (hist : List RateEvent) (e : RateEvent) :
    handedTo productId (hist ++ [e]) = handedTo productId hist ++ (e.handed? productId).toList := by
  rw [handedTo, List.filterMap_append, ← handedTo]
  cases h : e.handed? productId <;> simp [h]

/-- An event that hands nothing out to the product. -/
theorem handedTo_quiet {e : RateEvent} (h : e.handed? productId = none) :
    handedTo productId (hist ++ [e]) = handedTo productId hist := by
  rw [handedTo_snoc, h, Option.toList_none, List.append_nil]

/-- What is live is there. -/
theorem RateShared.live_some {counter : RateCounter} (h : shared.live productId = some counter) :
    shared.counters productId = some counter ∧ counter.isLive shared.now = true := by
  rw [live, Option.filter_eq_some_iff] at h
  exact h

/-- What is there and not live has expired. -/
theorem RateShared.live_none {counter : RateCounter} (h : shared.live productId = none)
    (hcounter : shared.counters productId = some counter) :
    ∃ expiresAt, counter.expiresAt = some expiresAt ∧ expiresAt < shared.now := by
  rw [live, hcounter, Option.filter_some] at h
  split at h
  · cases h
  · rename_i hdead
    unfold RateCounter.isLive at hdead
    split at hdead
    · rename_i expiresAt hexpires
      exact ⟨expiresAt, hexpires, by simpa using hdead⟩
    · exact absurd rfl hdead

/-- Time goes by. -/
theorem Numbered.tick (h : Numbered productId hist shared) (elapsed : ℕ) :
    Numbered productId (hist ++ [.ticked]) { shared with now := shared.now + elapsed } := by
  have hquiet : handedTo productId (hist ++ [.ticked]) = handedTo productId hist := handedTo_quiet rfl
  refine ⟨?_, ?_, ?_, ?_⟩
  · rw [hquiet]
    exact h.handed
  · rw [hquiet]
    exact fun a ha => (h.past a ha).trans (Nat.le_add_right _ _)
  · rw [hquiet]
    exact h.last
  · rw [hquiet]
    intro counter hcounter expiresAt hexpires
    obtain ⟨hsoon, hstarts⟩ := h.deadline counter hcounter expiresAt hexpires
    exact ⟨hsoon.trans (Nat.add_le_add_right (Nat.le_add_right _ _) _), hstarts⟩

/-- What leaves the counter of a product as it is. -/
theorem Numbered.frame (h : Numbered productId hist shared) {e : RateEvent} {shared' : RateShared}
    (hquiet : e.handed? productId = none) (hnow : shared'.now = shared.now)
    (hcounter : shared'.counters productId = shared.counters productId) :
    Numbered productId (hist ++ [e]) shared' := by
  have hsame : handedTo productId (hist ++ [e]) = handedTo productId hist := handedTo_quiet hquiet
  exact ⟨hsame ▸ h.handed, by rw [hsame, hnow]; exact h.past, by rw [hsame, hcounter]; exact h.last,
    by rw [hsame, hnow, hcounter]; exact h.deadline⟩

/-- A live counter hands out the next number. -/
theorem Numbered.raise (h : Numbered productId hist shared) {counter : RateCounter}
    (hlive : shared.live productId = some counter) :
    Numbered productId (hist ++ [.counted productId shared.now (counter.value + 1)])
      (shared.put productId { counter with value := counter.value + 1 }) := by
  obtain ⟨hcounter, -⟩ := RateShared.live_some hlive
  have hlast := h.last
  rw [hcounter, Option.map_some, Option.map_eq_some_iff] at hlast
  obtain ⟨⟨before, number⟩, hgiven, hnumber⟩ := hlast
  obtain ⟨earlier, hsplit⟩ := List.getLast?_eq_some_iff.mp hgiven
  have hgrown : handedTo productId (hist ++ [.counted productId shared.now (counter.value + 1)]) =
      (earlier ++ [(before, number)]) ++ [(shared.now, number + 1)] := by
    rw [handedTo_snoc, hsplit, ← hnumber, RateEvent.handed?, if_pos rfl, Option.toList_some]
  have hhanded := h.handed
  have hpast := h.past
  rw [hsplit] at hhanded hpast
  have hpositive : 1 ≤ number :=
    hhanded.positive (before, number) (List.mem_append_right _ List.mem_cons_self)
  refine ⟨hgrown ▸ .next hhanded hpast, ?_, ?_, ?_⟩
  · rw [hgrown]
    exact List.forall_mem_append.mpr ⟨hpast, List.forall_mem_singleton.mpr le_rfl⟩
  · rw [hgrown, List.getLast?_concat, RateShared.put_self, Option.map_some, Option.map_some, ← hnumber]
  · intro raised hraised expiresAt hexpires
    rw [RateShared.put_self, Option.some.injEq] at hraised
    rw [← hraised] at hexpires
    obtain ⟨hsoon, hstarts⟩ := h.deadline counter hcounter expiresAt hexpires
    rw [hsplit] at hstarts
    rw [hgrown]
    refine ⟨hsoon, List.forall_mem_append.mpr ⟨hstarts, List.forall_mem_singleton.mpr fun hone => ?_⟩⟩
    simp only at hone
    omega

/-- A counter that is missing or over starts again at one, and not before the last second is over. -/
theorem Numbered.restart (h : Numbered productId hist shared) (hlive : shared.live productId = none) :
    Numbered productId (hist ++ [.counted productId shared.now 1])
      (shared.put productId { value := 1 }) := by
  have hgrown : handedTo productId (hist ++ [.counted productId shared.now 1]) =
      handedTo productId hist ++ [(shared.now, 1)] := by
    rw [handedTo_snoc, RateEvent.handed?, if_pos rfl, Option.toList_some]
  have hover : ∀ a ∈ handedTo productId hist, a.2 = 1 → a.1 + 1000 < shared.now := by
    intro a ha hone
    cases hcounter : shared.counters productId with
    | none =>
      have hlast := h.last
      rw [hcounter, Option.map_none, Option.map_eq_none_iff, List.getLast?_eq_none_iff] at hlast
      rw [hlast] at ha
      exact absurd ha List.not_mem_nil
    | some counter =>
      obtain ⟨expiresAt, hexpires, hlate⟩ := RateShared.live_none hlive hcounter
      exact ((h.deadline counter hcounter expiresAt hexpires).2 a ha hone).trans_lt hlate
  refine ⟨hgrown ▸ .first h.handed h.past hover, ?_, ?_, ?_⟩
  · rw [hgrown]
    exact List.forall_mem_append.mpr ⟨h.past, List.forall_mem_singleton.mpr le_rfl⟩
  · rw [hgrown, List.getLast?_concat, RateShared.put_self, Option.map_some, Option.map_some]
  · intro raised hraised expiresAt hexpires
    rw [RateShared.put_self, Option.some.injEq] at hraised
    rw [← hraised] at hexpires
    cases hexpires

/-- A request is counted. -/
theorem Numbered.increment (h : Numbered productId hist shared) (id : Uuid) :
    Numbered productId (hist ++ [.counted id shared.now (shared.raised id).value]) (shared.increment id) := by
  by_cases hid : id = productId
  · rw [hid, RateShared.increment, RateShared.raised]
    cases hlive : shared.live productId with
    | some counter => exact h.raise hlive
    | none => exact h.restart hlive
  · exact h.frame (by rw [RateEvent.handed?, if_neg hid]) rfl (RateShared.put_other shared hid _)

/-- The expiry of a counter is set. -/
theorem Numbered.expire (h : Numbered productId hist shared) (id : Uuid) :
    Numbered productId (hist ++ [.expiring id]) (shared.expire id 1) := by
  have hquiet : handedTo productId (hist ++ [.expiring id]) = handedTo productId hist := handedTo_quiet rfl
  unfold RateShared.expire
  cases hlive : shared.live id with
  | none => exact h.frame rfl rfl rfl
  | some counter =>
    by_cases hid : id = productId
    · subst hid
      obtain ⟨hcounter, -⟩ := RateShared.live_some hlive
      have hlast := h.last
      rw [hcounter, Option.map_some] at hlast
      refine ⟨hquiet ▸ h.handed, hquiet ▸ h.past, ?_, ?_⟩
      · rw [hquiet, RateShared.put_self, Option.map_some]
        exact hlast
      · intro expiring hexpiring expiresAt hexpires
        rw [RateShared.put_self, Option.some.injEq] at hexpiring
        rw [← hexpiring, Option.some.injEq] at hexpires
        rw [hquiet, ← hexpires]
        exact ⟨le_rfl, fun a ha _ => Nat.add_le_add_right (h.past a ha) _⟩
    · exact h.frame rfl rfl (RateShared.put_other shared hid _)

/-- A step of a guard, or of what happens besides, keeps every counter in agreement. -/
theorem RateStep.numbered {p q : Pool RateShared RateTask} {e : RateEvent} (h : Numbered productId hist p.shared)
    (hstep : RateStep limit p e q) : Numbered productId (hist ++ [e]) q.shared := by
  cases hstep with
  | @ran before after task e s next position run =>
    cases task with
    | increment id =>
      simp only [RateTask.run, Prod.mk.injEq] at run
      obtain ⟨rfl, rfl, rfl⟩ := run
      exact h.increment id
    | expire id current =>
      simp only [RateTask.run, Prod.mk.injEq] at run
      obtain ⟨rfl, rfl, rfl⟩ := run
      exact h.expire id
    | judge id current =>
      simp only [RateTask.run, Prod.mk.injEq] at run
      obtain ⟨rfl, rfl, rfl⟩ := run
      exact h.frame (by split <;> rfl) rfl rfl
  | came move =>
    cases move with
    | tick elapsed => exact h.tick elapsed
    | arrive product => exact h.frame rfl rfl rfl
  | lost position => exact h.frame rfl rfl rfl

/-- So does a run. -/
theorem Numbered.run {p q : Pool RateShared RateTask} {es : List RateEvent} (h : Numbered productId hist p.shared)
    (hrun : Run (RateStep limit) p es q) : Numbered productId (hist ++ es) q.shared := by
  induction hrun generalizing hist with
  | nil =>
    rw [List.append_nil]
    exact h
  | cons hstep _ ih =>
    have hrest := ih (hstep.numbered h)
    rw [List.append_assoc] at hrest
    exact hrest

end Windows

section Admissions

variable {limit : ℕ} {productId : Uuid} {p q : Pool RateShared RateTask} {e : RateEvent} {es : List RateEvent}

/-- Whether a guard holds a number of a product, and has not decided yet. -/
def RateTask.holds (productId : Uuid) (number : ℕ) : RateTask → Bool
  | .increment _ => false
  | .expire id current => id = productId && current = number
  | .judge id current => id = productId && current = number

/-- Whether an event lets a request of a product through on a number. -/
def RateEvent.admits (productId : Uuid) (number : ℕ) (e : RateEvent) : Bool := e = .admitted productId number

/-- Whether a number was handed out. -/
def isNumber (number : ℕ) (a : ℕ × ℕ) : Bool := a.2 = number

/-- What a guard lets through it held, and what it holds was handed out to it. -/
theorem RateTask.run_holds {shared s : RateShared} {task : RateTask} {next : Option RateTask}
    (productId : Uuid) (number : ℕ) (h : task.run limit shared = (s, e, next)) :
    (e.admits productId number).toNat + next.toList.countP (·.holds productId number) ≤
      (task.holds productId number).toNat + (e.handed? productId).toList.countP (isNumber number) := by
  cases task with
  | increment id =>
    simp only [run, Prod.mk.injEq] at h
    obtain ⟨-, rfl, rfl⟩ := h
    generalize (shared.raised id).value = current
    have hnext : (if current = 1 then RateTask.expire id current else .judge id current).holds productId number =
        (decide (id = productId) && decide (current = number)) := by split <;> rfl
    rw [Option.toList_some, List.countP_singleton, hnext]
    by_cases hid : id = productId
    · simp [RateEvent.admits, RateTask.holds, RateEvent.handed?, hid, isNumber]
    · simp [RateEvent.admits, RateTask.holds, RateEvent.handed?, hid]
  | expire id current =>
    simp only [run, Prod.mk.injEq] at h
    obtain ⟨-, rfl, rfl⟩ := h
    rw [Option.toList_some, List.countP_singleton]
    have hsame : (if (RateTask.judge id current).holds productId number = true then 1 else 0) =
        ((RateTask.expire id current).holds productId number).toNat := by
      rw [show (RateTask.judge id current).holds productId number =
        (RateTask.expire id current).holds productId number from rfl]
      cases (RateTask.expire id current).holds productId number <;> rfl
    rw [hsame]
    exact (Nat.zero_add _).le
  | judge id current =>
    simp only [run, Prod.mk.injEq] at h
    obtain ⟨-, rfl, rfl⟩ := h
    split
    · simp [RateEvent.admits]
    · by_cases hsame : id = productId ∧ current = number
      · simp [RateEvent.admits, RateTask.holds, RateEvent.handed?, hsame]
      · simp [RateEvent.admits, RateTask.holds, RateEvent.handed?, hsame]

/-- So does a step. -/
theorem RateStep.admits_le (h : RateStep limit p e q) (productId : Uuid) (number : ℕ) :
    (e.admits productId number).toNat + q.tasks.countP (·.holds productId number) ≤
      p.tasks.countP (·.holds productId number) + (e.handed? productId).toList.countP (isNumber number) := by
  cases h with
  | @ran before after task e s next position run =>
    have hrun := RateTask.run_holds productId number run
    rw [position, List.countP_append, List.countP_append, List.countP_append, List.countP_cons]
    have htask : (if task.holds productId number = true then 1 else 0) = (task.holds productId number).toNat := by
      cases task.holds productId number <;> rfl
    rw [htask]
    omega
  | came move =>
    cases move with
    | tick elapsed => simp [RateEvent.admits, RateEvent.handed?]
    | arrive product =>
      cases product <;> simp [RateEvent.admits, RateEvent.handed?, RateTask.canActivate, RateTask.holds]
  | @lost before after task position =>
    rw [position, List.countP_append, List.countP_append, List.countP_cons]
    simp [RateEvent.admits, RateEvent.handed?]

/-- What is let through on a number was handed out before, once for each time. -/
theorem RateStep.run_admits_le (h : Run (RateStep limit) p es q) (productId : Uuid) (number : ℕ) :
    es.countP (·.admits productId number) + q.tasks.countP (·.holds productId number) ≤
      p.tasks.countP (·.holds productId number) + (handedTo productId es).countP (isNumber number) := by
  induction h with
  | nil => simp [handedTo]
  | @cons p middle q e es hstep _ ih =>
    have hfirst := hstep.admits_le productId number
    have hsplit : handedTo productId (e :: es) = (e.handed? productId).toList ++ handedTo productId es := by
      rw [handedTo, List.filterMap_cons]
      cases e.handed? productId <;> rfl
    have hcount : (e :: es).countP (·.admits productId number) =
        es.countP (·.admits productId number) + (e.admits productId number).toNat := by
      rw [List.countP_cons]
      cases e.admits productId number <;> rfl
    rw [hsplit, List.countP_append, hcount]
    omega

/-- A request is let through only within the limit. -/
theorem RateStep.admitted_le (h : RateStep limit p (.admitted productId number) q) : number ≤ limit := by
  generalize he : RateEvent.admitted productId number = e at h
  cases h with
  | @ran before after task e s next position run =>
    cases task with
    | increment id =>
      simp only [RateTask.run, Prod.mk.injEq] at run
      exact absurd (run.2.1.trans he.symm) (by simp)
    | expire id current =>
      simp only [RateTask.run, Prod.mk.injEq] at run
      exact absurd (run.2.1.trans he.symm) (by simp)
    | judge id current =>
      simp only [RateTask.run, Prod.mk.injEq] at run
      have hevent := run.2.1.trans he.symm
      split at hevent
      · cases hevent
      · rename_i hwithin
        cases hevent
        exact Nat.le_of_not_lt hwithin
  | came move => cases move <;> cases he
  | lost position => cases he

/-- The counter of a product counts without end: it has no expiry, and no guard is about to set it. -/
structure Stuck (productId : Uuid) (value : ℕ) (p : Pool RateShared RateTask) : Prop where
  counter : p.shared.counters productId = some { value := value }
  unset : ∀ number, RateTask.expire productId number ∉ p.tasks
  positive : 1 ≤ value

/-- A counter without an expiry is raised, not started again. -/
theorem Stuck.raised {value : ℕ} (h : Stuck productId value p) :
    p.shared.raised productId = { value := value + 1 } := by
  have hlive : RateCounter.isLive p.shared.now { value := value } = true := rfl
  rw [RateShared.raised, RateShared.live, h.counter, Option.filter_some, if_pos hlive]

/-- What changes another counter, and starts no guard that would set this one's expiry, leaves it stuck. -/
theorem Stuck.frame {value : ℕ} (h : Stuck productId value p)
    (hcounter : q.shared.counters productId = p.shared.counters productId)
    (htasks : ∀ number, RateTask.expire productId number ∈ q.tasks → RateTask.expire productId number ∈ p.tasks) :
    Stuck productId value q :=
  ⟨hcounter.trans h.counter, fun number hmem => h.unset number (htasks number hmem), h.positive⟩

/-- A step leaves a stuck counter stuck, and raises it by one for each number that it hands out. -/
theorem Stuck.step {value : ℕ} (h : Stuck productId value p) (hstep : RateStep limit p e q) :
    (e.handed? productId = none ∧ Stuck productId value q) ∨
      ∃ now, e.handed? productId = some (now, value + 1) ∧ Stuck productId (value + 1) q := by
  cases hstep with
  | @ran before after task e s next position run =>
    have hothers : ∀ t, t ∈ before ++ (next.toList ++ after) → t ∈ next.toList ∨ t ∈ p.tasks := by
      intro t ht
      rw [position]
      rcases List.mem_append.mp ht with hbefore | hrest
      · exact .inr (List.mem_append_left _ hbefore)
      · exact (List.mem_append.mp hrest).imp_right fun hafter =>
          List.mem_append_right _ (List.mem_cons_of_mem _ hafter)
    cases task with
    | increment id =>
      simp only [RateTask.run, Prod.mk.injEq] at run
      obtain ⟨rfl, rfl, rfl⟩ := run
      by_cases hid : id = productId
      · subst hid
        have hnot : ¬value + 1 = 1 := by
          have hpositive := h.positive
          omega
        rw [h.raised, if_neg hnot]
        refine .inr ⟨p.shared.now, by rw [RateEvent.handed?, if_pos rfl], ?_, ?_, Nat.succ_pos _⟩
        · rw [RateShared.increment, RateShared.put_self, h.raised]
        · intro number hmem
          rw [h.raised, if_neg hnot] at hothers
          rcases hothers _ hmem with hnext | hold
          · cases List.mem_singleton.mp hnext
          · exact h.unset number hold
      · refine .inl ⟨by rw [RateEvent.handed?, if_neg hid], h.frame (RateShared.put_other _ hid _) ?_⟩
        intro number hmem
        refine (hothers _ hmem).resolve_left fun hnext => ?_
        have heq := List.mem_singleton.mp hnext
        split at heq
        · cases heq
          exact hid rfl
        · cases heq
    | expire id current =>
      simp only [RateTask.run, Prod.mk.injEq] at run
      obtain ⟨rfl, rfl, rfl⟩ := run
      have hid : id ≠ productId := by
        intro hid
        subst hid
        exact h.unset current (position ▸ List.mem_append_right _ List.mem_cons_self)
      refine .inl ⟨rfl, h.frame ?_ ?_⟩
      · change (p.shared.expire id 1).counters productId = p.shared.counters productId
        unfold RateShared.expire
        split
        · exact RateShared.put_other _ hid _
        · rfl
      · exact fun number hmem => (hothers _ hmem).resolve_left fun hnext => by cases List.mem_singleton.mp hnext
    | judge id current =>
      simp only [RateTask.run, Prod.mk.injEq] at run
      obtain ⟨rfl, rfl, rfl⟩ := run
      refine .inl ⟨by split <;> rfl, h.frame rfl ?_⟩
      exact fun number hmem => (hothers _ hmem).resolve_left List.not_mem_nil
  | came move =>
    cases move with
    | tick elapsed => exact .inl ⟨rfl, h.frame rfl fun number hmem => hmem⟩
    | arrive product =>
      refine .inl ⟨rfl, h.frame rfl fun number hmem => ?_⟩
      refine (List.mem_append.mp hmem).resolve_left fun hnew => ?_
      obtain ⟨payload, -, heq⟩ := List.mem_map.mp hnew
      cases heq
  | @lost before after task position =>
    refine .inl ⟨rfl, h.frame rfl fun number hmem => ?_⟩
    rw [position]
    exact (List.mem_append.mp hmem).elim (List.mem_append_left _) fun hafter =>
      List.mem_append_right _ (List.mem_cons_of_mem _ hafter)

/-- From then on, every request of the product gets the next number. -/
theorem Stuck.run {value : ℕ} (h : Stuck productId value p) (hrun : Run (RateStep limit) p es q) :
    (handedTo productId es).map (·.2) = List.range' (value + 1) (handedTo productId es).length := by
  induction hrun generalizing value with
  | nil => rfl
  | @cons p middle q e es hstep _ ih =>
    rcases h.step hstep with ⟨hquiet, hstuck⟩ | ⟨now, hhanded, hstuck⟩
    · rw [handedTo, List.filterMap_cons_none hquiet]
      exact ih hstuck
    · rw [handedTo, List.filterMap_cons_some hhanded, List.map_cons, List.length_cons, List.range'_succ]
      exact congrArg _ (ih hstuck)

end Admissions

/-- Whatever guards do, in whatever order, whenever their processes stop: what is let through was handed out before,
once for each time, and within the limit. Over any stretch of time, no more numbers within the limit are handed out than
the limit for each second, and for two more. A counter with an expiry is over within a second; one without, which no
guard is about to set, hands out every number once, so that it lets nothing through from the limit on. -/
theorem rate_limited {limit : ℕ} {p q : Pool RateShared RateTask} {es : List RateEvent} (hidle : p.tasks = [])
    (hfresh : ∀ id, p.shared.counters id = none) (hrun : Run (RateStep limit) p es q) (productId : Uuid) :
    (∀ number, es.countP (·.admits productId number) ≤ (handedTo productId es).countP (isNumber number)) ∧
      (∀ number, .admitted productId number ∈ es → number ≤ limit) ∧
      (∀ start length, (handedTo productId es).countP (inStretch limit start length) ≤ (length / 1001 + 2) * limit) ∧
      ∀ counter, q.shared.counters productId = some counter →
        (∀ expiresAt, counter.expiresAt = some expiresAt → expiresAt ≤ q.shared.now + 1000) ∧
        (counter.expiresAt = none → (∀ number, .expire productId number ∉ q.tasks) →
          ∀ es' r, Run (RateStep limit) q es' r → (handedTo productId es').map (·.2) =
            List.range' (counter.value + 1) (handedTo productId es').length) := by
  have hstart : Numbered productId [] p.shared :=
    ⟨.none, fun a ha => absurd ha List.not_mem_nil, by rw [hfresh productId]; rfl,
      fun counter hcounter => absurd (hfresh productId ▸ hcounter) (by simp)⟩
  have hnumbered : Numbered productId es q.shared := hstart.run hrun
  refine ⟨fun number => ?_, fun number hmem => ?_, fun start length => hnumbered.handed.bounded limit start length,
    fun counter hcounter => ⟨fun expiresAt hexpires => (hnumbered.deadline counter hcounter expiresAt hexpires).1,
      fun hnone hunset es' r hrest => ?_⟩⟩
  · have hle := RateStep.run_admits_le hrun productId number
    rw [hidle, List.countP_nil, Nat.zero_add] at hle
    exact (Nat.le_add_right _ _).trans hle
  · obtain ⟨before, after, hes⟩ := List.append_of_mem hmem
    rw [hes] at hrun
    obtain ⟨middle, next, -, hstep, -⟩ := hrun.exists_step
    exact hstep.admitted_le
  · have hpositive : 1 ≤ counter.value := by
      have hlast := hnumbered.last
      rw [hcounter, Option.map_some, Option.map_eq_some_iff] at hlast
      obtain ⟨a, ha, hvalue⟩ := hlast
      exact hvalue ▸ hnumbered.handed.positive a (List.mem_of_getLast? ha)
    have hstuck : Stuck productId counter.value q := ⟨by rw [hcounter, ← hnone], hunset, hpositive⟩
    exact hstuck.run hrest

/-- What the cache keeps of a product whose requests are limited. -/
def smallLimited : AuthCachePayload where
  productId := ⟨"limited", by decide⟩
  apiKeyHash := "hash"
  isActive := true
  origins := []
  hubRelay := false
  adapterType := "evolution"
  vpsProviderId := none
  batchWebhookEnabled := false
  batchWebhookUrl := none

/-- What is seen of four requests of its: one that is let through; two a second later, of which the one that started the
counter again is lost before it sets its expiry, and the other is refused; and one much later, which is refused too. -/
def smallGuards : List RateEvent :=
  let id := smallLimited.productId
  [.arrived, .counted id 0 1, .expiring id, .admitted id 1, .ticked, .arrived, .arrived, .counted id 1001 1,
    .counted id 1001 2, .lost, .refused id 2, .ticked, .arrived, .counted id 6001 3, .refused id 3]

/-- The counters as these requests leave them. -/
def smallCounters : RateShared :=
  let id := smallLimited.productId
  let begun : RateShared := { now := 0, counters := fun _ => none }
  let expired := { (begun.increment id).expire id 1 with now := 1001 }
  { (expired.increment id).increment id with now := 6001 }.increment id

/-- The requests may come and go like that. -/
theorem smallGuards_run : Run (RateStep 1) ⟨⟨0, fun _ => none⟩, []⟩ smallGuards ⟨smallCounters, []⟩ :=
  .cons (.came (.arrive (some smallLimited))) <| .cons (.first rfl rfl) <| .cons (.first rfl rfl) <|
  .cons (.first rfl rfl) <| .cons (.came (.tick 1001)) <| .cons (.came (.arrive (some smallLimited))) <|
  .cons (.came (.arrive (some smallLimited))) <| .cons (.first rfl rfl) <|
  .cons (.ran (show _ = [RateTask.expire smallLimited.productId 1] ++ .increment smallLimited.productId :: [] from rfl)
    rfl) <|
  .cons (.lost (show _ = [] ++ RateTask.expire smallLimited.productId 1 :: _ from rfl)) <| .cons (.first rfl rfl) <|
  .cons (.came (.tick 5000)) <| .cons (.came (.arrive (some smallLimited))) <| .cons (.first rfl rfl) <|
  .cons (.first rfl rfl) <| .nil _

/-- With a limit of one, the product of these requests is let through once for the two times that the first number is
handed out, and from then on whatever its requests do gets the numbers from the fourth on, so that none is let through
any more. -/
theorem rate_limited_small :
    smallGuards.countP (·.admits smallLimited.productId 1) ≤
        (handedTo smallLimited.productId smallGuards).countP (isNumber 1) ∧
      (∀ start length, (handedTo smallLimited.productId smallGuards).countP (inStretch 1 start length) ≤
        (length / 1001 + 2) * 1) ∧
      ∀ es r, Run (RateStep 1) ⟨smallCounters, []⟩ es r →
        (handedTo smallLimited.productId es).map (·.2) =
          List.range' 4 (handedTo smallLimited.productId es).length := by
  obtain ⟨honce, -, hbounded, hstuck⟩ := rate_limited rfl (fun _ => rfl) smallGuards_run smallLimited.productId
  exact ⟨honce 1, hbounded, (hstuck { value := 3 } rfl).2 rfl fun number => List.not_mem_nil⟩

end ConnectHub
