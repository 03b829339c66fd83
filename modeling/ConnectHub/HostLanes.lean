import ConnectHub.Json
import ConnectHub.Schema
import ConnectHub.Store.Pool
import Mathlib.Logic.Relation

/-!
# The lanes of a listing

At most three lanes ask the hosts of a listing for their sessions. They share a cursor, the first failure and
the signal that stops them all; a lane takes the next host only while nothing failed. Whatever the order in
which they go on, every host is taken once, and without a failure the lanes are done only when each host was
asked once and has its answer.
-/

namespace ConnectHub

open Store

section Model

/-- The members of a session as a provider lists it. -/
abbrev SessionRow := List (String × Json)

/-- What a listing throws. -/
inductive ListError
  | http (status : ℕ) (message : String)
  | thrown (message : String)
  /-- The result of a host was read before there was one. -/
  | undefinedResult
deriving DecidableEq, Repr

/-- What a stopped listing throws. -/
def requestTimedOut : ListError := .http 408 "Request timeout"

/-- What is thrown for a host that is not there any more. -/
def hostMissing : ListError := .http 404 "VpsProvider nao encontrado ou inativo"

/-- The answer of a host. -/
structure HostRows where
  rows : List SessionRow
  adapterType : String

/-- What the lanes share. Which hosts were asked, and at which a lane failed, is kept beside it. -/
structure ListingState where
  cursor : ℕ := 0
  failure : Option ListError := none
  stopped : Bool := false
  results : List (Uuid × HostRows) := []
  queries : List Uuid := []
  failed : List Uuid := []

/-- A lane by the call it waits for. -/
inductive Lane
  | idle
  | looking (id : Uuid)
  | fetching (id : Uuid) (adapterType : String)
  | done
deriving DecidableEq, Repr

/-- How a lane goes on: it starts, the provider was read and its adapter and key were prepared, or the host
answered. The time may be over when the lane looks. -/
inductive LaneEvent
  | start (expired : Bool)
  | found (provider : Except ListError (Option VpsProvider)) (prepared : Except ListError Unit)
  | answered (rows : Except ListError (List SessionRow)) (expired expiredNext : Bool)

/-- A lane goes on, or the timer of the listing runs out. -/
inductive ListingEvent
  | lane (index : ℕ) (event : LaneEvent)
  | timer

/-- A lane fails at a host: the first failure counts, and all lanes are stopped. -/
def ListingState.fail (s : ListingState) (id : Uuid) (error : ListError) : ListingState :=
  { s with failure := some (s.failure.getD error), stopped := true, failed := s.failed ++ [id] }

variable (ids : List Uuid)

/-- The head of the loop: take the next host, unless something failed or none is left. -/
def ListingState.claim (s : ListingState) (expired : Bool) : ListingState × Lane :=
  match s.failure, ids[s.cursor]? with
  | none, some id =>
    let taken := { s with cursor := s.cursor + 1 }
    -- After a failure the loop is over.
    if s.stopped || expired then (taken.fail id requestTimedOut, .done) else (taken, .looking id)
  | _, _ => (s, .done)

/-- A lane goes on until its next call. -/
def Lane.advance (s : ListingState) : Lane → LaneEvent → ListingState × Lane
  | .idle, .start expired => s.claim ids expired
  | .looking id, .found (.error error) _ => (s.fail id error, .done)
  | .looking id, .found (.ok none) _ => (s.fail id hostMissing, .done)
  | .looking id, .found (.ok (some _)) (.error error) => (s.fail id error, .done)
  | .looking id, .found (.ok (some provider)) (.ok _) =>
    ({ s with queries := s.queries ++ [id] }, .fetching id provider.adapterType)
  | .fetching id _, .answered (.error error) _ _ => (s.fail id error, .done)
  | .fetching id adapterType, .answered (.ok rows) expired expiredNext =>
    if s.stopped || expired then (s.fail id requestTimedOut, .done)
    else ListingState.claim ids { s with results := (id, ⟨rows, adapterType⟩) :: s.results } expiredNext
  | lane, _ => (s, lane)

/-- The lanes with what they share. -/
structure HostLanes where
  shared : ListingState := {}
  lanes : List Lane

/-- The lanes of a listing before they start. -/
def HostLanes.initial : HostLanes where
  lanes := List.replicate (min 3 ids.length) .idle

/-- One event. -/
def HostLanes.step (w : HostLanes) : ListingEvent → HostLanes
  | .lane index event =>
    match w.lanes[index]? with
    | some lane =>
      let moved := lane.advance ids w.shared event
      ⟨moved.1, w.lanes.set index moved.2⟩
    | none => w
  | .timer => { w with shared := { w.shared with stopped := true } }

/-- One event after another. -/
def HostLanes.exec (w : HostLanes) : List ListingEvent → HostLanes
  | [] => w
  | event :: events => HostLanes.exec (w.step ids event) events

/-- Whether all lanes are done. -/
def HostLanes.finished (w : HostLanes) : Bool := w.lanes.all fun lane => lane = .done

end Model

section Course

/-- Whether a lane reads the provider of a host. -/
def Lane.looksFor (id : Uuid) : Lane → Bool
  | .looking other => other = id
  | _ => false

/-- Whether a lane waits for a host. -/
def Lane.fetches (id : Uuid) : Lane → Bool
  | .fetching other _ => other = id
  | _ => false

/-- Whether a lane is at a host. -/
def Lane.Holds (id : Uuid) (lane : Lane) : Prop :=
  lane = .looking id ∨ ∃ adapterType, lane = .fetching id adapterType

variable {ids : List Uuid} {s s' : ListingState} {lane lane' : Lane} {w : HostLanes}

/-- The moves that a lane is made of. -/
inductive LaneMove (ids : List Uuid) (s : ListingState) : Lane → ListingState → Lane → Prop
  | took {id : Uuid} (hnext : ids[s.cursor]? = some id) :
    LaneMove ids s .idle { s with cursor := s.cursor + 1 } (.looking id)
  | asked {id : Uuid} (adapterType : String) :
    LaneMove ids s (.looking id) { s with queries := s.queries ++ [id] } (.fetching id adapterType)
  | stored {id : Uuid} {adapterType : String} (host : HostRows) :
    LaneMove ids s (.fetching id adapterType) { s with results := (id, host) :: s.results } .idle
  | failed {lane : Lane} {id : Uuid} (hholds : lane.Holds id) (error : ListError) :
    LaneMove ids s lane (s.fail id error) .done
  | stopped (hover : s.failure ≠ none ∨ ids.length ≤ s.cursor) : LaneMove ids s .idle s .done

/-- Several moves of one lane. -/
abbrev LaneMoves (ids : List Uuid) : ListingState × Lane → ListingState × Lane → Prop :=
  Relation.ReflTransGen fun a b => LaneMove ids a.1 a.2 b.1 b.2

/-- The head of the loop is made of moves. -/
theorem claim_moves (ids : List Uuid) (s : ListingState) (expired : Bool) :
    LaneMoves ids (s, .idle) (s.claim ids expired) := by
  unfold ListingState.claim
  split
  next id hfailure hnext =>
    have htook : LaneMoves ids (s, .idle) ({ s with cursor := s.cursor + 1 }, .looking id) :=
      .single (.took hnext)
    split
    · exact htook.tail (.failed (.inl rfl) requestTimedOut)
    · exact htook
  next hover =>
    refine .single (.stopped ?_)
    by_contra hmore
    rw [not_or, not_not, Nat.not_le] at hmore
    exact hover _ hmore.1 (List.getElem?_eq_getElem hmore.2)

/-- So is each way a lane goes on. -/
theorem advance_moves (ids : List Uuid) (s : ListingState) (lane : Lane) (event : LaneEvent) :
    LaneMoves ids (s, lane) (lane.advance ids s event) := by
  unfold Lane.advance
  split
  · exact claim_moves ids s _
  · exact .single (.failed (.inl rfl) _)
  · exact .single (.failed (.inl rfl) _)
  · exact .single (.failed (.inl rfl) _)
  · exact .single (.asked _)
  · exact .single (.failed (.inr ⟨_, rfl⟩) _)
  · split
    · exact .single (.failed (.inr ⟨_, rfl⟩) _)
    · exact .head (.stored _) (claim_moves ids _ _)
  · exact .refl

/-- How often a host was taken, and where it is now: a lane is at it, it has an answer or it failed. -/
structure HostLanes.CountedAt (ids : List Uuid) (w : HostLanes) (id : Uuid) : Prop where
  taken : w.lanes.countP (Lane.looksFor id) + w.lanes.countP (Lane.fetches id) +
    (w.shared.results.map (·.1)).count id + w.shared.failed.count id = (ids.take w.shared.cursor).count id
  asked : w.shared.queries.count id + w.lanes.countP (Lane.looksFor id) ≤ (ids.take w.shared.cursor).count id
  answered : (w.shared.results.map (·.1)).count id + w.lanes.countP (Lane.fetches id) ≤ w.shared.queries.count id

/-- Every host is accounted for, and a lane is done only when something failed or no host is left. -/
structure HostLanes.Counted (ids : List Uuid) (w : HostLanes) : Prop where
  counts : ∀ id, w.CountedAt ids id
  failure : w.shared.failed ≠ [] → w.shared.failure ≠ none
  finished : Lane.done ∈ w.lanes → w.shared.failure ≠ none ∨ ids.length ≤ w.shared.cursor

/-- Nothing was taken before the lanes start. -/
theorem counted_initial (ids : List Uuid) : (HostLanes.initial ids).Counted ids where
  counts := fun id => by
    have hlooks : (HostLanes.initial ids).lanes.countP (Lane.looksFor id) = 0 := List.countP_replicate
    have hfetches : (HostLanes.initial ids).lanes.countP (Lane.fetches id) = 0 := List.countP_replicate
    constructor
    · rw [hlooks, hfetches]
      rfl
    · rw [hlooks]
      exact Nat.le_refl 0
    · rw [hfetches]
      exact Nat.le_refl 0
  failure := fun hfailed => absurd rfl hfailed
  finished := fun hdone => by cases List.eq_of_mem_replicate hdone

/-- One more at the end of a list counts once. -/
theorem count_snoc (xs : List Uuid) (next id : Uuid) :
    (xs ++ [next]).count id = xs.count id + (decide (next = id)).toNat := by
  rw [List.count_append, List.count_singleton]
  by_cases hsame : next = id
  · rw [if_pos (beq_iff_eq.mpr hsame), decide_eq_true hsame]
    rfl
  · rw [if_neg (mt beq_iff_eq.mp hsame), decide_eq_false hsame]
    rfl

/-- The host at the cursor is taken next. -/
theorem count_take_next {cursor : ℕ} {next : Uuid} (hnext : ids[cursor]? = some next) (id : Uuid) :
    (ids.take (cursor + 1)).count id = (ids.take cursor).count id + (decide (next = id)).toNat := by
  rw [List.take_add_one, hnext]
  exact count_snoc _ next id

/-- An answer is one more. -/
theorem count_answer (results : List (Uuid × HostRows)) (next id : Uuid) (host : HostRows) :
    (((next, host) :: results).map (·.1)).count id = (results.map (·.1)).count id + (decide (next = id)).toNat := by
  rw [List.map_cons, ← count_snoc, List.count_append, List.count_cons, List.count_singleton]

/-- A move of one lane keeps the account of each host. -/
theorem LaneMove.countedAt {index : ℕ} {lanes : List Lane} {id : Uuid} (hlane : lanes[index]? = some lane)
    (hmove : LaneMove ids s lane s' lane') (h : HostLanes.CountedAt ids ⟨s, lanes⟩ id) :
    HostLanes.CountedAt ids ⟨s', lanes.set index lane'⟩ id := by
  have hlooks := countP_set_add hlane lane' (Lane.looksFor id)
  have hfetches := countP_set_add hlane lane' (Lane.fetches id)
  obtain ⟨htaken, hasked, hanswered⟩ := h
  cases hmove with
  | @took next hnext =>
    have hcursor := count_take_next hnext id
    simp only [Lane.looksFor, Lane.fetches, Bool.toNat_false] at hlooks hfetches
    constructor <;> dsimp only at * <;> omega
  | @asked next adapterType =>
    have hqueries := count_snoc s.queries next id
    simp only [Lane.looksFor, Lane.fetches, Bool.toNat_false] at hlooks hfetches
    constructor <;> dsimp only at * <;> omega
  | @stored next adapterType host =>
    have hresults := count_answer s.results next id host
    simp only [Lane.looksFor, Lane.fetches, Bool.toNat_false] at hlooks hfetches
    constructor <;> dsimp only at * <;> omega
  | @failed _ next hholds error =>
    have hfailed := count_snoc s.failed next id
    rcases hholds with rfl | ⟨adapterType, rfl⟩ <;>
      simp only [Lane.looksFor, Lane.fetches, Bool.toNat_false] at hlooks hfetches <;>
      constructor <;> dsimp only [ListingState.fail] at * <;> omega
  | stopped hreason =>
    simp only [Lane.looksFor, Lane.fetches, Bool.toNat_false] at hlooks hfetches
    constructor <;> dsimp only at * <;> omega

/-- And it keeps the account of them all. -/
theorem LaneMove.counted {index : ℕ} {lanes : List Lane} (hlane : lanes[index]? = some lane)
    (hmove : LaneMove ids s lane s' lane') (h : HostLanes.Counted ids ⟨s, lanes⟩) :
    HostLanes.Counted ids ⟨s', lanes.set index lane'⟩ := by
  refine ⟨fun id => hmove.countedAt hlane (h.counts id), ?_, fun hmem => ?_⟩
  · cases hmove with
    | failed _ error => exact fun _ => Option.some_ne_none _
    | _ => exact h.failure
  · have hbefore : lane' = .done ∨ Lane.done ∈ lanes := (List.mem_or_eq_of_mem_set hmem).symm.imp_left Eq.symm
    cases hmove with
    | took hnext =>
      rcases hbefore with hlooking | hmem
      · cases hlooking
      · exact (h.finished hmem).imp_right Nat.le_succ_of_le
    | failed _ error => exact .inl (Option.some_ne_none _)
    | stopped hover => exact hover
    | _ =>
      rcases hbefore with hother | hmem
      · cases hother
      · exact h.finished hmem

/-- So do the moves a lane makes until its next call. -/
theorem LaneMoves.counted {index : ℕ} {lanes : List Lane} {next : ListingState × Lane}
    (hlane : lanes[index]? = some lane) (hmoves : LaneMoves ids (s, lane) next)
    (h : HostLanes.Counted ids ⟨s, lanes⟩) : HostLanes.Counted ids ⟨next.1, lanes.set index next.2⟩ := by
  obtain ⟨hlt, hget⟩ := List.getElem?_eq_some_iff.mp hlane
  induction hmoves with
  | refl =>
    rw [← hget, List.set_getElem_self]
    exact h
  | @tail before after _ hmove ih =>
    have hbefore : (lanes.set index before.2)[index]? = some before.2 := List.getElem?_set_self hlt
    have hafter := hmove.counted hbefore ih
    rw [List.set_set] at hafter
    exact hafter

/-- An event keeps them, and no lane is lost. -/
theorem step_counted (event : ListingEvent) (h : w.Counted ids) :
    (w.step ids event).Counted ids ∧ (w.step ids event).lanes.length = w.lanes.length := by
  cases event with
  | timer =>
    have hcounts : ∀ id, (w.step ids .timer).CountedAt ids id := fun id =>
      ⟨(h.counts id).taken, (h.counts id).asked, (h.counts id).answered⟩
    exact ⟨⟨hcounts, h.failure, h.finished⟩, rfl⟩
  | lane index event =>
    rw [HostLanes.step]
    cases hlane : w.lanes[index]? with
    | none => exact ⟨h, rfl⟩
    | some lane =>
      exact ⟨LaneMoves.counted hlane (advance_moves ids w.shared lane event) h, List.length_set⟩

/-- So do all events of a listing. -/
theorem exec_counted (events : List ListingEvent) (h : w.Counted ids) :
    (w.exec ids events).Counted ids ∧ (w.exec ids events).lanes.length = w.lanes.length := by
  induction events generalizing w with
  | nil => exact ⟨h, rfl⟩
  | cons event events ih =>
    obtain ⟨hstep, hlength⟩ := step_counted event h
    obtain ⟨hrest, hlengths⟩ := ih hstep
    exact ⟨hrest, hlengths.trans hlength⟩

/-- A host is asked only if it is one of the listing, and once at most. -/
theorem HostLanes.Counted.asked_le (h : w.Counted ids) (id : Uuid) : w.shared.queries.count id ≤ ids.count id := by
  have hasked := (h.counts id).asked
  have htaken : (ids.take w.shared.cursor).count id ≤ ids.count id := (List.take_sublist _ _).count_le id
  omega

/-- Where the lanes are done and nothing failed, each host was asked as often as it is there and has its answer,
and no lane failed at one. -/
theorem HostLanes.Counted.complete (h : w.Counted ids) (hlanes : w.lanes.length = min 3 ids.length)
    (hfinished : w.finished = true) (hfailure : w.shared.failure = none) :
    w.shared.failed = [] ∧ ∀ id, w.shared.queries.count id = ids.count id ∧
      (w.shared.results.map (·.1)).count id = ids.count id := by
  have hdone : ∀ lane ∈ w.lanes, lane = .done := by
    simpa only [HostLanes.finished, List.all_eq_true, decide_eq_true_eq] using hfinished
  have hfailed : w.shared.failed = [] := by
    by_contra hsome
    exact h.failure hsome hfailure
  have hcursor : ids.length ≤ w.shared.cursor := by
    cases hlist : w.lanes with
    | nil =>
      rw [hlist, List.length_nil] at hlanes
      omega
    | cons lane lanes =>
      have hmem : lane ∈ w.lanes := hlist ▸ List.mem_cons_self
      exact (h.finished (hdone lane hmem ▸ hmem)).resolve_left (not_not_intro hfailure)
  refine ⟨hfailed, fun id => ?_⟩
  have hidle : ∀ counts : Lane → Bool, counts .done = false → w.lanes.countP counts = 0 := by
    intro counts hcounts
    rw [List.countP_eq_zero]
    intro lane hlane
    rw [hdone lane hlane, hcounts]
    exact Bool.false_ne_true
  have hlooks := hidle (Lane.looksFor id) rfl
  have hfetches := hidle (Lane.fetches id) rfl
  obtain ⟨htaken, hasked, hanswered⟩ := h.counts id
  rw [hlooks, hfetches, hfailed, List.take_of_length_le hcursor, List.count_nil] at htaken
  rw [hlooks, List.take_of_length_le hcursor] at hasked
  rw [hfetches] at hanswered
  omega

/-- So a host of the listing was asked once then, and has an answer. -/
theorem HostLanes.Counted.answered (h : w.Counted ids) (hlanes : w.lanes.length = min 3 ids.length)
    (hfinished : w.finished = true) (hfailure : w.shared.failure = none) (hids : ids.Nodup) {id : Uuid}
    (hid : id ∈ ids) : w.shared.queries.count id = 1 ∧ ∃ host, w.shared.results.lookup id = some host := by
  obtain ⟨hqueries, hresults⟩ := (h.complete hlanes hfinished hfailure).2 id
  rw [List.count_eq_one_of_mem hids hid] at hqueries hresults
  have hmem : id ∈ w.shared.results.map (·.1) := by
    rw [← List.count_pos_iff, hresults]
    exact Nat.one_pos
  obtain ⟨answer, hanswer, hkey⟩ := List.mem_map.mp hmem
  refine ⟨hqueries, ?_⟩
  rw [← Option.isSome_iff_exists, List.lookup_isSome_iff]
  exact ⟨answer, hanswer, beq_iff_eq.mpr hkey.symm⟩

end Course

end ConnectHub
