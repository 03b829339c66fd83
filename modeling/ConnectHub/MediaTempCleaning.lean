import ConnectHub.MediaTempSafety

/-!
# The directories of the dead are removed

A process that begins and is not disturbed removes exactly the directories whose owners are dead processes of its
host. Those that this program left behind on the host are among them, as long as nothing else has taken the number of
their owner.
-/

namespace ConnectHub

open Store

section Orphans

/-- Whether a directory belongs to a dead process of a host. -/
def TempWorld.isOrphan (world : TempWorld) (hostname : String) (entry : TempEntry) : Bool :=
  match runDigits entry.name, entry.marker with
  | some digits, some marker =>
    entry.kind == .directory && (marker.kind == .file && decide (marker.size ≤ 4096)) &&
      (ownerPid hostname digits marker.text).any fun pid => !world.isAlive hostname pid
  | _, _ => false

/-- What a process does to look at an entry: its marker is examined and read, and the entry removed. -/
def cleaningRound (i : ℕ) : List TempWorld.Event :=
  [.act i (.examined true), .act i (.read true), .act i (.removed true)]

/-- What a process does to look at so many entries. -/
def cleaningRounds (i : ℕ) : ℕ → List TempWorld.Event
  | 0 => []
  | n + 1 => cleaningRound i ++ cleaningRounds i n

/-- An entry as it is listed. -/
def TempEntry.listed (entry : TempEntry) : ListedEntry := ⟨entry.name, entry.kind⟩

end Orphans

section Cleaning

namespace TempWorld

variable {world : TempWorld} {i : ℕ} {process : TempProcess}

/-- A process that looks for orphans has one to look at, or makes its directory. -/
theorem cleanOrphans_cases (rest : List ListedEntry) :
    cleanOrphans rest = .making ∨ ∃ name digits more, cleanOrphans rest = .examining name digits more := by
  induction rest with
  | nil => exact .inl rfl
  | cons entry rest ih =>
    rw [cleanOrphans]
    split
    · split
      · exact .inr ⟨_, _, _, rfl⟩
      · exact ih
    · exact ih

/-- The world in which a process waits for something in its initialization, with such entries. -/
def lookAt (world : TempWorld) (i : ℕ) (process : TempProcess) (entries : Table TempEntry)
    (initialization : Initialization) : TempWorld :=
  ({ world with entries } : TempWorld).withStore i process (process.store.await initialization)

/-- The process as it is there. -/
def lookingProcess (process : TempProcess) (initialization : Initialization) : TempProcess :=
  { process with store := process.store.await initialization }

/-- The process is there. -/
theorem lookAt_process (hprocess : world.processes[i]? = some process) (entries : Table TempEntry)
    (initialization : Initialization) :
    (world.lookAt i process entries initialization).processes[i]? = some (lookingProcess process initialization) := by
  have hi : i < world.processes.length := (List.getElem?_eq_some_iff.mp hprocess).1
  rw [lookAt, withStore, List.getElem?_set, if_pos rfl, if_pos hi]
  rfl

/-- The same processes are alive. -/
theorem lookAt_isAlive (hprocess : world.processes[i]? = some process) (entries : Table TempEntry)
    (initialization : Initialization) (hostname : String) (pid : ℕ) :
    (world.lookAt i process entries initialization).isAlive hostname pid = world.isAlive hostname pid := by
  obtain ⟨hi, hget⟩ := List.getElem?_eq_some_iff.mp hprocess
  have hsame : ∀ processes : List TempProcess, (processes.any fun process => process.alive &&
      process.hostname == hostname && process.pid == pid) =
      (processes.map fun process => process.alive && process.hostname == hostname && process.pid == pid).any id := by
    intro processes
    rw [List.any_map]
    rfl
  unfold lookAt withStore isAlive
  rw [hsame, hsame]
  simp only [List.map_set]
  congr 1
  refine List.ext_getElem? fun j => ?_
  rw [List.getElem?_set, List.getElem?_map, List.length_map]
  by_cases hj : i = j
  · subst hj
    rw [if_pos rfl, if_pos hi, hprocess]
    rfl
  · rw [if_neg hj]

/-- The process goes on. -/
theorem lookAt_withStore (entries other : Table TempEntry) (initialization next : Initialization) :
    ({ world.lookAt i process entries initialization with entries := other } : TempWorld).withStore i
      (lookingProcess process initialization) ((lookingProcess process initialization).store.await next) =
      world.lookAt i process other next := by
  simp only [lookAt, withStore, List.set_set]
  rfl

/-- What the process does is part of its initialization. -/
theorem lookAt_step (hprocess : world.processes[i]? = some process) (halive : process.alive = true)
    (entries : Table TempEntry) (initialization : Initialization) {action : TempAction}
    (haction : action ∈ [TempAction.examined true, .read true, .removed true]) :
    (world.lookAt i process entries initialization).step (.act i action) =
      (world.lookAt i process entries initialization).runInitialization i (lookingProcess process initialization)
        initialization action := by
  have hlooking : (lookingProcess process initialization).alive = true := halive
  simp only [TempWorld.step, lookAt_process hprocess, hlooking, if_true]
  simp only [List.mem_cons, List.not_mem_nil, or_false] at haction
  rcases haction with rfl | rfl | rfl <;> rfl

/-- What is awaited of other entries is not awaited yet. -/
theorem lookAt_idle (hprocess : world.processes[i]? = some process) (halive : process.alive = true)
    (entries : Table TempEntry) (rest : List ListedEntry) {action : TempAction}
    (haction : action ∈ [TempAction.read true, .removed true]) :
    (world.lookAt i process entries (cleanOrphans rest)).step (.act i action) =
      world.lookAt i process entries (cleanOrphans rest) := by
  rw [lookAt_step hprocess halive _ _ (List.mem_cons_of_mem _ haction)]
  simp only [List.mem_cons, List.not_mem_nil, or_false] at haction
  rcases cleanOrphans_cases rest with hmaking | ⟨name, digits, more, hexamining⟩
  · rw [hmaking]
    rcases haction with rfl | rfl <;> rfl
  · rw [hexamining]
    rcases haction with rfl | rfl <;> rfl

/-- A round looks at an entry, and removes it if it is an orphan. -/
theorem lookAt_round (hprocess : world.processes[i]? = some process) (halive : process.alive = true)
    {entries : Table TempEntry} {entry : TempEntry} (hentry : entry ∈ entries) {digits : List Char}
    (hdigits : runDigits entry.name = some digits) (hkind : entry.kind = .directory) (rest : List ListedEntry) :
    (world.lookAt i process entries (.examining entry.name digits rest)).exec (cleaningRound i) =
      world.lookAt i process
        (if world.isOrphan process.hostname entry then entries.remove fun other => other.name = entry.name
          else entries) (cleanOrphans rest) := by
  have hfind : entries.find? entry.name = some entry := Table.find?_key hentry
  have hleft : ∀ action ∈ [TempAction.read true, .removed true], (world.lookAt i process entries
      (cleanOrphans rest)).step (.act i action) = world.lookAt i process entries (cleanOrphans rest) :=
    fun action haction => lookAt_idle hprocess halive entries rest haction
  have hexamined : (world.lookAt i process entries (.examining entry.name digits rest)).step
      (.act i (.examined true)) = world.lookAt i process entries
        ((world.lookAt i process entries (.examining entry.name digits rest)).examine entry.name digits rest true) := by
    rw [lookAt_step hprocess halive _ _ List.mem_cons_self]
    exact lookAt_withStore entries entries _ _
  have hread : (world.lookAt i process entries (.reading entry.name digits rest)).step (.act i (.read true)) =
      world.lookAt i process entries ((world.lookAt i process entries (.reading entry.name digits rest)).readOwner
        process.hostname entry.name digits rest true) := by
    rw [lookAt_step hprocess halive _ _ (List.mem_cons_of_mem _ List.mem_cons_self)]
    exact lookAt_withStore entries entries _ _
  have hremoved : (world.lookAt i process entries (.removing entry.name rest)).step (.act i (.removed true)) =
      world.lookAt i process (entries.remove fun other => other.name = entry.name) (cleanOrphans rest) := by
    rw [lookAt_step hprocess halive _ _ (List.mem_cons_of_mem _ (List.mem_cons_of_mem _ List.mem_cons_self))]
    exact lookAt_withStore entries _ _ _
  unfold exec cleaningRound
  simp only [List.foldl_cons, List.foldl_nil]
  rw [hexamined]
  unfold examine isOrphan
  have hentries : ∀ initialization, (world.lookAt i process entries initialization).entries = entries := fun _ => rfl
  simp only [hentries, hfind, Option.bind_some, hdigits, hkind]
  cases hmarker : entry.marker with
  | none =>
    simp only [Bool.false_eq_true, if_false]
    rw [hleft _ List.mem_cons_self, hleft _ (List.mem_cons_of_mem _ List.mem_cons_self)]
  | some marker =>
    by_cases hfile : marker.kind = .file ∧ marker.size ≤ 4096
    · simp only [hfile, and_self, if_true, decide_true, beq_self_eq_true, Bool.true_and]
      rw [hread]
      unfold readOwner
      simp only [hentries, hfind, Option.bind_some, hmarker]
      cases ownerPid process.hostname digits marker.text with
      | none =>
        simp only [Option.any_none, Bool.false_eq_true, if_false]
        exact hleft _ (List.mem_cons_of_mem _ List.mem_cons_self)
      | some pid =>
        simp only [Option.any_some, lookAt_isAlive hprocess, true_and]
        rcases Bool.eq_false_or_eq_true (world.isAlive process.hostname pid) with hlives | hdead
        · simp only [hlives, Bool.not_true, Bool.false_eq_true, if_false]
          exact hleft _ (List.mem_cons_of_mem _ List.mem_cons_self)
        · simp only [hdead, Bool.not_false, if_true]
          exact hremoved
    · have hnot : (marker.kind == .file && decide (marker.size ≤ 4096)) = false := by
        rw [Bool.eq_false_iff]
        intro hboth
        rw [Bool.and_eq_true, beq_iff_eq, decide_eq_true_eq] at hboth
        exact hfile hboth
      simp only [true_and, hfile, if_false, hnot, beq_self_eq_true, Bool.true_and, Bool.false_and, Bool.false_eq_true]
      rw [hleft _ List.mem_cons_self, hleft _ (List.mem_cons_of_mem _ List.mem_cons_self)]

/-- A process that has looked at all entries is not moved by further rounds. -/
theorem lookAt_making (hprocess : world.processes[i]? = some process) (halive : process.alive = true)
    (entries : Table TempEntry) (n : ℕ) :
    (world.lookAt i process entries .making).exec (cleaningRounds i n) = world.lookAt i process entries .making := by
  have hstill : ∀ action ∈ [TempAction.examined true, .read true, .removed true],
      (world.lookAt i process entries .making).step (.act i action) = world.lookAt i process entries .making := by
    intro action haction
    rw [lookAt_step hprocess halive entries .making haction]
    simp only [List.mem_cons, List.not_mem_nil, or_false] at haction
    rcases haction with rfl | rfl | rfl <;> rfl
  induction n with
  | zero => rfl
  | succ n ih =>
    rw [cleaningRounds, cleaningRound, exec, List.foldl_append, List.foldl_cons, List.foldl_cons, List.foldl_cons,
      List.foldl_nil, hstill _ List.mem_cons_self, hstill _ (List.mem_cons_of_mem _ List.mem_cons_self),
      hstill _ (List.mem_cons_of_mem _ (List.mem_cons_of_mem _ List.mem_cons_self))]
    exact ih

/-- As many rounds as there are entries look at all of them, and remove the orphans. -/
theorem lookAt_rounds (hprocess : world.processes[i]? = some process) (halive : process.alive = true)
    (todo : List TempEntry) (entries : Table TempEntry) (hnodup : (todo.map TempEntry.name).Nodup)
    (htodo : ∀ entry ∈ todo, entry ∈ entries) {n : ℕ} (hn : todo.length ≤ n) :
    ∃ left : Table TempEntry, (world.lookAt i process entries (cleanOrphans (todo.map TempEntry.listed))).exec
        (cleaningRounds i n) = world.lookAt i process left .making ∧
      ∀ entry, entry ∈ left ↔ entry ∈ entries ∧ ¬(entry ∈ todo ∧ world.isOrphan process.hostname entry = true) := by
  induction todo generalizing entries n with
  | nil =>
    refine ⟨entries, lookAt_making hprocess halive entries n, fun entry => ?_⟩
    simp only [List.not_mem_nil, false_and, not_false_eq_true, and_true]
  | cons first todo ih =>
    rw [List.map_cons, List.nodup_cons] at hnodup
    have hfirst : first ∈ entries := htodo first List.mem_cons_self
    have hrest : ∀ entry ∈ todo, entry ∈ entries := fun entry hentry => htodo entry (List.mem_cons_of_mem _ hentry)
    rw [List.length_cons] at hn
    have hcons : world.isOrphan process.hostname first = false → ∀ entry,
        (entry ∈ entries ∧ ¬(entry ∈ todo ∧ world.isOrphan process.hostname entry = true)) ↔
          entry ∈ entries ∧ ¬(entry ∈ first :: todo ∧ world.isOrphan process.hostname entry = true) := by
      intro horphan entry
      rw [List.mem_cons]
      refine and_congr_right fun _ => not_congr ⟨fun h => ⟨.inr h.1, h.2⟩, fun h => ⟨?_, h.2⟩⟩
      rcases h.1 with rfl | hmem
      · exact absurd (horphan.symm.trans h.2) Bool.false_ne_true
      · exact hmem
    -- An entry that is not looked at is no orphan.
    have hskip : world.isOrphan process.hostname first = false →
        cleanOrphans (first.listed :: todo.map TempEntry.listed) = cleanOrphans (todo.map TempEntry.listed) →
        ∃ left : Table TempEntry, (world.lookAt i process entries
            (cleanOrphans (first.listed :: todo.map TempEntry.listed))).exec (cleaningRounds i n) =
            world.lookAt i process left .making ∧
          ∀ entry, entry ∈ left ↔
            entry ∈ entries ∧ ¬(entry ∈ first :: todo ∧ world.isOrphan process.hostname entry = true) := by
      intro horphan hsame
      obtain ⟨left, hexec, hleft⟩ := ih entries hnodup.2 hrest (n := n) (by omega)
      exact ⟨left, hsame ▸ hexec, fun entry => (hleft entry).trans (hcons horphan entry)⟩
    rw [List.map_cons]
    cases hdigits : runDigits first.name with
    | none =>
      refine hskip ?_ ?_
      · unfold isOrphan
        rw [hdigits]
      · rw [cleanOrphans, TempEntry.listed, hdigits]
    | some digits =>
      by_cases hkind : first.kind = .directory
      · have hexamining : cleanOrphans (first.listed :: todo.map TempEntry.listed) =
            .examining first.name digits (todo.map TempEntry.listed) := by
          rw [cleanOrphans, TempEntry.listed, hdigits]
          exact if_pos hkind
        obtain ⟨m, rfl⟩ : ∃ m, n = m + 1 := ⟨n - 1, by omega⟩
        rw [hexamining, cleaningRounds, exec, List.foldl_append]
        change ∃ left, exec (exec _ (cleaningRound i)) _ = _ ∧ _
        rw [lookAt_round hprocess halive hfirst hdigits hkind]
        rcases Bool.eq_false_or_eq_true (world.isOrphan process.hostname first) with horphan | horphan
        · rw [if_pos horphan]
          have hremain : ∀ entry ∈ todo, entry ∈ entries.remove fun other => other.name = first.name := by
            refine fun entry hentry => Table.mem_remove.mpr ⟨hrest entry hentry, decide_eq_false fun hname => ?_⟩
            exact hnodup.1 (hname ▸ List.mem_map_of_mem hentry)
          obtain ⟨left, hexec, hleft⟩ := ih _ hnodup.2 hremain (n := m) (by omega)
          refine ⟨left, hexec, fun entry => ?_⟩
          rw [hleft entry, Table.mem_remove, List.mem_cons, decide_eq_false_iff_not]
          constructor
          · rintro ⟨⟨hentry, hname⟩, hnot⟩
            refine ⟨hentry, fun hboth => hnot ⟨hboth.1.resolve_left fun heq => hname ?_, hboth.2⟩⟩
            rw [heq]
          · rintro ⟨hentry, hnot⟩
            refine ⟨⟨hentry, fun hname => hnot ⟨.inl ?_, ?_⟩⟩, fun hboth => hnot ⟨.inr hboth.1, hboth.2⟩⟩
            · exact Table.eq_of_key_eq hentry hfirst hname
            · rw [Table.eq_of_key_eq hentry hfirst hname]
              exact horphan
        · rw [if_neg (Bool.eq_false_iff.mp horphan)]
          obtain ⟨left, hexec, hleft⟩ := ih entries hnodup.2 hrest (n := m) (by omega)
          exact ⟨left, hexec, fun entry => (hleft entry).trans (hcons horphan entry)⟩
      · refine hskip ?_ ?_
        · unfold isOrphan
          rw [hdigits]
          cases first.marker with
          | none => rfl
          | some marker => simp only [beq_eq_false_iff_ne.mpr hkind, Bool.false_and]
        · rw [cleanOrphans, TempEntry.listed, hdigits]
          exact if_neg hkind

/-- A process that begins and is not disturbed removes the orphans, and nothing else. -/
theorem listed_rounds (hprocess : world.processes[i]? = some process) (halive : process.alive = true)
    (hdirectory : process.store.directory = .initializing .listing) :
    ∃ left : Table TempEntry,
      world.exec (.act i (.listed true) :: cleaningRounds i world.entries.rows.length) =
        world.lookAt i process left .making ∧
      ∀ entry, entry ∈ left ↔ entry ∈ world.entries ∧ world.isOrphan process.hostname entry = false := by
  have hlisted : world.step (.act i (.listed true)) =
      world.lookAt i process world.entries (cleanOrphans (world.entries.rows.map TempEntry.listed)) := by
    simp only [TempWorld.step, hprocess, halive, if_true, act, hdirectory]
    rfl
  obtain ⟨left, hexec, hleft⟩ := lookAt_rounds hprocess halive world.entries.rows world.entries world.entries.nodup
    (fun _ hentry => hentry) (Nat.le_refl _)
  refine ⟨left, ?_, fun entry => ?_⟩
  · rw [exec, List.foldl_cons, hlisted]
    exact hexec
  · rw [hleft entry]
    constructor
    · rintro ⟨hentry, hnot⟩
      exact ⟨hentry, Bool.eq_false_iff.mpr fun horphan => hnot ⟨hentry, horphan⟩⟩
    · rintro ⟨hentry, hnot⟩
      exact ⟨hentry, fun horphan => Bool.false_ne_true (hnot.symm.trans horphan.2)⟩

end TempWorld

/-- The directory of a dead process of a host is an orphan there, unless its number was taken again. -/
theorem TempWorld.Sound.isOrphan {world : TempWorld} (h : world.Sound) {j : ℕ} {owner : TempProcess}
    (howner : world.processes[j]? = some owner) {name : List Char} (hready : owner.store.directory = .ready name)
    (hsize : (ownerMarker owner.hostname owner.pid).size ≤ 4096)
    (hdead : world.isAlive owner.hostname owner.pid = false) {entry : TempEntry} (hentry : entry ∈ world.entries)
    (hname : entry.name = name) : world.isOrphan owner.hostname entry = true := by
  have hsound := h.each j owner howner
  have hown : owner.store.own = some name := by rw [MediaTempStore.own, hready]
  obtain ⟨uuid, hformed⟩ := hsound.formed name hown
  obtain ⟨hkind, hmarked⟩ := hsound.marked name hown entry hentry hname
  obtain ⟨marker, hmarker⟩ := Option.isSome_iff_exists.mp (hsound.signed name hready entry hentry hname)
  have howned := hmarked marker hmarker
  unfold TempWorld.isOrphan
  rw [hname, hformed, runDigits_runName, hmarker, howned]
  simp only [hkind, decide_eq_true hsize, ownerPid_runName owner.hostname hsound.positive hsound.safe,
    Option.any_some, hdead]
  rfl

end Cleaning

/-- From any state of the shared directory, a process that begins and is not disturbed removes exactly the orphans
that it finds, and goes on to make its own directory. Every directory that a dead process of its host had is among
them, if its marker is not too long and its number was not taken again. -/
theorem media_temp_orphans_removed (entries : Table TempEntry) (events : List TempWorld.Event) (i : ℕ)
    (process : TempProcess) (hprocess : ((TempWorld.start entries).exec events).processes[i]? = some process)
    (halive : process.alive = true) (hlisting : process.store.directory = .initializing .listing) :
    let world := (TempWorld.start entries).exec events
    let cleaned := world.exec (.act i (.listed true) :: cleaningRounds i world.entries.rows.length)
    (∀ entry, entry ∈ cleaned.entries ↔ entry ∈ world.entries ∧ world.isOrphan process.hostname entry = false) ∧
      (∃ next, cleaned.processes[i]? = some next ∧ next.store.directory = .initializing .making) ∧
      ∀ (j : ℕ) (owner : TempProcess) name, world.processes[j]? = some owner →
        owner.store.directory = .ready name → owner.hostname = process.hostname →
        (ownerMarker owner.hostname owner.pid).size ≤ 4096 → world.isAlive owner.hostname owner.pid = false →
        ∀ entry ∈ cleaned.entries, entry.name ≠ name := by
  intro world cleaned
  obtain ⟨left, hexec, hleft⟩ := TempWorld.listed_rounds hprocess halive hlisting
  have hcleaned : cleaned = world.lookAt i process left .making := hexec
  rw [hcleaned]
  refine ⟨hleft, ⟨_, TempWorld.lookAt_process hprocess left .making, rfl⟩, ?_⟩
  intro j owner name howner hready hhost hsize hdead entry hentry hname
  obtain ⟨hmem, hnot⟩ := (hleft entry).mp hentry
  have horphan := ((TempWorld.start_sound entries).exec events).isOrphan howner hready hsize hdead hmem hname
  rw [hhost] at horphan
  exact Bool.false_ne_true (hnot.symm.trans horphan)

/-- A random name. -/
def smallRandomName (c : Char) (h : isUuidChar c = true) : RandomName where
  text := List.replicate 36 c
  length := List.length_replicate
  chars _ hc := by
    rw [List.eq_of_mem_replicate hc]
    exact h

/-- A process of a host and one of another host make their directories and mark them, the first one dies, and one
begins on its host. -/
def smallDeath : List TempWorld.Event :=
  [.start "host" 1, .start "other" 2, .act 0 .create, .act 1 .create, .act 0 (.opened true), .act 1 (.opened true),
    .act 0 (.listed true), .act 1 (.listed true), .act 0 (.made (smallRandomName 'a' rfl) true),
    .act 1 (.made (smallRandomName 'b' rfl) true), .act 0 (.marked true), .act 1 (.marked true), .die 0,
    .start "host" 3, .act 2 .create, .act 2 (.opened true)]

/-- The directory of the dead process is removed, and that of the other host is kept. -/
theorem media_temp_orphans_removed_small :
    let world := (TempWorld.start Table.empty).exec smallDeath
    let cleaned := world.exec (.act 2 (.listed true) :: cleaningRounds 2 world.entries.rows.length)
    world.entries.rows.map TempEntry.name =
        [runName 1 (smallRandomName 'a' rfl), runName 2 (smallRandomName 'b' rfl)] ∧
      (∀ entry ∈ cleaned.entries, entry.name ≠ runName 1 (smallRandomName 'a' rfl)) ∧
      ⟨runName 2 (smallRandomName 'b' rfl), .directory, some (ownerMarker "other" 2)⟩ ∈ cleaned.entries := by
  intro world cleaned
  have hremoved := media_temp_orphans_removed Table.empty smallDeath 2
    { hostname := "host", pid := 3, store := { directory := .initializing .listing, waiting := 1 } }
    (by decide) rfl rfl
  refine ⟨by decide, ?_, ?_⟩
  · exact hremoved.2.2 0
      { hostname := "host", pid := 1, alive := false,
        store := { directory := .ready (runName 1 (smallRandomName 'a' rfl)), waiting := 1 } }
      _ (by decide) rfl rfl (by decide +kernel) (by decide)
  · exact (hremoved.1 _).mpr ⟨Table.mem_rows.mp (by decide), by decide +kernel⟩

end ConnectHub
