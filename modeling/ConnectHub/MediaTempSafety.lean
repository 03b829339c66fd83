import ConnectHub.MediaTempStore

/-!
# No process loses its temporary files

Whatever the processes that share the directory do, in whatever order, and whenever one of them dies: a living
process keeps its directory until it removes it itself, at its end and with no file in it needed, and no other process
removes anything but the directories of the dead.
-/

namespace ConnectHub

open Store

section Names

/-- The name of a directory has the number of its process. -/
theorem runDigits_runName (pid : ℕ) (uuid : RandomName) :
    runDigits (runName pid uuid) = some (Nat.repr pid).toList := by
  have hdigits : ∀ c ∈ (Nat.repr pid).toList, c.isDigit = true := fun c hc =>
    Nat.isDigit_of_mem_toDigits (by decide) (by decide) (Nat.toList_repr ▸ hc)
  have htake : ((Nat.repr pid).toList ++ '-' :: uuid.text).takeWhile Char.isDigit = (Nat.repr pid).toList := by
    rw [List.takeWhile_append_of_pos hdigits, List.takeWhile_cons_of_neg (by decide), List.append_nil]
  have hne : (Nat.repr pid).toList ≠ [] := by
    rw [Nat.toList_repr]
    exact Nat.toDigits_ne_nil
  unfold runDigits runName
  simp only [htake, List.drop_left]
  rw [if_pos ⟨hne, uuid.length, List.all_eq_true.mpr uuid.chars⟩]

/-- A marker is well formed. -/
theorem ownerJson_wellFormed (hostname : String) (pid : ℕ) : (ownerJson hostname pid).WellFormed := by
  refine ⟨?_, trivial, isNumeral_repr pid, trivial⟩
  change ["hostname", "pid"].Nodup
  decide

/-- The marker of a process names it. -/
theorem ownerPid_ownerMarker (hostname found : String) {pid : ℕ} (hpositive : 0 < pid) (hsafe : pid ≤ maxSafeInteger)
    (digits : List Char) :
    ownerPid hostname digits (ownerMarker found pid).text =
      if found = hostname ∧ (pid : ℚ) = toDouble (Nat.ofDigitChars 10 digits 0) then some pid else none := by
  have hread : Json.parse (ownerMarker found pid).text = some (ownerJson found pid) :=
    parse_stringify (ownerJson_wellFormed found pid)
  have hnumber : toDouble (numeralValue (Nat.repr pid).toList) = pid := by
    rw [numeralValue_repr, toDouble_natCast hsafe]
  have hmembers : (ownerJson found pid).member? "hostname" = some (.str found) ∧
      (ownerJson found pid).member? "pid" = some (.number (Nat.repr pid)) := ⟨rfl, rfl⟩
  unfold ownerPid
  simp only [hread, hmembers.1, hmembers.2, hnumber]
  have hwhole : ((pid : ℚ)).den = 1 := Rat.den_natCast pid
  have habs : |(pid : ℚ)| ≤ maxSafeInteger := by
    rw [abs_of_nonneg (Nat.cast_nonneg pid)]
    exact_mod_cast hsafe
  have hpos : (0 : ℚ) < pid := Nat.cast_pos.mpr hpositive
  simp only [hwhole, habs, hpos, and_true, Rat.num_natCast, Int.toNat_natCast]

/-- A directory is known as that of the process by which it was made. -/
theorem ownerPid_runName (hostname : String) {pid : ℕ} (hpositive : 0 < pid) (hsafe : pid ≤ maxSafeInteger) :
    ownerPid hostname (Nat.repr pid).toList (ownerMarker hostname pid).text = some pid := by
  rw [ownerPid_ownerMarker hostname hostname hpositive hsafe, if_pos]
  refine ⟨rfl, ?_⟩
  rw [Nat.toList_repr, Nat.ofDigitChars_ten_toDigits, toDouble_natCast hsafe]

end Names

section Invariant

/-- The directory that a process has made, with its marker or without. -/
def MediaTempStore.own (store : MediaTempStore) : Option (List Char) :=
  match store.directory with
  | .initializing (.marking name) | .initializing (.unmaking name) | .ready name => some name
  | _ => none

/-- The directory of another process that a process is removing. -/
def MediaTempStore.orphan (store : MediaTempStore) : Option (List Char) :=
  match store.directory with
  | .initializing (.removing name _) => some name
  | _ => none

/-- The entries that an initialization has yet to look at. -/
def Initialization.listed : Initialization → List (List Char)
  | .examining name _ rest | .reading name _ rest | .removing name rest => name :: rest.map ListedEntry.name
  | _ => []

/-- The entries that a process has yet to look at. -/
def MediaTempStore.listed (store : MediaTempStore) : List (List Char) :=
  match store.directory with
  | .initializing initialization => initialization.listed
  | _ => []

/-- Whether the directory of a process is there and will stay. -/
def MediaTempStore.Keeps (store : MediaTempStore) (name : List Char) : Prop :=
  store.directory = .ready name ∧ store.destruction ≠ .removing ∧ store.destruction ≠ .removed

/-- What holds of a process beside the entries of the shared directory. -/
structure TempProcess.Sound (entries : Table TempEntry) (known : List (List Char)) (process : TempProcess) : Prop where
  positive : 0 < process.pid
  safe : process.pid ≤ maxSafeInteger
  named : ∀ name, process.store.own = some name → name ∈ known
  formed : ∀ name, process.store.own = some name → ∃ uuid, name = runName process.pid uuid
  listed : ∀ name ∈ process.store.listed, name ∈ known
  marked : ∀ name, process.store.own = some name → ∀ entry ∈ entries, entry.name = name →
    entry.kind = .directory ∧ ∀ marker, entry.marker = some marker → marker = ownerMarker process.hostname process.pid
  signed : ∀ name, process.store.directory = .ready name → ∀ entry ∈ entries, entry.name = name →
    entry.marker.isSome = true
  made : process.alive = true → ∀ name, process.store.directory = .initializing (.marking name) →
    ∃ entry ∈ entries, entry.name = name
  kept : process.alive = true → ∀ name, process.store.Keeps name →
    ∃ entry ∈ entries, entry.name = name ∧ entry.marker = some (ownerMarker process.hostname process.pid)
  closing : process.store.destruction ≠ .none → process.store.closing = true
  ended : process.store.destruction = .removing ∨ process.store.destruction = .removed → process.store.active = []
  needed : process.store.active ≠ [] → ∃ name, process.store.directory = .ready name

/-- What holds of all processes: no two have made the same directory, and none removes that of a living one. -/
structure TempWorld.Sound (world : TempWorld) : Prop where
  known : ∀ entry ∈ world.entries, entry.name ∈ world.known
  each : ∀ (i : ℕ) (process : TempProcess), world.processes[i]? = some process → process.Sound world.entries world.known
  alone : ∀ (i j : ℕ) (first second : TempProcess) name, world.processes[i]? = some first →
    world.processes[j]? = some second → first.store.own = some name → second.store.own = some name → i = j
  orphaned : ∀ (i j : ℕ) (cleaner owner : TempProcess) name, world.processes[i]? = some cleaner →
    world.processes[j]? = some owner → cleaner.store.orphan = some name → owner.store.own = some name →
    owner.alive = false

/-- A shared directory without processes is sound. -/
theorem TempWorld.start_sound (entries : Table TempEntry) : (TempWorld.start entries).Sound := by
  have hnone : ∀ (i : ℕ) (process : TempProcess), (TempWorld.start entries).processes[i]? ≠ some process := by
    intro i process h
    rw [TempWorld.start, List.getElem?_nil] at h
    cases h
  exact ⟨fun _ hentry => List.mem_map_of_mem hentry, fun i process h => absurd h (hnone i process),
    fun i _ first _ _ h => absurd h (hnone i first), fun i _ cleaner _ _ h => absurd h (hnone i cleaner)⟩

variable {world : TempWorld} {i : ℕ} {process : TempProcess}

/-- What a process changes of the others' entries: it takes none from the living and gives none to anyone. -/
def TempWorld.Spares (world : TempWorld) (i : ℕ) (entries : Table TempEntry) : Prop :=
  ∀ (j : ℕ) (other : TempProcess), world.processes[j]? = some other → j ≠ i → ∀ name, other.store.own = some name →
    (∀ entry ∈ entries, entry.name = name → entry ∈ world.entries) ∧
    (other.alive = true → ∀ entry ∈ world.entries, entry.name = name → entry ∈ entries)

/-- The entries stay as they are. -/
theorem TempWorld.spares_refl (world : TempWorld) (i : ℕ) : world.Spares i world.entries :=
  fun _ _ _ _ _ _ => ⟨fun _ hentry _ => hentry, fun _ _ hentry _ => hentry⟩

/-- A process that does something keeps all processes sound, if it is sound itself afterwards, spares the others'
entries, and takes no directory that another process has or a living one needs. -/
theorem TempWorld.Sound.change (h : world.Sound) (hprocess : world.processes[i]? = some process)
    {entries : Table TempEntry} {known : List (List Char)} {store : MediaTempStore}
    (hknown : ∀ name ∈ world.known, name ∈ known) (hentries : ∀ entry ∈ entries, entry.name ∈ known)
    (hspares : world.Spares i entries) (hsound : ({ process with store } : TempProcess).Sound entries known)
    (hown : ∀ name, store.own = some name → process.store.own = some name ∨ name ∉ world.known)
    (horphan : ∀ name, store.orphan = some name → process.store.orphan = some name ∨
      ∀ (j : ℕ) (owner : TempProcess), world.processes[j]? = some owner → owner.store.own = some name →
        owner.alive = false) :
    (({ world with entries, known } : TempWorld).withStore i process store).Sound := by
  have hi : i < world.processes.length := (List.getElem?_eq_some_iff.mp hprocess).1
  have hget : ∀ (j : ℕ) (other : TempProcess),
      (({ world with entries, known } : TempWorld).withStore i process store).processes[j]? = some other →
      j = i ∧ other = { process with store } ∨ j ≠ i ∧ world.processes[j]? = some other := by
    intro j other hother
    unfold TempWorld.withStore at hother
    rw [List.getElem?_set] at hother
    by_cases hij : i = j
    · rw [if_pos hij, if_pos hi] at hother
      exact .inl ⟨hij.symm, (Option.some.inj hother).symm⟩
    · rw [if_neg hij] at hother
      exact .inr ⟨Ne.symm hij, hother⟩
  refine ⟨hentries, fun j other hother => ?_, fun j k first second name hfirst hsecond hown₁ hown₂ => ?_,
    fun j k cleaner owner name hcleaner howner horphan' hown' => ?_⟩
  · rcases hget j other hother with ⟨-, rfl⟩ | ⟨hij, hother⟩
    · exact hsound
    · have hother' := h.each j other hother
      refine
        { hother' with
          named := fun name hname => hknown _ (hother'.named name hname)
          listed := fun name hname => hknown _ (hother'.listed name hname)
          marked := fun name hname entry hentry heq =>
            hother'.marked name hname entry ((hspares j other hother hij name hname).1 entry hentry heq) heq
          signed := fun name hname entry hentry heq =>
            hother'.signed name hname entry
              ((hspares j other hother hij name (by rw [MediaTempStore.own, hname])).1 entry hentry heq) heq
          made := fun halive name hname => ?_
          kept := fun halive name hname => ?_ }
      · obtain ⟨entry, hentry, heq⟩ := hother'.made halive name hname
        have hown' : other.store.own = some name := by rw [MediaTempStore.own, hname]
        exact ⟨entry, (hspares j other hother hij name hown').2 halive entry hentry heq, heq⟩
      · obtain ⟨entry, hentry, heq, hmarker⟩ := hother'.kept halive name hname
        have hown' : other.store.own = some name := by rw [MediaTempStore.own, hname.1]
        exact ⟨entry, (hspares j other hother hij name hown').2 halive entry hentry heq, heq, hmarker⟩
  · -- The changed process keeps its directory, or has one of a name that nobody knew.
    have hfresh : ∀ (m : ℕ) (other : TempProcess), world.processes[m]? = some other → m ≠ i →
        other.store.own = some name → store.own = some name → False := by
      intro m other hother hm hown' hname
      rcases hown name hname with hold | hnew
      · exact hm (h.alone m i other process name hother hprocess hown' hold)
      · exact hnew ((h.each m other hother).named name hown')
    rcases hget j first hfirst with ⟨rfl, rfl⟩ | ⟨hj, hfirst'⟩ <;>
      rcases hget k second hsecond with ⟨rfl, rfl⟩ | ⟨hk, hsecond'⟩
    · rfl
    · exact (hfresh k second hsecond' hk hown₂ hown₁).elim
    · exact (hfresh j first hfirst' hj hown₁ hown₂).elim
    · exact h.alone j k first second name hfirst' hsecond' hown₁ hown₂
  · have hself : cleaner.store.orphan = some name → cleaner.store.own ≠ some name := by
      unfold MediaTempStore.orphan MediaTempStore.own
      intro h₁ h₂
      split at h₁
      · next hdirectory =>
        rw [hdirectory] at h₂
        cases h₂
      · cases h₁
    rcases hget j cleaner hcleaner with ⟨rfl, rfl⟩ | ⟨hj, hcleaner'⟩ <;>
      rcases hget k owner howner with ⟨rfl, rfl⟩ | ⟨hk, howner'⟩
    · exact (hself horphan' hown').elim
    · rcases horphan name horphan' with hold | hdead
      · exact h.orphaned j k process owner name hprocess howner' hold hown'
      · exact hdead k owner howner' hown'
    · rcases hown name hown' with hold | hnew
      · exact h.orphaned j k cleaner process name hcleaner' hprocess horphan' hold
      · refine (hnew ((h.each j cleaner hcleaner').listed name ?_)).elim
        unfold MediaTempStore.orphan at horphan'
        split at horphan'
        · next hdirectory =>
          unfold MediaTempStore.listed
          rw [hdirectory, ← Option.some.inj horphan']
          exact List.mem_cons_self
        · cases horphan'
    · exact h.orphaned j k cleaner owner name hcleaner' howner' horphan' hown'

/-- A process that changes nothing but its own state keeps all processes sound. -/
theorem TempWorld.Sound.changeStore (h : world.Sound) (hprocess : world.processes[i]? = some process)
    {store : MediaTempStore} (hsound : ({ process with store } : TempProcess).Sound world.entries world.known)
    (hown : ∀ name, store.own = some name → process.store.own = some name)
    (horphan : ∀ name, store.orphan = some name → process.store.orphan = some name ∨
      ∀ (j : ℕ) (owner : TempProcess), world.processes[j]? = some owner → owner.store.own = some name →
        owner.alive = false) : (world.withStore i process store).Sound :=
  h.change hprocess (fun _ hname => hname) h.known (world.spares_refl i) hsound
    (fun name hname => .inl (hown name hname)) horphan

/-- A process that keeps its directory stays sound. -/
theorem TempProcess.Sound.keep {entries : Table TempEntry} {known : List (List Char)} (h : process.Sound entries known)
    {store : MediaTempStore} (hdirectory : store.directory = process.store.directory)
    (hkept : ∀ name, store.Keeps name → process.store.Keeps name)
    (hclosing : store.destruction ≠ .none → store.closing = true)
    (hended : store.destruction = .removing ∨ store.destruction = .removed → store.active = [])
    (hneeded : store.active ≠ [] → ∃ name, process.store.directory = .ready name) :
    ({ process with store } : TempProcess).Sound entries known := by
  have hown : store.own = process.store.own := by rw [MediaTempStore.own, MediaTempStore.own, hdirectory]
  have hlisted : store.listed = process.store.listed := by
    rw [MediaTempStore.listed, MediaTempStore.listed, hdirectory]
  exact
    { positive := h.positive
      safe := h.safe
      named := fun name hname => h.named name (hown ▸ hname)
      formed := fun name hname => h.formed name (hown ▸ hname)
      listed := fun name hname => h.listed name (hlisted ▸ hname)
      marked := fun name hname => h.marked name (hown ▸ hname)
      signed := fun name hname => h.signed name (hdirectory ▸ hname)
      made := fun halive name hname => h.made halive name (hdirectory ▸ hname)
      kept := fun halive name hname => h.kept halive name (hkept name hname)
      closing := hclosing
      ended := hended
      needed := fun hactive => hdirectory ▸ hneeded hactive }

/-- A process that has no directory of its own and needs no files stays sound. -/
theorem TempProcess.Sound.leave {entries other : Table TempEntry} {known : List (List Char)}
    (h : process.Sound entries known) {store : MediaTempStore} (hown : store.own = none)
    (hlisted : ∀ name ∈ store.listed, name ∈ known) (hclosing : store.destruction ≠ .none → store.closing = true)
    (hactive : store.active = []) : ({ process with store } : TempProcess).Sound other known where
  positive := h.positive
  safe := h.safe
  named name hname := nomatch hown.symm.trans hname
  formed name hname := nomatch hown.symm.trans hname
  listed := hlisted
  marked name hname := nomatch hown.symm.trans hname
  signed name hname := by
    rw [MediaTempStore.own, hname] at hown
    cases hown
  made _ name hname := by
    rw [MediaTempStore.own, hname] at hown
    cases hown
  kept _ name hname := by
    rw [MediaTempStore.own, hname.1] at hown
    cases hown
  closing := hclosing
  ended _ := hactive
  needed hneeded := absurd hactive hneeded

/-- A process whose directory is not there needs no files. -/
theorem TempProcess.Sound.idle {entries : Table TempEntry} {known : List (List Char)} (h : process.Sound entries known)
    (hdirectory : ∀ name, process.store.directory ≠ .ready name) : process.store.active = [] := by
  by_contra hactive
  obtain ⟨name, hname⟩ := h.needed hactive
  exact hdirectory name hname

/-- The entries that may be orphans are listed. -/
theorem cleanOrphans_listed (rest : List ListedEntry) :
    ∀ name ∈ (cleanOrphans rest).listed, name ∈ rest.map ListedEntry.name := by
  induction rest with
  | nil => exact fun _ h => h
  | cons entry rest ih =>
    intro name hname
    rw [cleanOrphans] at hname
    split at hname
    · split at hname
      · exact hname
      · exact List.mem_cons_of_mem _ (ih name hname)
    · exact List.mem_cons_of_mem _ (ih name hname)

/-- A process that looks for orphans has made no directory, and removes none yet. -/
theorem cleanOrphans_own (store : MediaTempStore) (rest : List ListedEntry) :
    (store.await (cleanOrphans rest)).own = none ∧ (store.await (cleanOrphans rest)).orphan = none := by
  induction rest with
  | nil => exact ⟨rfl, rfl⟩
  | cons entry rest ih =>
    rw [cleanOrphans]
    split
    · split
      · exact ⟨rfl, rfl⟩
      · exact ih
    · exact ih

end Invariant

section Steps

namespace TempWorld

variable {world : TempWorld} {i : ℕ} {process : TempProcess} {initialization : Initialization} {name : List Char}

/-- A removal takes nothing from the living, if none of them has what is removed. -/
theorem spares_rm (hdead : ∀ (j : ℕ) (other : TempProcess), world.processes[j]? = some other → j ≠ i →
    other.store.own = some name → other.alive = false) : world.Spares i (world.rm name).entries := by
  intro j other hother hj found hown
  refine ⟨fun entry hentry _ => (Table.mem_remove.mp hentry).1, fun halive entry hentry heq => ?_⟩
  refine Table.mem_remove.mpr ⟨hentry, decide_eq_false fun hname => ?_⟩
  rw [heq] at hname
  rw [hdead j other hother hj (hname ▸ hown)] at halive
  cases halive

/-- What is left by a removal was there before. -/
theorem rm_known (h : world.Sound) : ∀ entry ∈ (world.rm name).entries, entry.name ∈ world.known :=
  fun entry hentry => h.known entry (Table.mem_remove.mp hentry).1

/-- A process that goes on with its initialization, without a directory and with nothing to remove. -/
theorem Sound.look (h : world.Sound) (hprocess : world.processes[i]? = some process)
    (hdirectory : process.store.directory = .initializing initialization) {next : Initialization}
    (hown : (process.store.await next).own = none) (horphan : (process.store.await next).orphan = none)
    (hlisted : ∀ found ∈ next.listed, found ∈ world.known) :
    (world.withStore i process (process.store.await next)).Sound := by
  have hsound := h.each i process hprocess
  have hidle := hsound.idle fun found hready => nomatch hdirectory.symm.trans hready
  exact h.changeStore hprocess (hsound.leave hown hlisted hsound.closing hidle)
    (fun found hfound => nomatch hown.symm.trans hfound) (fun found hfound => nomatch horphan.symm.trans hfound)

/-- A process whose initialization failed, which removes at most what it made itself. -/
theorem Sound.reject (h : world.Sound) (hprocess : world.processes[i]? = some process)
    (hdirectory : process.store.directory = .initializing initialization) {entries : Table TempEntry}
    (hentries : ∀ entry ∈ entries, entry.name ∈ world.known) (hspares : world.Spares i entries) :
    (({ world with entries } : TempWorld).withStore i process process.store.reject).Sound := by
  have hsound := h.each i process hprocess
  have hidle := hsound.idle fun found hready => nomatch hdirectory.symm.trans hready
  refine h.change hprocess (fun _ hname => hname) hentries hspares (hsound.leave rfl nofun (fun hended => ?_) hidle)
    nofun nofun
  unfold MediaTempStore.reject at hended ⊢
  refine hsound.closing fun hnone => hended ?_
  simp only [hnone, reduceCtorEq, if_false]

/-- What a process that is not removing anything may do next with the entries it has yet to look at. -/
theorem Sound.lookOn (h : world.Sound) (hprocess : world.processes[i]? = some process)
    (hdirectory : process.store.directory = .initializing initialization) (rest : List ListedEntry)
    (hrest : ∀ found ∈ rest.map ListedEntry.name, found ∈ world.known) :
    (world.withStore i process (process.store.await (cleanOrphans rest))).Sound :=
  h.look hprocess hdirectory (cleanOrphans_own _ _).1 (cleanOrphans_own _ _).2
    fun found hfound => hrest found (cleanOrphans_listed rest found hfound)

/-- The owner of a directory whose marker was read is the process that the marker names. -/
theorem Sound.readOwner (h : world.Sound) {j : ℕ} {owner : TempProcess} (howner : world.processes[j]? = some owner)
    (hown : owner.store.own = some name) {hostname : String} {digits : List Char} {marker : OwnerMarker} {pid : ℕ}
    (hmarker : (world.entries.find? name).bind TempEntry.marker = some marker)
    (hpid : ownerPid hostname digits marker.text = some pid) (hdead : world.isAlive hostname pid = false) :
    owner.alive = false := by
  obtain ⟨entry, hfind, hentry⟩ := Option.bind_eq_some_iff.mp hmarker
  obtain ⟨hmem, hname⟩ := Table.find?_eq_some.mp hfind
  have hsound := h.each j owner howner
  rw [(hsound.marked name hown entry hmem hname).2 marker hentry,
    ownerPid_ownerMarker hostname owner.hostname hsound.positive hsound.safe] at hpid
  split at hpid
  · next hsame =>
    have hnone := List.any_eq_false.mp hdead owner (List.mem_of_getElem? howner)
    rw [← hsame.1, ← Option.some.inj hpid] at hnone
    simpa only [beq_self_eq_true, Bool.and_true, Bool.not_eq_true] using hnone
  · cases hpid

/-- A process that found a dead owner keeps all processes sound. -/
theorem Sound.onRead (h : world.Sound) (hprocess : world.processes[i]? = some process) {digits : List Char}
    {rest : List ListedEntry} (hdirectory : process.store.directory = .initializing (.reading name digits rest))
    (ok : Bool) : (world.withStore i process
      (process.store.await (world.readOwner process.hostname name digits rest ok))).Sound := by
  have hsound := h.each i process hprocess
  have hlisted : ∀ found ∈ name :: rest.map ListedEntry.name, found ∈ world.known := by
    have hprevious := hsound.listed
    rw [MediaTempStore.listed, hdirectory] at hprevious
    exact hprevious
  have hon := h.lookOn hprocess hdirectory rest fun found hfound => hlisted found (List.mem_cons_of_mem _ hfound)
  have hidle := hsound.idle fun found hready => nomatch hdirectory.symm.trans hready
  unfold TempWorld.readOwner
  split
  · next marker hmarker =>
    split
    · next pid hpid =>
      split
      · next hdead =>
        refine h.changeStore hprocess (hsound.leave rfl hlisted hsound.closing hidle) nofun fun found hfound => .inr ?_
        intro j owner howner hown
        rw [← Option.some.inj hfound] at hown
        exact h.readOwner howner hown hmarker hpid (Bool.not_eq_true' _ ▸ hdead.2)
      · exact hon
    · exact hon
  · exact hon

/-- A process that removes an orphan keeps all processes sound. -/
theorem Sound.onRemoved (h : world.Sound) (hprocess : world.processes[i]? = some process) {rest : List ListedEntry}
    (hdirectory : process.store.directory = .initializing (.removing name rest)) (ok : Bool) :
    ((if ok then world.rm name else world).withStore i process
      (process.store.await (cleanOrphans rest))).Sound := by
  have hsound := h.each i process hprocess
  have hrest : ∀ found ∈ (cleanOrphans rest).listed, found ∈ world.known := by
    have hprevious := hsound.listed
    rw [MediaTempStore.listed, hdirectory] at hprevious
    exact fun found hfound => hprevious found (List.mem_cons_of_mem _ (cleanOrphans_listed rest found hfound))
  have hidle := hsound.idle fun found hready => nomatch hdirectory.symm.trans hready
  obtain ⟨hown, horphan⟩ := cleanOrphans_own process.store rest
  cases ok with
  | false => exact h.look hprocess hdirectory hown horphan hrest
  | true =>
    refine h.change hprocess (fun _ hname => hname) (rm_known h) (spares_rm fun j other hother _ hname => ?_)
      (hsound.leave hown hrest hsound.closing hidle) (fun found hfound => nomatch hown.symm.trans hfound)
      (fun found hfound => nomatch horphan.symm.trans hfound)
    exact h.orphaned i j process other name hprocess hother (by rw [MediaTempStore.orphan, hdirectory]) hname

/-- No other process has the directory of a process. -/
theorem Sound.notOther (h : world.Sound) (hprocess : world.processes[i]? = some process)
    (hown : process.store.own = some name) {j : ℕ} {other : TempProcess} (hother : world.processes[j]? = some other)
    (hj : j ≠ i) : other.store.own ≠ some name :=
  fun hname => hj (h.alone j i other process name hother hprocess hname hown)

/-- A process may remove its own directory. -/
theorem Sound.spares_own (h : world.Sound) (hprocess : world.processes[i]? = some process)
    (hown : process.store.own = some name) : world.Spares i (world.rm name).entries :=
  spares_rm fun _ _ hother hj hname => absurd hname (h.notOther hprocess hown hother hj)

/-- A process that makes its directory keeps all processes sound. -/
theorem Sound.onMade (h : world.Sound) (hprocess : world.processes[i]? = some process)
    (hdirectory : process.store.directory = .initializing .making) (uuid : RandomName) (ok : Bool) :
    (world.runInitialization i process .making (.made uuid ok)).Sound := by
  have hsound := h.each i process hprocess
  have hidle := hsound.idle fun found hready => nomatch hdirectory.symm.trans hready
  have hreject := h.reject hprocess hdirectory h.known (world.spares_refl i)
  unfold runInitialization
  simp only
  split
  · exact h
  · next hfresh =>
    obtain ⟨name, hname⟩ : ∃ name, name = runName process.pid uuid := ⟨_, rfl⟩
    rw [← hname] at hfresh ⊢
    split
    · next entries hinsert =>
      have hmem : ∀ entry, entry ∈ entries ↔ entry ∈ world.entries ∨ entry = { name, kind := .directory } :=
        fun entry => Table.mem_insert? hinsert
      have hnew : ∀ entry ∈ entries, entry.name = name → entry = { name, kind := .directory } := by
        intro entry hentry heq
        rcases (hmem entry).mp hentry with hold | hnew
        · exact (hfresh (heq ▸ h.known entry hold)).elim
        · exact hnew
      refine h.change hprocess (fun _ hname => List.mem_cons_of_mem _ hname) (fun entry hentry => ?_)
        (fun j other hother _ found hfound => ?_)
        { positive := hsound.positive
          safe := hsound.safe
          named := fun found hfound => Option.some.inj hfound ▸ List.mem_cons_self
          formed := fun found hfound => ⟨uuid, (Option.some.inj hfound).symm.trans hname⟩
          listed := nofun
          marked := fun found hfound entry hentry heq => ?_
          signed := nofun
          made := fun _ found hfound => ⟨_, (hmem _).mpr (.inr rfl), ?_⟩
          kept := fun _ found hfound => nomatch hfound.1
          closing := hsound.closing
          ended := fun _ => hidle
          needed := fun hactive => absurd hidle hactive }
        (fun found hfound => .inr (Option.some.inj hfound ▸ hfresh)) nofun
      · rcases (hmem entry).mp hentry with hold | rfl
        · exact List.mem_cons_of_mem _ (h.known entry hold)
        · exact List.mem_cons_self
      · have hknown := (h.each j other hother).named found hfound
        refine ⟨fun entry hentry heq => ?_, fun _ entry hentry _ => (hmem entry).mpr (.inl hentry)⟩
        rcases (hmem entry).mp hentry with hold | rfl
        · exact hold
        · exact (hfresh ((show name = found from heq) ▸ hknown)).elim
      · rw [hnew entry hentry (heq.trans (Option.some.inj hfound).symm)]
        exact ⟨rfl, nofun⟩
      · exact Initialization.marking.inj (TempDirectory.initializing.inj hfound)
    · exact hreject

/-- A process that marks its directory keeps all processes sound. -/
theorem Sound.onMarked (h : world.Sound) (hprocess : world.processes[i]? = some process) (halive : process.alive = true)
    (hdirectory : process.store.directory = .initializing (.marking name)) (ok : Bool) :
    (world.runInitialization i process (.marking name) (.marked ok)).Sound := by
  have hsound := h.each i process hprocess
  have hidle := hsound.idle fun found hready => nomatch hdirectory.symm.trans hready
  have hown : process.store.own = some name := by rw [MediaTempStore.own, hdirectory]
  rw [runInitialization]
  cases ok with
  | false =>
    refine h.changeStore hprocess
      { hsound with
        listed := nofun
        named := fun found hfound => hsound.named found (hown.trans hfound)
        formed := fun found hfound => hsound.formed found (hown.trans hfound)
        marked := fun found hfound => hsound.marked found (hown.trans hfound)
        signed := nofun
        made := nofun
        kept := fun _ found hfound => nomatch hfound.1
        needed := fun hactive => absurd hidle hactive } (fun found hfound => hown.trans hfound) nofun
  | true =>
    let mark (entry : TempEntry) : TempEntry :=
      { entry with marker := some (ownerMarker process.hostname process.pid) }
    have hmem : ∀ entry, entry ∈ world.entries.modify (fun entry => entry.name = name) mark ↔
        ∃ old ∈ world.entries, (if old.name = name then mark old else old) = entry := by
      intro entry
      rw [Table.mem_modify]
      simp only [decide_eq_true_eq]
    have hname : ∀ old : TempEntry, (if old.name = name then mark old else old).name = old.name := by
      intro old
      split <;> rfl
    have hother : ∀ j other, world.processes[j]? = some other → j ≠ i → ∀ found, other.store.own = some found →
        found ≠ name := fun j other hother hj found hfound heq =>
      h.notOther hprocess hown hother hj (heq ▸ hfound)
    refine h.change hprocess (fun _ hfound => hfound) (fun entry hentry => ?_)
      (fun j other hget hj found hfound => ⟨fun entry hentry heq => ?_, fun _ entry hentry heq => ?_⟩)
      { hsound with
        listed := nofun
        named := fun found hfound => hsound.named found (hown.trans hfound)
        formed := fun found hfound => hsound.formed found (hown.trans hfound)
        marked := fun found hfound entry hentry heq => ?_
        signed := fun found hfound entry hentry heq => ?_
        made := nofun
        kept := fun _ found hfound => ?_
        needed := fun hactive => absurd hidle hactive } (fun found hfound => .inl (hown.trans hfound)) nofun
    · obtain ⟨old, hold, rfl⟩ := (hmem entry).mp hentry
      rw [hname]
      exact h.known old hold
    · obtain ⟨old, hold, rfl⟩ := (hmem entry).mp hentry
      rw [hname] at heq
      rw [if_neg (heq ▸ hother j other hget hj found hfound)]
      exact hold
    · exact (hmem entry).mpr ⟨entry, hentry, if_neg (heq ▸ hother j other hget hj found hfound)⟩
    · obtain ⟨old, hold, rfl⟩ := (hmem entry).mp hentry
      rw [hname] at heq
      have hnamed : old.name = name := heq.trans (Option.some.inj hfound).symm
      rw [if_pos hnamed]
      refine ⟨(hsound.marked name hown old hold hnamed).1, fun marker hmarker => (Option.some.inj hmarker).symm⟩
    · obtain ⟨old, hold, rfl⟩ := (hmem entry).mp hentry
      rw [hname] at heq
      rw [if_pos (heq.trans (TempDirectory.ready.inj hfound).symm)]
      rfl
    · obtain ⟨old, hold, hnamed⟩ := hsound.made halive name hdirectory
      refine ⟨mark old, (hmem _).mpr ⟨old, hold, if_pos hnamed⟩, ?_, rfl⟩
      exact hnamed.trans (TempDirectory.ready.inj hfound.1)

/-- Whatever a process waits for in its initialization, all processes stay sound. -/
theorem Sound.runInitialization (h : world.Sound) (hprocess : world.processes[i]? = some process)
    (halive : process.alive = true) (hdirectory : process.store.directory = .initializing initialization)
    (action : TempAction) : (world.runInitialization i process initialization action).Sound := by
  have hsound := h.each i process hprocess
  have hlisted : ∀ found ∈ initialization.listed, found ∈ world.known := by
    have hprevious := hsound.listed
    rw [MediaTempStore.listed, hdirectory] at hprevious
    exact hprevious
  have hreject := h.reject hprocess hdirectory h.known (world.spares_refl i)
  unfold TempWorld.runInitialization
  split
  · next ok =>
    cases ok with
    | true => exact h.look hprocess hdirectory rfl rfl nofun
    | false => exact hreject
  · next ok =>
    cases ok with
    | true =>
      refine h.lookOn hprocess hdirectory _ fun found hfound => ?_
      rw [List.map_map] at hfound
      obtain ⟨entry, hentry, rfl⟩ := List.mem_map.mp hfound
      exact h.known entry hentry
    | false => exact hreject
  · next name digits rest ok =>
    have hon := h.lookOn hprocess hdirectory rest fun found hfound => hlisted found (List.mem_cons_of_mem _ hfound)
    unfold TempWorld.examine
    split
    · split
      · exact h.look hprocess hdirectory rfl rfl hlisted
      · exact hon
    · exact hon
  · next name digits rest ok => exact h.onRead hprocess hdirectory ok
  · next name rest ok => exact h.onRemoved hprocess hdirectory ok
  · next uuid ok => exact h.onMade hprocess hdirectory uuid ok
  · next name ok => exact h.onMarked hprocess halive hdirectory ok
  · next name ok =>
    cases ok with
    | true =>
      exact h.reject hprocess hdirectory (rm_known h)
        (h.spares_own hprocess (by rw [MediaTempStore.own, hdirectory]))
    | false => exact hreject
  · exact h

/-- A process may remove its own directory at its end. -/
theorem Sound.onCleared (h : world.Sound) (hprocess : world.processes[i]? = some process)
    (hdirectory : process.store.directory = .ready name) (hremoving : process.store.destruction = .removing)
    (ok : Bool) : ((if ok then world.rm name else world).withStore i process
      { process.store with destruction := .removed }).Sound := by
  have hsound := h.each i process hprocess
  have hown : process.store.own = some name := by rw [MediaTempStore.own, hdirectory]
  have hactive : process.store.active = [] := hsound.ended (.inl hremoving)
  have hclosing : process.store.closing = true := hsound.closing fun hnone => nomatch hremoving.symm.trans hnone
  have hends : ∀ {entries : Table TempEntry}, (∀ entry ∈ entries, entry ∈ world.entries) →
      ({ process with store := { process.store with destruction := .removed } } : TempProcess).Sound entries
        world.known := fun hfewer =>
    { hsound with
      marked := fun found hfound entry hentry => hsound.marked found hfound entry (hfewer entry hentry)
      signed := fun found hfound entry hentry => hsound.signed found hfound entry (hfewer entry hentry)
      made := fun _ found hfound => nomatch hdirectory.symm.trans hfound
      kept := fun _ found hfound => absurd rfl hfound.2.2
      closing := fun _ => hclosing
      ended := fun _ => hactive }
  cases ok with
  | true =>
    exact h.change hprocess (fun _ hname => hname) (rm_known h) (h.spares_own hprocess hown)
      (hends fun entry hentry => (Table.mem_remove.mp hentry).1) (fun _ hfound => .inl hfound)
      fun _ hfound => .inl hfound
  | false =>
    exact h.changeStore hprocess (hends fun _ hentry => hentry) (fun _ hfound => hfound) fun _ hfound => .inl hfound

/-- What a process does that keeps its directory keeps all processes sound. -/
theorem Sound.keep (h : world.Sound) (hprocess : world.processes[i]? = some process) {store : MediaTempStore}
    (hdirectory : store.directory = process.store.directory)
    (hkept : ∀ name, store.Keeps name → process.store.Keeps name)
    (hclosing : store.destruction ≠ .none → store.closing = true)
    (hended : store.destruction = .removing ∨ store.destruction = .removed → store.active = [])
    (hneeded : store.active ≠ [] → ∃ name, process.store.directory = .ready name) :
    (world.withStore i process store).Sound := by
  refine h.changeStore hprocess ((h.each i process hprocess).keep hdirectory hkept hclosing hended hneeded) ?_ ?_
  · intro name hname
    rw [← hname, MediaTempStore.own, MediaTempStore.own, hdirectory]
  · intro name hname
    refine .inl ?_
    rw [← hname, MediaTempStore.orphan, MediaTempStore.orphan, hdirectory]

/-- A call for a file keeps all processes sound. -/
theorem Sound.create (h : world.Sound) (hprocess : world.processes[i]? = some process) :
    (world.withStore i process process.store.create).Sound := by
  have hsound := h.each i process hprocess
  unfold MediaTempStore.create
  split
  · exact h.keep hprocess rfl (fun _ hkept => hkept) hsound.closing hsound.ended hsound.needed
  · split
    · next hdirectory =>
      have hidle := hsound.idle fun name hready => nomatch hdirectory.symm.trans hready
      exact h.changeStore hprocess (hsound.leave rfl nofun hsound.closing hidle) nofun nofun
    · exact h.keep hprocess rfl (fun _ hkept => hkept) hsound.closing hsound.ended hsound.needed

/-- A call that goes on keeps all processes sound: a file is given out only before the end. -/
theorem Sound.resume (h : world.Sound) (hprocess : world.processes[i]? = some process) (uuid : RandomName) :
    (world.withStore i process (process.store.resume uuid)).Sound := by
  have hsound := h.each i process hprocess
  have hsame : (world.withStore i process process.store).Sound :=
    h.keep hprocess rfl (fun _ hkept => hkept) hsound.closing hsound.ended hsound.needed
  unfold MediaTempStore.resume
  split
  · next name hdirectory =>
    split
    · exact hsame
    · split
      · exact h.keep hprocess rfl (fun _ hkept => hkept) hsound.closing hsound.ended hsound.needed
      · next hopen =>
        refine h.keep hprocess rfl (fun _ hkept => hkept) hsound.closing (fun hended => ?_) fun _ => ⟨name, hdirectory⟩
        refine (hopen (hsound.closing fun hnone => ?_)).elim
        rcases hended with hremoving | hremoved
        · exact nomatch hnone.symm.trans hremoving
        · exact nomatch hnone.symm.trans hremoved
  · exact hsame

/-- A file that is no longer needed keeps all processes sound. -/
theorem Sound.dispose (h : world.Sound) (hprocess : world.processes[i]? = some process) (uuid : RandomName) :
    (world.withStore i process { process.store with active := process.store.active.erase uuid }).Sound := by
  have hsound := h.each i process hprocess
  refine h.keep hprocess rfl (fun _ hkept => hkept) hsound.closing (fun hended => ?_) fun hneeded => ?_
  · rw [hsound.ended hended, List.erase_nil]
  · refine hsound.needed fun hnone => hneeded ?_
    rw [hnone, List.erase_nil]

/-- The end of a process keeps all processes sound. -/
theorem Sound.onModuleDestroy (h : world.Sound) (hprocess : world.processes[i]? = some process) :
    (world.withStore i process process.store.onModuleDestroy).Sound := by
  have hsound := h.each i process hprocess
  unfold MediaTempStore.onModuleDestroy
  split
  · exact h.keep hprocess rfl (fun _ hkept => hkept) hsound.closing hsound.ended hsound.needed
  · next hfirst =>
    have hnone : process.store.destruction = .none := not_not.mp hfirst
    have hkept : ∀ name, process.store.directory = .ready name → process.store.Keeps name := by
      intro name hname
      refine ⟨hname, ?_, ?_⟩ <;>
      · rw [hnone]
        exact nofun
    split
    · exact h.keep hprocess rfl (fun name hname => hkept name hname.1) (fun _ => rfl) nofun hsound.needed
    · exact h.keep hprocess rfl (fun name hname => hkept name hname.1) (fun _ => rfl) nofun hsound.needed

/-- The end that goes on keeps all processes sound: a directory is removed only if no file in it is needed. -/
theorem Sound.endAwaited (h : world.Sound) (hprocess : world.processes[i]? = some process) :
    (world.withStore i process process.store.endAwaited).Sound := by
  have hsound := h.each i process hprocess
  unfold MediaTempStore.endAwaited
  split
  · next name hdirectory hwaiting =>
    have hclosing : process.store.closing = true := hsound.closing fun hnone => nomatch hwaiting.symm.trans hnone
    refine h.keep hprocess rfl (fun found hfound => ⟨hfound.1, ?_, ?_⟩) (fun _ => hclosing) (fun hended => ?_)
      hsound.needed
    · rw [hwaiting]
      exact nofun
    · rw [hwaiting]
      exact nofun
    · by_contra hneeded
      simp only [if_pos hneeded, reduceCtorEq, or_self] at hended
  · exact h.keep hprocess rfl (fun _ hkept => hkept) hsound.closing hsound.ended hsound.needed

/-- Whatever a living process does, all processes stay sound. -/
theorem Sound.act (h : world.Sound) (hprocess : world.processes[i]? = some process) (halive : process.alive = true)
    (action : TempAction) : (world.act i process action).Sound := by
  unfold TempWorld.act
  split
  · exact h.create hprocess
  · next uuid => exact h.resume hprocess uuid
  · next uuid => exact h.dispose hprocess uuid
  · exact h.onModuleDestroy hprocess
  · exact h.endAwaited hprocess
  · next ok =>
    split
    · next name hdirectory hremoving => exact h.onCleared hprocess hdirectory hremoving ok
    · exact h
  · split
    · next initialization hdirectory => exact h.runInitialization hprocess halive hdirectory _
    · exact h

/-- A process that begins has nothing yet. -/
theorem Sound.begin (h : world.Sound) (hostname : String) {pid : ℕ} (hpositive : 0 < pid)
    (hsafe : pid ≤ maxSafeInteger) :
    ({ world with processes := world.processes ++ [{ hostname, pid }] } : TempWorld).Sound := by
  let begun : TempProcess := { hostname, pid }
  have hget : ∀ (j : ℕ) (other : TempProcess), (world.processes ++ [begun])[j]? = some other →
      world.processes[j]? = some other ∨ other = begun := by
    intro j other hother
    rw [List.getElem?_append] at hother
    split at hother
    · exact .inl hother
    · exact .inr (List.mem_singleton.mp (List.mem_of_getElem? hother))
  refine ⟨h.known, fun j other hother => ?_, fun j k first second name hfirst hsecond hown₁ hown₂ => ?_,
    fun j k cleaner owner name hcleaner howner horphan hown => ?_⟩
  · rcases hget j other hother with hold | rfl
    · exact h.each j other hold
    · exact
        { positive := hpositive
          safe := hsafe
          named := nofun
          formed := nofun
          listed := nofun
          marked := nofun
          signed := nofun
          made := nofun
          kept := fun _ name hkept => nomatch hkept.1
          closing := fun hended => absurd rfl hended
          ended := fun _ => rfl
          needed := fun hneeded => absurd rfl hneeded }
  · rcases hget j first hfirst with hold₁ | rfl
    · rcases hget k second hsecond with hold₂ | rfl
      · exact h.alone j k first second name hold₁ hold₂ hown₁ hown₂
      · cases hown₂
    · cases hown₁
  · rcases hget j cleaner hcleaner with hold₁ | rfl
    · rcases hget k owner howner with hold₂ | rfl
      · exact h.orphaned j k cleaner owner name hold₁ hold₂ horphan hown
      · cases hown
    · cases horphan

/-- A process that dies does nothing more. -/
theorem Sound.die (h : world.Sound) (i : ℕ) :
    ({ world with processes := world.processes.modify i fun process => { process with alive := false } } :
      TempWorld).Sound := by
  have hget : ∀ (j : ℕ) (other : TempProcess),
      (world.processes.modify i fun process => { process with alive := false })[j]? = some other →
      ∃ old, world.processes[j]? = some old ∧ (other = old ∨ other = { old with alive := false }) := by
    intro j other hother
    rw [List.getElem?_modify] at hother
    obtain ⟨old, hold, heq⟩ := Option.map_eq_some_iff.mp hother
    refine ⟨old, hold, ?_⟩
    split at heq
    · exact .inr heq.symm
    · exact .inl heq.symm
  refine ⟨h.known, fun j other hother => ?_, fun j k first second name hfirst hsecond hown₁ hown₂ => ?_,
    fun j k cleaner owner name hcleaner howner horphan hown => ?_⟩
  · obtain ⟨old, hold, rfl | rfl⟩ := hget j other hother
    · exact h.each j other hold
    · exact { h.each j old hold with made := nofun, kept := nofun }
  · obtain ⟨old₁, hold₁, hsame₁⟩ := hget j first hfirst
    obtain ⟨old₂, hold₂, hsame₂⟩ := hget k second hsecond
    refine h.alone j k old₁ old₂ name hold₁ hold₂ ?_ ?_
    · rcases hsame₁ with rfl | rfl <;> exact hown₁
    · rcases hsame₂ with rfl | rfl <;> exact hown₂
  · obtain ⟨old₁, hold₁, hsame₁⟩ := hget j cleaner hcleaner
    obtain ⟨old₂, hold₂, hsame₂⟩ := hget k owner howner
    have hdead : old₂.alive = false := by
      refine h.orphaned j k old₁ old₂ name hold₁ hold₂ ?_ ?_
      · rcases hsame₁ with rfl | rfl <;> exact horphan
      · rcases hsame₂ with rfl | rfl <;> exact hown
    rcases hsame₂ with rfl | rfl
    · exact hdead
    · rfl

/-- Whatever happens, all processes stay sound. -/
theorem Sound.step (h : world.Sound) (event : Event) : (world.step event).Sound := by
  cases event with
  | start hostname pid =>
    rw [TempWorld.step]
    split
    · next hstart => exact h.begin hostname hstart.1 hstart.2.1
    · exact h
  | die i => exact h.die i
  | act i action =>
    rw [TempWorld.step]
    split
    · next process hprocess =>
      split
      · next halive => exact h.act hprocess halive action
      · exact h
    · exact h

/-- Whatever happens over a run, all processes stay sound. -/
theorem Sound.exec (h : world.Sound) (events : List Event) : (world.exec events).Sound := by
  induction events generalizing world with
  | nil => exact h
  | cons event rest ih => exact ih (h.step event)

end TempWorld

end Steps

section Removals

/-- Why a process removes a directory: its owner is dead, it is its own and has no marker, or it is its own at its
end. -/
inductive TempProcess.Removes (process : TempProcess) (name : List Char) : Prop
  | orphan (horphan : process.store.orphan = some name)
  | unmarked (hdirectory : process.store.directory = .initializing (.unmaking name))
  | ended (hdirectory : process.store.directory = .ready name) (hdestruction : process.store.destruction = .removing)

namespace TempWorld

variable {world : TempWorld} {i : ℕ} {process : TempProcess}

/-- No name goes missing. -/
def Retains (world after : TempWorld) : Prop :=
  ∀ entry ∈ world.entries, ∃ other ∈ after.entries, other.name = entry.name

/-- The entries stay as they are. -/
theorem retains_of_entries {after : TempWorld} (h : after.entries = world.entries) : world.Retains after :=
  fun entry hentry => ⟨entry, h ▸ hentry, rfl⟩

/-- What a process in its initialization does to the entries. -/
theorem runInitialization_entries (world : TempWorld) (i : ℕ) {initialization : Initialization}
    (hdirectory : process.store.directory = .initializing initialization) (action : TempAction) :
    world.Retains (world.runInitialization i process initialization action) ∨ ∃ name, process.Removes name ∧
      (world.runInitialization i process initialization action).entries = (world.rm name).entries := by
  unfold runInitialization
  split
  · exact .inl (retains_of_entries rfl)
  · exact .inl (retains_of_entries rfl)
  · exact .inl (retains_of_entries rfl)
  · exact .inl (retains_of_entries rfl)
  · next name rest ok =>
    cases ok with
    | true => exact .inr ⟨name, .orphan (by rw [MediaTempStore.orphan, hdirectory]), rfl⟩
    | false => exact .inl (retains_of_entries rfl)
  · next uuid ok =>
    left
    split
    · exact retains_of_entries rfl
    · split
      · next hinsert => exact fun entry hentry => ⟨entry, (Table.mem_insert? hinsert).mpr (.inl hentry), rfl⟩
      · exact retains_of_entries rfl
  · next name ok =>
    left
    split
    · intro entry hentry
      have hmem := (@Table.mem_modify _ _ _ world.entries (fun entry => entry.name = name)
        (fun entry => { entry with marker := some (ownerMarker process.hostname process.pid) }) (fun _ => rfl) _).mpr
        ⟨entry, hentry, rfl⟩
      refine ⟨_, hmem, ?_⟩
      split <;> rfl
    · exact retains_of_entries rfl
  · next name ok =>
    cases ok with
    | true => exact .inr ⟨name, .unmarked hdirectory, rfl⟩
    | false => exact .inl (retains_of_entries rfl)
  · exact .inl (retains_of_entries rfl)

/-- What a process does to the entries. -/
theorem act_entries (world : TempWorld) (i : ℕ) (process : TempProcess) (action : TempAction) :
    world.Retains (world.act i process action) ∨ ∃ name, process.Removes name ∧
      (world.act i process action).entries = (world.rm name).entries := by
  unfold act
  split
  case h_6 ok =>
    split
    · next name hdirectory hremoving =>
      cases ok with
      | true => exact .inr ⟨name, .ended hdirectory hremoving, rfl⟩
      | false => exact .inl (retains_of_entries rfl)
    · exact .inl (retains_of_entries rfl)
  case h_7 =>
    split
    · next hdirectory => exact world.runInitialization_entries i hdirectory _
    · exact .inl (retains_of_entries rfl)
  all_goals exact .inl (retains_of_entries rfl)

/-- What happens to the entries: only a living process that does something removes one. -/
theorem step_entries (world : TempWorld) (event : Event) :
    world.Retains (world.step event) ∨ ∃ i action process name, event = .act i action ∧
      world.processes[i]? = some process ∧ process.alive = true ∧ process.Removes name ∧
      (world.step event).entries = (world.rm name).entries := by
  cases event with
  | start hostname pid =>
    left
    rw [step]
    split <;> exact retains_of_entries rfl
  | die i => exact .inl (retains_of_entries rfl)
  | act i action =>
    rw [step]
    split
    · next process hprocess =>
      split
      · next halive =>
        rcases world.act_entries i process action with hretains | ⟨name, hremoves, hentries⟩
        · exact .inl hretains
        · exact .inr ⟨i, action, process, name, rfl, hprocess, halive, hremoves, hentries⟩
      · exact .inl (retains_of_entries rfl)
    · exact .inl (retains_of_entries rfl)

/-- A process that is closing gives out no file. -/
def Closes (store after : MediaTempStore) : Prop :=
  store.closing = true → after.closing = true ∧ after.active ⊆ store.active

/-- A process that gives out no file. -/
theorem closes_of_same {store after : MediaTempStore} (hclosing : after.closing = store.closing)
    (hactive : after.active = store.active) : Closes store after :=
  fun hclosed => ⟨hclosing.trans hclosed, hactive ▸ List.Subset.refl _⟩

/-- What a process does to the processes: it changes its own state, and gives out no file if it is closing. -/
def Changes (world : TempWorld) (i : ℕ) (process : TempProcess) (after : TempWorld) : Prop :=
  ∃ store, Closes process.store store ∧ after.processes = world.processes.set i { process with store }

/-- Nothing changes. -/
theorem changes_refl (hprocess : world.processes[i]? = some process) : world.Changes i process world := by
  obtain ⟨hi, hget⟩ := List.getElem?_eq_some_iff.mp hprocess
  refine ⟨process.store, closes_of_same rfl rfl, ?_⟩
  rw [← hget, List.set_getElem_self]

/-- A process changes its own state. -/
theorem changes_withStore {other : TempWorld} {store : MediaTempStore} (h : other.processes = world.processes)
    (hcloses : Closes process.store store) : world.Changes i process (other.withStore i process store) :=
  ⟨store, hcloses, by rw [withStore, h]⟩

/-- What a process in its initialization does to the processes. -/
theorem runInitialization_changes (hprocess : world.processes[i]? = some process) (initialization : Initialization)
    (action : TempAction) :
    world.Changes i process (world.runInitialization i process initialization action) := by
  have hawait : ∀ next, Closes process.store (process.store.await next) := fun _ => closes_of_same rfl rfl
  have hreject : Closes process.store process.store.reject := closes_of_same rfl rfl
  unfold runInitialization
  split
  · refine changes_withStore rfl ?_
    split
    · exact hawait _
    · exact hreject
  · refine changes_withStore rfl ?_
    split
    · exact hawait _
    · exact hreject
  · exact changes_withStore rfl (hawait _)
  · exact changes_withStore rfl (hawait _)
  · next ok => exact changes_withStore (by cases ok <;> rfl) (hawait _)
  · split
    · exact changes_refl hprocess
    · split
      · exact changes_withStore rfl (hawait _)
      · exact changes_withStore rfl hreject
  · split
    · exact changes_withStore rfl (closes_of_same rfl rfl)
    · exact changes_withStore rfl (hawait _)
  · next ok => exact changes_withStore (by cases ok <;> rfl) hreject
  · exact changes_refl hprocess

/-- What a process does to the processes. -/
theorem act_changes (hprocess : world.processes[i]? = some process) (action : TempAction) :
    world.Changes i process (world.act i process action) := by
  unfold act
  split
  · refine changes_withStore rfl fun hclosing => ?_
    rw [MediaTempStore.create, if_pos hclosing]
    exact ⟨hclosing, List.Subset.refl _⟩
  · refine changes_withStore rfl fun hclosing => ?_
    unfold MediaTempStore.resume
    rw [if_pos hclosing]
    split
    · split <;> exact ⟨hclosing, List.Subset.refl _⟩
    · exact ⟨hclosing, List.Subset.refl _⟩
  · exact changes_withStore rfl fun hclosing => ⟨hclosing, List.erase_subset⟩
  · refine changes_withStore rfl fun hclosing => ?_
    unfold MediaTempStore.onModuleDestroy
    split
    · exact ⟨hclosing, List.Subset.refl _⟩
    · split <;> exact ⟨rfl, List.Subset.refl _⟩
  · refine changes_withStore rfl ?_
    unfold MediaTempStore.endAwaited
    split <;> exact closes_of_same rfl rfl
  · next ok =>
    split
    · exact changes_withStore (by cases ok <;> rfl) (closes_of_same rfl rfl)
    · exact changes_refl hprocess
  · split
    · exact runInitialization_changes hprocess _ _
    · exact changes_refl hprocess

/-- A process that is closing goes on closing, and gives out no file, whatever happens. -/
theorem step_closes (hprocess : world.processes[i]? = some process) (event : Event) :
    ∃ after, (world.step event).processes[i]? = some after ∧ Closes process.store after.store := by
  have hsame : ∃ after, world.processes[i]? = some after ∧ Closes process.store after.store :=
    ⟨process, hprocess, closes_of_same rfl rfl⟩
  have hi : i < world.processes.length := (List.getElem?_eq_some_iff.mp hprocess).1
  cases event with
  | start hostname pid =>
    rw [step]
    split
    · exact ⟨process, (List.getElem?_append_left hi).trans hprocess, closes_of_same rfl rfl⟩
    · exact hsame
  | die j =>
    rw [step, List.getElem?_modify, hprocess]
    refine ⟨_, rfl, ?_⟩
    split <;> exact closes_of_same rfl rfl
  | act j action =>
    rw [step]
    split
    · next other hother =>
      split
      · obtain ⟨store, hcloses, hset⟩ := act_changes hother action
        rw [hset, List.getElem?_set]
        by_cases hj : j = i
        · subst hj
          rw [if_pos rfl, if_pos hi]
          exact ⟨_, rfl, Option.some.inj (hother.symm.trans hprocess) ▸ hcloses⟩
        · rw [if_neg hj]
          exact hsame
      · exact hsame
    · exact hsame

/-- A process that is closing goes on closing, and gives out no file, over any run. -/
theorem exec_closes (hprocess : world.processes[i]? = some process) (hclosing : process.store.closing = true)
    (events : List Event) : ∃ after, (world.exec events).processes[i]? = some after ∧ after.store.closing = true ∧
      after.store.active ⊆ process.store.active := by
  induction events generalizing world process with
  | nil => exact ⟨process, hprocess, hclosing, List.Subset.refl _⟩
  | cons event rest ih =>
    obtain ⟨middle, hmiddle, hcloses⟩ := step_closes hprocess event
    obtain ⟨hclosed, hfewer⟩ := hcloses hclosing
    obtain ⟨after, hafter, hstill, hleft⟩ := ih hmiddle hclosed
    exact ⟨after, hafter, hstill, List.Subset.trans hleft hfewer⟩

end TempWorld

/-- What holds of the temporary files of all processes. A file that a process gave out and still needs is in a
directory of the process, which has a marker that names it and is there as long as the process lives, and no other
process has that directory. A name goes missing only because a living process removed it, as an orphan that no living
process has, or as its own directory, either without a marker or at its end, with no file needed. A process that is
closing gives out no file any more. -/
structure TempWorld.Safe (world : TempWorld) : Prop where
  needed : ∀ (i : ℕ) (process : TempProcess), world.processes[i]? = some process → process.store.active ≠ [] →
    ∃ name, process.store.Keeps name
  kept : ∀ (i : ℕ) (process : TempProcess), world.processes[i]? = some process → process.alive = true →
    ∀ name, process.store.Keeps name →
      ∃ entry ∈ world.entries, entry.name = name ∧
        entry.marker = some (ownerMarker process.hostname process.pid)
  alone : ∀ (i j : ℕ) (first second : TempProcess) name, world.processes[i]? = some first →
    world.processes[j]? = some second → first.store.Keeps name → second.store.Keeps name → i = j
  missing : ∀ event, ∀ entry ∈ world.entries, (∀ other ∈ (world.step event).entries, other.name ≠ entry.name) →
    ∃ (i : ℕ) (action : TempAction) (process : TempProcess), event = .act i action ∧
      world.processes[i]? = some process ∧ process.alive = true ∧
      (process.store.directory = .initializing (.unmaking entry.name) ∨
        process.store.directory = .ready entry.name ∧ process.store.closing = true ∧ process.store.active = [] ∨
        process.store.orphan = some entry.name ∧ ∀ (j : ℕ) (owner : TempProcess), world.processes[j]? = some owner →
          owner.store.own = some entry.name → owner.alive = false)
  closing : ∀ (i : ℕ) (process : TempProcess), world.processes[i]? = some process → process.store.closing = true →
    ∀ events, ∃ after, (world.exec events).processes[i]? = some after ∧ after.store.closing = true ∧
      after.store.active ⊆ process.store.active

/-- Sound processes are safe. -/
theorem TempWorld.Sound.isSafe {world : TempWorld} (h : world.Sound) : world.Safe where
  needed i process hprocess hneeded := by
    have hsound := h.each i process hprocess
    obtain ⟨name, hname⟩ := hsound.needed hneeded
    exact ⟨name, hname, fun hremoving => hneeded (hsound.ended (.inl hremoving)),
      fun hremoved => hneeded (hsound.ended (.inr hremoved))⟩
  kept i process hprocess := (h.each i process hprocess).kept
  alone i j first second name hfirst hsecond hkeeps₁ hkeeps₂ :=
    h.alone i j first second name hfirst hsecond (by rw [MediaTempStore.own, hkeeps₁.1])
      (by rw [MediaTempStore.own, hkeeps₂.1])
  missing event entry hentry hmissing := by
    rcases world.step_entries event with hretains | ⟨i, action, process, name, rfl, hprocess, halive, hremoves, heq⟩
    · obtain ⟨other, hother, hsame⟩ := hretains entry hentry
      exact absurd hsame (hmissing other hother)
    · have hname : entry.name = name := by
        by_contra hne
        refine hmissing entry ?_ rfl
        rw [heq]
        exact Table.mem_remove.mpr ⟨hentry, decide_eq_false hne⟩
      have hsound := h.each i process hprocess
      refine ⟨i, action, process, rfl, hprocess, halive, ?_⟩
      rw [hname]
      cases hremoves with
      | orphan horphan =>
        exact .inr (.inr ⟨horphan, fun j owner howner hown =>
          h.orphaned i j process owner name hprocess howner horphan hown⟩)
      | unmarked hdirectory => exact .inl hdirectory
      | ended hdirectory hdestruction =>
        refine .inr (.inl ⟨hdirectory, hsound.closing ?_, hsound.ended (.inl hdestruction)⟩)
        exact fun hnone => nomatch hdestruction.symm.trans hnone
  closing _ _ hprocess hclosing events := exec_closes hprocess hclosing events

end Removals

/-- Whatever was in the shared directory, and whatever the processes do, when they begin and when they die: their
temporary files are safe. -/
theorem media_temp_safe (entries : Table TempEntry) (events : List TempWorld.Event) :
    ((TempWorld.start entries).exec events).Safe :=
  ((TempWorld.start_sound entries).exec events).isSafe

end ConnectHub
