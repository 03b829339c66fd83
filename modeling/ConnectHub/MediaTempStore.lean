import ConnectHub.JsonText
import ConnectHub.Store.Double
import ConnectHub.Store.Table

/-!
# The temporary files of media

Processes on several hosts keep the files of their media in one directory, each in a directory of its own with a
marker that names its owner. A process that begins removes what dead processes of its host left; one that ends
removes its own directory, unless a file in it is still needed. Between any two calls to the file system the other
processes go on. Two things are taken for granted: no random name is drawn twice, and no two hosts have one name.
-/

namespace ConnectHub

open Store

section Names

/-- Whether a character stands in random names. -/
def isUuidChar (c : Char) : Bool := c.isDigit || ('a' ≤ c && c ≤ 'f') || c == '-'

/-- A random name. -/
structure RandomName where
  text : List Char
  length : text.length = 36
  chars : ∀ c ∈ text, isUuidChar c = true
deriving DecidableEq

/-- The name of the directory of a process. -/
def runName (pid : ℕ) (uuid : RandomName) : List Char :=
  'r' :: 'u' :: 'n' :: '-' :: ((Nat.repr pid).toList ++ '-' :: uuid.text)

/-- The digits in the name of the directory of a process. -/
def runDigits : List Char → Option (List Char)
  | 'r' :: 'u' :: 'n' :: '-' :: rest =>
    let digits := rest.takeWhile Char.isDigit
    match rest.drop digits.length with
    | '-' :: uuid => if digits ≠ [] ∧ uuid.length = 36 ∧ uuid.all isUuidChar then some digits else none
    | _ => none
  | _ => none

end Names

section Entries

/-- What a name stands for in a directory. -/
inductive EntryKind
  | file | directory | symlink
deriving DecidableEq, Repr

/-- What stands under the name of the marker. -/
structure OwnerMarker where
  kind : EntryKind
  size : ℕ
  text : List Char
deriving DecidableEq, Repr

/-- An entry of the shared directory, with its marker if there is one. -/
structure TempEntry where
  name : List Char
  kind : EntryKind
  marker : Option OwnerMarker := none
deriving DecidableEq, Repr

instance : Keyed TempEntry (List Char) := ⟨TempEntry.name⟩

/-- What a marker says. -/
def ownerJson (hostname : String) (pid : ℕ) : Json :=
  .obj [("hostname", .str hostname), ("pid", .number (Nat.repr pid))]

/-- The marker of a process. -/
def ownerMarker (hostname : String) (pid : ℕ) : OwnerMarker where
  kind := .file
  size := (String.ofList (ownerJson hostname pid).stringify).utf8ByteSize
  text := (ownerJson hostname pid).stringify

/-- The process that a marker names, if it is one of this host and the one that the name of its directory has. -/
def ownerPid (hostname : String) (digits text : List Char) : Option ℕ :=
  match Json.parse text with
  | none => none
  | some owner =>
    match owner.member? "hostname", owner.member? "pid" with
    | some (.str found), some (.number numeral) =>
      let pid := toDouble (numeralValue numeral.toList)
      if found = hostname ∧ pid = toDouble (Nat.ofDigitChars 10 digits 0) ∧ pid.den = 1 ∧ |pid| ≤ maxSafeInteger ∧
          0 < pid then some pid.num.toNat
      else none
    | _, _ => none

end Entries

section Processes

/-- An entry as a listing returns it. -/
structure ListedEntry where
  name : List Char
  kind : EntryKind
deriving DecidableEq, Repr

/-- What the initialization waits for: the shared directory, its entries, the state of a marker, its text, a removal,
its own directory, the marker in it, or the removal of that directory because there is none. -/
inductive Initialization
  | opening
  | listing
  | examining (name digits : List Char) (rest : List ListedEntry)
  | reading (name digits : List Char) (rest : List ListedEntry)
  | removing (name : List Char) (rest : List ListedEntry)
  | making
  | marking (name : List Char)
  | unmaking (name : List Char)
deriving DecidableEq, Repr

/-- The next entry that may be an orphan, or the process's own directory. -/
def cleanOrphans : List ListedEntry → Initialization
  | [] => .making
  | entry :: rest =>
    match runDigits entry.name with
    | some digits => if entry.kind = .directory then .examining entry.name digits rest else cleanOrphans rest
    | none => cleanOrphans rest

/-- The directory of a process: there is none, it is being made, or it is there. -/
inductive TempDirectory
  | none
  | initializing (initialization : Initialization)
  | ready (name : List Char)
deriving DecidableEq, Repr

/-- How far a process is with its end: its directory is awaited, left because files in it are needed, being removed, or
removed. -/
inductive Destruction
  | none | waiting | left | removing | removed
deriving DecidableEq, Repr

/-- The temporary files of a process: its directory, the files that are needed, whether it is closing, how many calls
wait for the directory, and how far its end is. -/
structure MediaTempStore where
  directory : TempDirectory := .none
  active : List RandomName := []
  closing : Bool := false
  waiting : ℕ := 0
  destruction : Destruction := .none
deriving DecidableEq

/-- A process. -/
structure TempProcess where
  hostname : String
  pid : ℕ
  alive : Bool := true
  store : MediaTempStore := {}
deriving DecidableEq

/-- The shared directory, the names that were ever in it, and the processes. -/
structure TempWorld where
  entries : Table TempEntry
  known : List (List Char)
  processes : List TempProcess

/-- Whether a process is alive on the host of that name. -/
def TempWorld.isAlive (world : TempWorld) (hostname : String) (pid : ℕ) : Bool :=
  world.processes.any fun process => process.alive && process.hostname == hostname && process.pid == pid

/-- What a process does next: it takes up a call, what it waits for is there or failed, a file is no longer needed, or
it comes to its end. -/
inductive TempAction
  | create
  | opened (ok : Bool)
  | listed (ok : Bool)
  | examined (ok : Bool)
  | read (ok : Bool)
  | removed (ok : Bool)
  | made (uuid : RandomName) (ok : Bool)
  | marked (ok : Bool)
  | unmade (ok : Bool)
  | resumed (uuid : RandomName)
  | disposed (uuid : RandomName)
  | destroy
  | awaited
  | cleared (ok : Bool)
deriving DecidableEq

namespace MediaTempStore

variable (store : MediaTempStore)

/-- Go on with the initialization. -/
def await (initialization : Initialization) : MediaTempStore :=
  { store with directory := .initializing initialization }

/-- The initialization failed, and with it all that waited for it. -/
def reject : MediaTempStore :=
  { store with
    directory := .none
    waiting := 0
    destruction := if store.destruction = .waiting then .left else store.destruction }

/-- A file is asked for. -/
def create : MediaTempStore :=
  if store.closing then store
  else
    match store.directory with
    | .none => { store with directory := .initializing .opening, waiting := store.waiting + 1 }
    | _ => { store with waiting := store.waiting + 1 }

/-- A call that waited for the directory goes on. -/
def resume (uuid : RandomName) : MediaTempStore :=
  match store.directory with
  | .ready _ =>
    if store.waiting = 0 then store
    else if store.closing then { store with waiting := store.waiting - 1 }
    else { store with waiting := store.waiting - 1, active := store.active.insert uuid }
  | _ => store

/-- The process ends. -/
def onModuleDestroy : MediaTempStore :=
  if store.destruction ≠ .none then store
  else if store.directory = .none ∨ store.active ≠ [] then { store with closing := true, destruction := .left }
  else { store with closing := true, destruction := .waiting }

/-- The end goes on when the directory is there. -/
def endAwaited : MediaTempStore :=
  match store.directory, store.destruction with
  | .ready _, .waiting => { store with destruction := if store.active ≠ [] then .left else .removing }
  | _, _ => store

end MediaTempStore

namespace TempWorld

variable (world : TempWorld)

/-- Remove an entry and all in it. -/
def rm (name : List Char) : TempWorld := { world with entries := world.entries.remove fun entry => entry.name = name }

/-- Change the files of a process. -/
def withStore (i : ℕ) (process : TempProcess) (store : MediaTempStore) : TempWorld :=
  { world with processes := world.processes.set i { process with store } }

/-- What becomes of an entry that was examined. -/
def examine (name digits : List Char) (rest : List ListedEntry) (ok : Bool) : Initialization :=
  match (world.entries.find? name).bind TempEntry.marker with
  | some marker =>
    if ok ∧ marker.kind = .file ∧ marker.size ≤ 4096 then .reading name digits rest else cleanOrphans rest
  | none => cleanOrphans rest

/-- What becomes of an entry whose marker was read: it is an orphan if its owner is dead. -/
def readOwner (hostname : String) (name digits : List Char) (rest : List ListedEntry) (ok : Bool) : Initialization :=
  match (world.entries.find? name).bind TempEntry.marker with
  | some marker =>
    match ownerPid hostname digits marker.text with
    | some pid => if ok ∧ !world.isAlive hostname pid then .removing name rest else cleanOrphans rest
    | none => cleanOrphans rest
  | none => cleanOrphans rest

/-- What the initialization of a process does next. -/
def runInitialization (i : ℕ) (process : TempProcess) : Initialization → TempAction → TempWorld
  | .opening, .opened ok =>
    world.withStore i process (if ok then process.store.await .listing else process.store.reject)
  | .listing, .listed ok =>
    world.withStore i process
      (if ok then process.store.await (cleanOrphans (world.entries.rows.map fun entry => ⟨entry.name, entry.kind⟩))
        else process.store.reject)
  | .examining name digits rest, .examined ok =>
    world.withStore i process (process.store.await (world.examine name digits rest ok))
  | .reading name digits rest, .read ok =>
    world.withStore i process (process.store.await (world.readOwner process.hostname name digits rest ok))
  | .removing name rest, .removed ok =>
    (if ok then world.rm name else world).withStore i process (process.store.await (cleanOrphans rest))
  | .making, .made uuid ok =>
    -- A name that was given before is not drawn again.
    if runName process.pid uuid ∈ world.known then world
    else
      match ok, world.entries.insert? { name := runName process.pid uuid, kind := .directory } with
      | true, some entries =>
        ({ world with entries, known := runName process.pid uuid :: world.known } : TempWorld).withStore i process
          (process.store.await (.marking (runName process.pid uuid)))
      | _, _ => world.withStore i process process.store.reject
  | .marking name, .marked ok =>
    if ok then
      ({ world with entries := world.entries.modify (fun entry => entry.name = name) fun entry =>
          { entry with marker := some (ownerMarker process.hostname process.pid) } } : TempWorld).withStore i process
        { process.store with directory := .ready name }
    else world.withStore i process (process.store.await (.unmaking name))
  | .unmaking name, .unmade ok =>
    (if ok then world.rm name else world).withStore i process process.store.reject
  | _, _ => world

/-- What a process does. -/
def act (i : ℕ) (process : TempProcess) (action : TempAction) : TempWorld :=
  match action with
  | .create => world.withStore i process process.store.create
  | .resumed uuid => world.withStore i process (process.store.resume uuid)
  | .disposed uuid =>
    world.withStore i process { process.store with active := process.store.active.erase uuid }
  | .destroy => world.withStore i process process.store.onModuleDestroy
  | .awaited => world.withStore i process process.store.endAwaited
  | .cleared ok =>
    match process.store.directory, process.store.destruction with
    | .ready name, .removing =>
      (if ok then world.rm name else world).withStore i process { process.store with destruction := .removed }
    | _, _ => world
  | action =>
    match process.store.directory with
    | .initializing initialization => world.runInitialization i process initialization action
    | _ => world

/-- A process begins, with a positive number that no other one has on its host; it dies; or it does something. -/
inductive Event
  | start (hostname : String) (pid : ℕ)
  | die (i : ℕ)
  | act (i : ℕ) (action : TempAction)
deriving DecidableEq

/-- What happens. The dead do nothing. -/
def step (world : TempWorld) : Event → TempWorld
  | .start hostname pid =>
    if 0 < pid ∧ pid ≤ maxSafeInteger ∧ !world.isAlive hostname pid then
      { world with processes := world.processes ++ [{ hostname, pid }] }
    else world
  | .die i => { world with processes := world.processes.modify i fun process => { process with alive := false } }
  | .act i action =>
    match world.processes[i]? with
    | some process => if process.alive then world.act i process action else world
    | none => world

/-- What one event after another leaves. -/
def exec (world : TempWorld) (events : List Event) : TempWorld := events.foldl step world

/-- A shared directory with what others left in it, before any process begins. -/
def start (entries : Table TempEntry) : TempWorld where
  entries
  known := entries.rows.map TempEntry.name
  processes := []

end TempWorld

end Processes

end ConnectHub
