import Passbook.Service.Context
import Passbook.Session.Task
/-!
# Sessions

Many sessions work on one store.  A session keeps its writes apart and publishes them in one step when
its work succeeds; the rows it has locked are its own until it ends.  The store and all its sessions
make up a world, which moves by single steps: one access of one session at a time, in any order.

Row locks are objects that a registry finds by account.  A session takes a lock object from the registry
first and asks for it then; a lock that is given up goes to the session that has asked first.  When a
session gives up a lock, the registry forgets the account unless another session still refers to the
object.
-/

namespace Passbook.Session

open Store (Tables Faults)

/-! ### Worlds -/

/-- How a run ends. -/
inductive Outcome (α : Type) where
  /-- The work succeeded and its writes are committed. -/
  | completed (value : α)
  | failed (e : LedgerError)
  | panicked (text : String)
  /-- The caller gave up. -/
  | cancelled
deriving DecidableEq, Repr

/-- How far a session has come.  Locks are named by number. -/
inductive Phase (ν α : Type) where
  /-- The run is called at a time of the clock. -/
  | opening (start : Nat) (task : Task ν α)
  | running (task : Task ν α)
  /-- A lock object for a row has been found. -/
  | acquiring (id : AccountId) (lock : Nat) (next : Task ν α)
  /-- The lock has been asked for. -/
  | waiting (id : AccountId) (lock : Nat) (next : Task ν α)
  /-- The work has come to a result. -/
  | closing (result : Except LedgerError α)
  | committing (value : α)
  | publishing (value : α)
  /-- All is decided; the locks are given up one by one. -/
  | releasing (outcome : Outcome α)
  | finished (outcome : Outcome α)

structure Session (ν α : Type) where
  context : RequestContext
  phase : Phase ν α
  /-- When it came to where it is. -/
  since : Nat
  /-- The rows it has locked, with their locks. -/
  held : List (AccountId × Nat)
  /-- What it has written. -/
  staged : Tables
  notes : List ν

/-- A lock object. -/
structure RowLock where
  /-- The session that the lock has been given to. -/
  holder : Option Nat
  /-- The sessions that have asked for it, in this order. -/
  queue : List Nat
deriving DecidableEq, Repr

/-- A store and its sessions. -/
structure World (ν α : Type) where
  tables : Tables
  faults : Faults
  /-- The lock object of each account that has one. -/
  registry : List (AccountId × Nat)
  /-- All lock objects there have ever been, by number. -/
  locks : List RowLock
  /-- The time, in milliseconds. -/
  clock : Nat
  /-- All sessions, by number. -/
  sessions : List (Session ν α)

/-- What the surroundings answer when they are asked. -/
structure Surroundings where
  now : Timestamp
  newId : Uuid
  convert : Money → Currency → Except ConversionError Quote

namespace World

variable {ν α : Type}

def empty : World ν α := ⟨.empty, .none, [], [], 0, []⟩

instance : Inhabited (World ν α) := ⟨empty⟩

def setSession (world : World ν α) (number : Nat) (session : Session ν α) : World ν α :=
  { world with sessions := world.sessions.set number session }

def setPhase (world : World ν α) (number : Nat) (session : Session ν α) (phase : Phase ν α) :
    World ν α :=
  world.setSession number { session with phase := phase, since := world.clock }

def modifyLock (world : World ν α) (lock : Nat) (change : RowLock → RowLock) : World ν α :=
  { world with locks := world.locks.modify lock change }

/-! ### Locks -/

end World

variable {ν α : Type}

/-- Whether a session refers to a lock object: it has found it, asked for it or got it. -/
def Session.refersTo (session : Session ν α) (lock : Nat) : Bool :=
  session.held.any (·.2 == lock) ||
    match session.phase with
    | .acquiring _ l _ | .waiting _ l _ => l == lock
    | _ => false

/-- Whether a session has locked a row. -/
def Session.holds (session : Session ν α) (id : AccountId) : Bool := session.held.any (·.1 == id)

/-- The lock after its holder has given it up: the session that has asked first gets it. -/
def RowLock.passOn (lock : RowLock) : RowLock := ⟨lock.queue.head?, lock.queue.tail⟩

/-- The lock after a session that has asked for it has gone.  If it had been given the lock already, the
next one gets it. -/
def RowLock.leave (lock : RowLock) (number : Nat) : RowLock :=
  if lock.holder = some number then lock.passOn
  else { lock with queue := lock.queue.erase number }

namespace World

/-- Find the lock object of an account, or make one. -/
def findLock (world : World ν α) (id : AccountId) : Nat × World ν α :=
  match world.registry.lookup id with
  | some lock => (lock, world)
  | none =>
    let lock := world.locks.length
    (lock, { world with
      registry := (id, lock) :: world.registry
      locks := world.locks ++ [⟨none, []⟩] })

/-- Forget the lock object of an account if no session refers to it. -/
def forgetUnused (world : World ν α) (id : AccountId) : World ν α :=
  match world.registry.lookup id with
  | some lock =>
    if world.sessions.any (·.refersTo lock) then world
    else { world with registry := world.registry.filter (·.1 ≠ id) }
  | none => world

/-- Give up the first of the locks of a session. -/
def releaseFirst (world : World ν α) (number : Nat) (session : Session ν α) (id : AccountId)
    (lock : Nat) : World ν α :=
  ((world.setSession number { session with held := session.held.tail }).modifyLock lock
    RowLock.passOn).forgetUnused id

/-! ### Steps -/

/-- The next access of a task.  There is none as long as the task sleeps. -/
def access (world : World ν α) (number : Nat) (session : Session ν α) (around : Surroundings) :
    Task ν α → Option (World ν α)
  | .done result => some (world.setPhase number session (.closing result))
  | .panic text => some (world.setPhase number session (.releasing (.panicked text)))
  | .lockRow id next =>
    if session.holds id then some (goOn next)
    else
      let (lock, found) := world.findLock id
      some (found.setPhase number session (.acquiring id lock next))
  | .readAccount id next => some (goOn (next (Tables.visibleAccount? world.tables session.staged id)))
  | .readEntry id next => some (goOn (next (Tables.visibleEntry? world.tables session.staged id)))
  | .readHistory user account next =>
    some (goOn (next (Tables.visibleHistory world.tables session.staged user account)))
  | .takeInsertFault next =>
    let disarmed := { world with faults := { world.faults with insert := false } }
    some (disarmed.setPhase number session (.running (next world.faults.insert)))
  | .putAccount account next =>
    some (world.setPhase number { session with staged := session.staged.putAccount account }
      (.running next))
  | .addEntry entry next =>
    some (world.setPhase number { session with staged := session.staged.addEntry entry }
      (.running next))
  | .now next => some (goOn (next around.now))
  | .newId next => some (goOn (next around.newId))
  | .convert amount target next => some (goOn (next (around.convert amount target)))
  | .sleep millis next => if world.clock < session.since + millis then none else some (goOn next)
  | .note entry next =>
    some (world.setPhase number { session with notes := session.notes ++ [entry] } (.running next))
where
  /-- Go on with the rest of the task. -/
  goOn (next : Task ν α) : World ν α := world.setPhase number session (.running next)

/-- The next step of a session, unless it has to wait or has come to its end. -/
def advance (world : World ν α) (number : Nat) (around : Surroundings) : Option (World ν α) := do
  let session ← world.sessions[number]?
  match session.phase with
  | .opening start task =>
    if world.clock < start then none
    else if world.faults.begin then
      let world := { world with faults := { world.faults with begin := false } }
      some (world.setPhase number session (.finished (.failed (Store.injected "begin"))))
    else
      some (world.setPhase number session (.running task))
  | .running task => world.access number session around task
  | .acquiring id lock next =>
    match world.locks[lock]? with
    | some ⟨none, _⟩ =>
      let world := world.modifyLock lock fun l => { l with holder := some number }
      let session := { session with held := (id, lock) :: session.held }
      some (world.setPhase number session (.running next))
    | _ =>
      let world := world.modifyLock lock fun l => { l with queue := l.queue ++ [number] }
      some (world.setPhase number session (.waiting id lock next))
  | .waiting id lock next =>
    match world.locks[lock]? with
    | some ⟨some holder, _⟩ =>
      if holder = number then
        let session := { session with held := (id, lock) :: session.held }
        some (world.setPhase number session (.running next))
      else none
    | _ => none
  | .closing (.error e) => some (world.setPhase number session (.releasing (.failed e)))
  | .closing (.ok value) =>
    if session.context.isExpired world.clock then
      some (world.setPhase number session (.releasing (.failed .timeout)))
    else
      some (world.setPhase number session (.committing value))
  | .committing value =>
    if world.faults.commit then
      let world := { world with faults := { world.faults with commit := false } }
      some (world.setPhase number session (.releasing (.failed (Store.injected "commit"))))
    else
      some (world.setPhase number session (.publishing value))
  | .publishing value =>
    let world := { world with tables := world.tables.extend session.staged }
    some (world.setPhase number session (.releasing (.completed value)))
  | .releasing outcome =>
    match session.held with
    | [] => some (world.setPhase number { session with staged := .empty } (.finished outcome))
    | (id, lock) :: _ => some (world.releaseFirst number session id lock)
  | .finished _ => none

/-- Break off a run that has not begun, or whose work waits for a lock or for its surroundings.  Its writes
count for nothing. -/
def breakOff (world : World ν α) (number : Nat) (outcome : Outcome α) : Option (World ν α) := do
  let session ← world.sessions[number]?
  match session.phase with
  | .opening _ _ => some (world.setPhase number session (.finished outcome))
  | .waiting _ lock _ =>
    let world := world.modifyLock lock (·.leave number)
    some (world.setPhase number session (.releasing outcome))
  | .acquiring _ _ _ | .running (.convert _ _ _) | .running (.sleep _ _) =>
    some (world.setPhase number session (.releasing outcome))
  | _ => none

/-! ### Events -/

end World

/-- What can happen to a world. -/
inductive Event (ν α : Type) where
  /-- A unit of work is to be run. -/
  | called (context : RequestContext) (work : Work ν α)
  /-- A session takes its next step. -/
  | advanced (number : Nat) (around : Surroundings)
  /-- The deadline of a session has passed before it began or while it waits. -/
  | expired (number : Nat)
  /-- The caller has given up before the session began or while it waits. -/
  | cancelled (number : Nat)
  /-- Time passes. -/
  | ticked (millis : Nat)
  /-- Faults are armed. -/
  | armed (faults : Faults)

namespace World

/-- Add a session that begins its work at a time of the clock. -/
def call (world : World ν α) (context : RequestContext) (start : Nat) (work : Work ν α) : World ν α :=
  { world with
    sessions := world.sessions ++ [⟨context, .opening start work.task, world.clock, [], .empty, []⟩] }

/-- Arm faults in addition to those that are armed. -/
def arm (world : World ν α) (faults : Faults) : World ν α :=
  { world with
    faults :=
      ⟨world.faults.begin || faults.begin, world.faults.insert || faults.insert,
        world.faults.commit || faults.commit⟩ }

/-- Let a session's time be over, if its deadline has passed. -/
def expire (world : World ν α) (number : Nat) : Option (World ν α) := do
  let session ← world.sessions[number]?
  if session.context.isExpired world.clock then world.breakOff number (.failed .timeout) else none

/-- The world after an event, if the event can happen. -/
def after? (world : World ν α) : Event ν α → Option (World ν α)
  | .called context work => some (world.call context world.clock work)
  | .advanced number around => world.advance number around
  | .expired number => world.expire number
  | .cancelled number => world.breakOff number .cancelled
  | .ticked millis => some { world with clock := world.clock + millis }
  | .armed faults => some (world.arm faults)

/-- The world after a history of events, if all of them can happen. -/
def run? (world : World ν α) (events : List (Event ν α)) : Option (World ν α) :=
  events.foldlM after? world

/-- Worlds that a new store can come to. -/
def Reachable (world : World ν α) : Prop := ∃ events, run? empty events = some world

end World

end Passbook.Session
