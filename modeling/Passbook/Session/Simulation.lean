import Passbook.Session.World
/-!
# Simulation

A world with a clock of its own: a session moves on until it has to wait, then the next one that can
moves, and only when all of them wait does time pass, to the next moment at which one of them can go on
or runs out of time.  A session that can go on at the very end of its time does.
-/

namespace Passbook.Session

open Store (Faults)

variable {ν α : Type}

/-- How amounts are converted: after a delay, by a rule. -/
structure Converter where
  delay : Nat
  answer : Money → Currency → Except ConversionError Quote

/-- A converter that reads a table at once. -/
def Converter.ofRates (rates : RateTable) : Converter := ⟨0, rates.convert⟩

/-- A world, its converter, the source of its identifiers, and the time of its beginning in
milliseconds since 1970. -/
structure Simulation (ν α : Type) where
  world : World ν α
  converter : Converter
  ids : Uuid.Source
  epoch : Nat

namespace Simulation

/-- A new store that begins at a time. -/
def start (epoch : Nat) (converter : Converter) : Simulation ν α := ⟨.empty, converter, ⟨0, 0⟩, epoch⟩

/-- The time in milliseconds since 1970. -/
def millis (simulation : Simulation ν α) : Nat := simulation.epoch + simulation.world.clock

def now (simulation : Simulation ν α) : Timestamp :=
  ⟨(simulation.millis / 1000 : Nat), simulation.millis % 1000 * 1000000⟩

/-- When a session that waits for nothing but time can go on. -/
def wakeTime? (simulation : Simulation ν α) (session : Session ν α) : Option Nat :=
  match session.phase with
  | .opening start _ => some start
  | .running (.sleep millis _) => some (session.since + millis)
  | .running (.convert _ _ _) => some (session.since + simulation.converter.delay)
  | _ => none

/-- When the time of a waiting session is over. -/
def expiryTime? (session : Session ν α) : Option Nat :=
  match session.phase with
  | .waiting _ _ _ | .running (.sleep _ _) | .running (.convert _ _ _) => session.context.deadline
  | _ => none

def advance (simulation : Simulation ν α) (number : Nat) : Option (Simulation ν α) := do
  let session ← simulation.world.sessions[number]?
  if (simulation.wakeTime? session).any (simulation.world.clock < ·) then none
  else
    let (id, ids) := simulation.ids.next simulation.millis
    let around : Surroundings := ⟨simulation.now, id, simulation.converter.answer⟩
    let world ← simulation.world.advance number around
    some { simulation with world := world, ids := ids }

/-- Let a session move: go on if it can, or else run out of time. -/
def move (simulation : Simulation ν α) (number : Nat) : Option (Simulation ν α) :=
  (simulation.advance number).or <| (simulation.world.expire number).map fun world =>
    { simulation with world := world }

/-- The next moment at which something happens if nothing can happen now. -/
def nextMoment? (simulation : Simulation ν α) : Option Nat :=
  let times := simulation.world.sessions.flatMap fun session =>
    (simulation.wakeTime? session).toList ++ (expiryTime? session).toList
  (times.filter (simulation.world.clock < ·)).min?

/-- Let something happen: the session whose turn it is moves, or else the first one that can, or else
time passes. -/
def happen (simulation : Simulation ν α) (turn : Nat) : Option (Nat × Simulation ν α) :=
  let moveOf (number : Nat) := (simulation.move number).map (number, ·)
  let numbers := List.range simulation.world.sessions.length
  ((moveOf turn).or (numbers.findSome? moveOf)).or <|
    simulation.nextMoment?.map fun moment =>
      (turn, { simulation with world := { simulation.world with clock := moment } })

/-- Let up to `bound` things happen. -/
def happenings : (bound : Nat) → (turn : Nat) → Simulation ν α → Simulation ν α
  | 0, _, simulation => simulation
  | bound + 1, turn, simulation =>
    match simulation.happen turn with
    | some (turn, next) => happenings bound turn next
    | none => simulation

/-! ### Calls -/

/-- A unit of work to be run after a delay, within a time. -/
structure Call (ν α : Type) where
  delay : Nat
  user : UserId
  timeout : Option Nat
  work : Work ν α
  /-- No more than so many steps are taken by the work. -/
  bound : Nat

/-- What is known of a run: the notes made on its way, and how it ended, if it did. -/
structure Report (ν α : Type) where
  notes : List ν
  outcome : Option (Outcome α)

def reportOf (session : Session ν α) : Report ν α where
  notes := session.notes
  outcome :=
    match session.phase with
    | .finished outcome => some outcome
    | _ => none

def addCall (world : World ν α) (call : Call ν α) : World ν α :=
  let start := world.clock + call.delay
  let context := RequestContext.ofUser call.user
  let context :=
    match call.timeout with
    | some timeout => context.withTimeout start timeout
    | none => context
  world.call context start call.work

/-- Steps of a session besides those of its work, and moments at which time passes for it. -/
def overhead : Nat := 16

/-- Run calls side by side until all have ended.  The sessions are gone then; the store remains. -/
def run (simulation : Simulation ν α) (calls : List (Call ν α)) :
    List (Report ν α) × Simulation ν α :=
  let world := calls.foldl addCall simulation.world
  let bound := calls.foldl (fun bound call => bound + call.bound + overhead) 0
  let last := happenings bound 0 { simulation with world := world }
  (last.world.sessions.map reportOf, { last with world := { last.world with sessions := [] } })

def arm (simulation : Simulation ν α) (faults : Faults) : Simulation ν α :=
  { simulation with world := simulation.world.arm faults }

end Simulation

end Passbook.Session
