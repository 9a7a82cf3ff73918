import Passbook.Proofs.Session.Staging
import Passbook.Service.Operation
/-!
# Chronicles

The operations of the service side by side on one store.  A chronicle keeps, besides the store and its
sessions, who has called what, and what each session was told by its surroundings: the time, fresh
identifiers, conversions.  With that every operation can be carried out again by itself.
-/

namespace Passbook.Service

open Session (World Reading Outcome Surroundings)
open Store (Tables Faults)

/-! ### Operations by themselves -/

/-- An operation has come to an answer of its own: it was neither broken off nor hit by an injected
fault. -/
def IsAnswer : Outcome Answer → Prop
  | .completed _ => True
  | .failed e => e ≠ .timeout ∧ ∀ place, e ≠ Store.injected place
  | .panicked _ | .cancelled => False

/-- The committed tables after a run: what it has written is published if it has completed. -/
def published (tables : Tables) : Outcome Answer × Tables → Tables
  | (.completed _, written) => tables.extend written
  | _ => tables

namespace Operation

def task (defaultCurrency : Currency) (user : UserId) (operation : Operation) :
    Session.Task Empty Answer :=
  (operation.work defaultCurrency user).task

/-- Carry out an operation by itself on committed tables: its answer, and the committed tables after it,
given what it is told. -/
def carryOut (defaultCurrency : Currency) (user : UserId) (operation : Operation) (tables : Tables)
    (readings : List Reading) : Option (Outcome Answer × Tables) :=
  match operation.check, readings with
  | .error e, [] => some (.failed e, tables)
  | .error _, _ :: _ => none
  | .ok (), readings =>
    ((operation.task defaultCurrency user).execute tables .empty readings).map fun done =>
      (done.1, published tables done)

end Operation

/-! ### Chronicles -/

/-- The store with its sessions, who has called what, and what the sessions were told. -/
structure Chronicle where
  /-- The currency of accounts for which none is named. -/
  defaultCurrency : Currency
  world : World Empty Answer
  /-- The user and the operation of each session, by number. -/
  calls : List (UserId × Operation)
  /-- What was told to which session, in the order in which it was told. -/
  readings : List (Nat × Reading)

/-- What can happen to the service. -/
inductive Event where
  /-- An operation is called. -/
  | called (context : RequestContext) (operation : Operation)
  /-- A session takes its next step. -/
  | advanced (number : Nat) (around : Surroundings)
  /-- The deadline of a session has passed before it began or while it waits. -/
  | expired (number : Nat)
  /-- The caller has given up before the session began or while it waits. -/
  | cancelled (number : Nat)
  /-- Time passes. -/
  | ticked (millis : Nat)
  /-- Faults are armed. -/
  | armed (faults : Faults)

/-- The fresh identifier that was handed out, if one was. -/
def freshId : Nat × Reading → Option Uuid
  | (_, .newId id) => some id
  | _ => none

/-- What is told to which session by an event. -/
def tellings (world : World Empty Answer) : Session.Event Empty Answer → List (Nat × Reading)
  | .advanced number around => (world.learned number around).map (number, ·)
  | _ => []

namespace Chronicle

/-- The service on a store with some tables. -/
def start (defaultCurrency : Currency) (tables : Tables) : Chronicle :=
  ⟨defaultCurrency, { World.empty with tables := tables }, [], []⟩

/-- The session of a call that does not pass its check: it is over without having come to the store. -/
def refused (context : RequestContext) (clock : Nat) (e : LedgerError) :
    Session.Session Empty Answer :=
  ⟨context, .finished (.failed e), clock, [], .empty, []⟩

def call (chronicle : Chronicle) (context : RequestContext) (operation : Operation) : Chronicle :=
  { chronicle with
    calls := chronicle.calls ++ [(context.user, operation)]
    world :=
      match operation.check with
      | .ok () =>
        chronicle.world.call context chronicle.world.clock
          (operation.work chronicle.defaultCurrency context.user)
      | .error e =>
        { chronicle.world with
          sessions := chronicle.world.sessions ++ [refused context chronicle.world.clock e] } }

/-- Let an event happen to the store. -/
def follow (chronicle : Chronicle) (event : Session.Event Empty Answer) : Option Chronicle :=
  (chronicle.world.after? event).map fun world =>
    { chronicle with
      world := world
      readings := chronicle.readings ++ tellings chronicle.world event }

/-- The chronicle after an event, if the event can happen. -/
def after? (chronicle : Chronicle) : Event → Option Chronicle
  | .called context operation => some (chronicle.call context operation)
  | .advanced number around => chronicle.follow (.advanced number around)
  | .expired number => chronicle.follow (.expired number)
  | .cancelled number => chronicle.follow (.cancelled number)
  | .ticked millis => chronicle.follow (.ticked millis)
  | .armed faults => chronicle.follow (.armed faults)

/-- The chronicle after a history of events, if all of them can happen. -/
def run? (chronicle : Chronicle) (events : List Event) : Option Chronicle :=
  events.foldlM after? chronicle

def readingsOf (chronicle : Chronicle) (number : Nat) : List Reading :=
  (chronicle.readings.filter (·.1 == number)).map (·.2)

/-- The fresh identifiers that were handed out. -/
def freshIds (chronicle : Chronicle) : List Uuid := chronicle.readings.filterMap freshId

/-- The operation of a session, carried out by itself. -/
def carryOut (chronicle : Chronicle) (number : Nat) (tables : Tables) :
    Option (Outcome Answer × Tables) :=
  chronicle.calls[number]?.bind fun call =>
    call.2.carryOut chronicle.defaultCurrency call.1 tables (chronicle.readingsOf number)

/-- The answer of a session, as soon as it is decided. -/
def Answers (chronicle : Chronicle) (number : Nat) (outcome : Outcome Answer) : Prop :=
  ∃ session, chronicle.world.sessions[number]? = some session ∧
    session.phase.outcome = some outcome ∧ IsAnswer outcome

variable {chronicle after : Chronicle} {number : Nat}

/-! ### What was told -/

theorem readingsOf_tellings (world : World Empty Answer) (event : Session.Event Empty Answer)
    (number : Nat) :
    ((tellings world event).filter (·.1 == number)).map (·.2) = world.toldTo number event := by
  cases event with
  | advanced other around =>
      by_cases mine : other = number <;>
        simp [tellings, World.toldTo, mine, List.filter_map, Function.comp_def]
  | _ => rfl

theorem mem_toldTo {world : World Empty Answer} {event : Session.Event Empty Answer} {number : Nat}
    {reading : Reading} (told : (number, reading) ∈ tellings world event) :
    reading ∈ world.toldTo number event := by
  rw [← readingsOf_tellings]
  exact List.mem_map.mpr ⟨_, List.mem_filter.mpr ⟨told, by simp⟩, rfl⟩

theorem mem_readingsOf {number : Nat} {reading : Reading} :
    reading ∈ chronicle.readingsOf number ↔ (number, reading) ∈ chronicle.readings := by
  simp [readingsOf]

private theorem number_eq_of_fresh {one other : Nat} {id : Uuid} (readings : List (Nat × Reading)) :
    (readings.filterMap freshId).Nodup → (one, .newId id) ∈ readings →
      (other, .newId id) ∈ readings → one = other := by
  induction readings with
  | nil =>
      intro _ member
      cases member
  | cons head rest inductionHypothesis =>
      intro distinct member member'
      have later : ∀ {number : Nat}, (number, .newId id) ∈ rest → id ∈ rest.filterMap freshId :=
        fun member => List.mem_filterMap.mpr ⟨_, member, rfl⟩
      have distinct' : (rest.filterMap freshId).Nodup := by
        rw [List.filterMap_cons] at distinct
        split at distinct
        · exact distinct
        · exact (List.nodup_cons.mp distinct).2
      rcases List.mem_cons.mp member with rfl | inRest
      · rcases List.mem_cons.mp member' with same | inRest'
        · cases same
          rfl
        · exact absurd (later inRest') (List.nodup_cons.mp distinct).1
      · rcases List.mem_cons.mp member' with rfl | inRest'
        · exact absurd (later inRest) (List.nodup_cons.mp distinct).1
        · exact inductionHypothesis distinct' inRest inRest'

/-- A fresh identifier was handed out to one session only. -/
theorem number_eq_of_drawn (distinct : chronicle.freshIds.Nodup) {one other : Nat} {id : Uuid}
    (drawn : .newId id ∈ chronicle.readingsOf one)
    (drawn' : .newId id ∈ chronicle.readingsOf other) : one = other :=
  number_eq_of_fresh chronicle.readings distinct (mem_readingsOf.mp drawn) (mem_readingsOf.mp drawn')

/-! ### What an event does -/

/-- An event of the store, as the chronicle records it. -/
structure Follows (chronicle : Chronicle) (event : Session.Event Empty Answer) (after : Chronicle) :
    Prop where
  notCall : event.isCall = false
  world : chronicle.world.after? event = some after.world
  currency : after.defaultCurrency = chronicle.defaultCurrency
  calls : after.calls = chronicle.calls
  readings : after.readings = chronicle.readings ++ tellings chronicle.world event

theorem follows_of_follow {event : Session.Event Empty Answer} (notCall : event.isCall = false)
    (followed : chronicle.follow event = some after) : chronicle.Follows event after := by
  obtain ⟨world, happened, rfl⟩ := Option.map_eq_some_iff.mp followed
  exact ⟨notCall, happened, rfl, rfl, rfl⟩

/-- An event is a call or an event of the store. -/
theorem after?_cases {event : Event} (happened : chronicle.after? event = some after) :
    (∃ context operation, event = .called context operation ∧
      after = chronicle.call context operation) ∨
        ∃ event', chronicle.Follows event' after := by
  cases event with
  | called context operation =>
      cases happened
      exact .inl ⟨context, operation, rfl, rfl⟩
  | advanced number around => exact .inr ⟨_, follows_of_follow rfl happened⟩
  | expired number => exact .inr ⟨_, follows_of_follow rfl happened⟩
  | cancelled number => exact .inr ⟨_, follows_of_follow rfl happened⟩
  | ticked millis => exact .inr ⟨_, follows_of_follow rfl happened⟩
  | armed faults => exact .inr ⟨_, follows_of_follow rfl happened⟩

theorem Follows.readingsOf_eq {event : Session.Event Empty Answer} (follows : chronicle.Follows event after)
    (number : Nat) :
    after.readingsOf number = chronicle.readingsOf number ++ chronicle.world.toldTo number event := by
  rw [readingsOf, follows.readings, List.filter_append, List.map_append, readingsOf_tellings]
  rfl

/-- Fresh identifiers that are distinct were distinct before. -/
theorem nodup_freshIds_before {event : Event} (happened : chronicle.after? event = some after)
    (distinct : after.freshIds.Nodup) : chronicle.freshIds.Nodup := by
  rcases after?_cases happened with ⟨context, operation, _, rfl⟩ | ⟨event', follows⟩
  · exact distinct
  · rw [freshIds, follows.readings, List.filterMap_append] at distinct
    exact (List.nodup_append.mp distinct).1

/-- Fresh identifiers that are distinct in the end were so at all times. -/
theorem nodup_freshIds_of_run? {events : List Event} (ran : chronicle.run? events = some after)
    (distinct : after.freshIds.Nodup) : chronicle.freshIds.Nodup := by
  have led := Leads.of_foldlM ran
  clear ran
  induction led with
  | start => exact distinct
  | snoc _ happened inductionHypothesis => exact inductionHypothesis (nodup_freshIds_before happened distinct)

/-! ### Who has returned -/

def Returned (chronicle : Chronicle) (number : Nat) : Prop :=
  ∃ session, chronicle.world.sessions[number]? = some session ∧ session.IsOver

/-- A session that is over stays as it is. -/
theorem after?_of_isOver {session : Session.Session Empty Answer} {event : Event}
    (known : chronicle.world.sessions[number]? = some session) (ended : session.IsOver)
    (happened : chronicle.after? event = some after) : after.world.sessions[number]? = some session := by
  rcases after?_cases happened with ⟨context, operation, _, rfl⟩ | ⟨event', follows⟩
  · unfold call
    dsimp only
    split
    · exact World.session_kept rfl known
    · exact World.session_kept rfl known
  · exact World.after?_of_isOver known ended follows.world

theorem run?_of_isOver {session : Session.Session Empty Answer} {events : List Event}
    (known : chronicle.world.sessions[number]? = some session) (ended : session.IsOver)
    (ran : chronicle.run? events = some after) : after.world.sessions[number]? = some session :=
  (Leads.of_foldlM ran).invariant
    (motive := fun chronicle => chronicle.world.sessions[number]? = some session) known
    fun known happened => after?_of_isOver known ended happened

end Chronicle

end Passbook.Service
