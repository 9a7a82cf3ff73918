import Passbook.Proofs.Service.Discipline
/-!
# Where an operation stands

Every operation that comes to an answer has a moment at which it could just as well be carried out as a
whole.  For one that changes something this is the moment at which its writes are published or its refusal is
decided; for one that only looks it is the moment at which it has looked for the last time.  Here is what is
so before that moment and after it, and that every turn of a session leaves it so.
-/

namespace Passbook.Service

open Session (Reading Outcome Task Footprint Access Turn Lapses)
open Store (Tables Continues)

/-! ### Answers -/

theorem not_isAnswer_injected (place : String) : ¬IsAnswer (.failed (Store.injected place)) :=
  fun answer => answer.2 place rfl

/-- A run that lapses comes to an answer only if its work was refused. -/
theorem refused_of_isAnswer {task : Task Empty Answer} {outcome : Outcome Answer}
    (lapses : Lapses task outcome) (answer : IsAnswer outcome) :
    ∃ e, task = .done (.error e) ∧ outcome = .failed e := by
  cases lapses with
  | refused e => exact ⟨e, rfl, rfl⟩
  | begin | commit => exact absurd answer (not_isAnswer_injected _)
  | overdue => exact absurd rfl answer.1
  | brokeDown | cancelled => cases answer

/-! ### Before the answer -/

/-- The identifiers that were handed out with what was told. -/
def drawn (readings : List Reading) : Uuid → Prop := fun id => .newId id ∈ readings

/-- What nobody else changes: the rows a session has locked, and entries under identifiers that were handed
out to it. -/
def ownFootprint (session : Session.Session Empty Answer) (readings : List Reading) : Footprint where
  rows := session.Holds
  entries id := drawn readings id.uuid
  histories := False

/-- An operation that has not come to its moment yet, by the task it has begun with, what it was told and
where its session stands. -/
inductive Underway (tables : Tables) (first : Task Empty Answer) (readings : List Reading)
    (session : Session.Session Empty Answer) : Prop where
  /-- Its task could have been led here right now: it has looked at nothing that others change. -/
  | guarded {task : Task Empty Answer} (remaining : session.phase.remaining = some task)
      (guarded : task.Guarded session.Holds (drawn readings))
      (led : first.LeadsTo tables (ownFootprint session readings) readings task session.staged)
      (unhit : .insertFault true ∉ readings)
      (entries : ∀ entry ∈ session.staged.entries, drawn readings entry.id.uuid)
  /-- It has not looked yet. -/
  | looking (looks : first.Looks) (remaining : session.phase.remaining = some first)
      (quiet : readings = []) (nothing : session.staged = .empty)
  /-- It has looked at an account and would go on from there in the same way right now. -/
  | lookingOn {id : AccountId} {next : Option Account → Task Empty Answer} {user : UserId}
      {account : AccountId} {rest : List LedgerEntry → Task Empty Answer} (looks : first.Looks)
      (began : first = .readAccount id next)
      (goesOn : next (tables.account? id) = .readHistory user account rest)
      (remaining : session.phase.remaining = some (.readHistory user account rest))
      (quiet : readings = []) (nothing : session.staged = .empty)
  /-- A fault was injected, and it will not come to an answer. -/
  | hit (remaining :
      session.phase.remaining = some (.done (.error (Store.injected "transaction insert"))))

/-- An operation that has come to its moment with an outcome. -/
inductive Settled (first : Task Empty Answer) (session : Session.Session Empty Answer)
    (outcome : Outcome Answer) : Prop where
  | decided (decided : session.phase.outcome = some outcome) (answer : IsAnswer outcome)
  /-- It has looked; its answer is not decided yet. -/
  | looked {result : Except LedgerError Answer} (looks : first.Looks)
      (remaining : session.phase.remaining = some (.done result)) (same : outcome = .ofResult result)
      (nothing : session.staged = .empty)
  /-- It has looked but is not to answer. -/
  | dropped {other : Outcome Answer} (looks : first.Looks)
      (decided : session.phase.outcome = some other) (noAnswer : ¬IsAnswer other)

/-- What a turn comes to for an operation that has not come to its moment before. -/
inductive Advances (tables : Tables) (first : Task Empty Answer) (readings : List Reading)
    (next : Session.Session Empty Answer) (after : Tables) : Prop where
  | underway (underway : Underway tables first readings next) (same : after = tables)
  /-- The moment has come: carried out as a whole, right now, it comes to the same. -/
  | settles {outcome : Outcome Answer} {written : Tables}
      (carried : first.execute tables .empty readings = some (outcome, written))
      (unhit : .insertFault true ∉ readings) (published : after = published tables (outcome, written))
      (settled : Settled first next outcome)
  | void {outcome : Outcome Answer} (decided : next.phase.outcome = some outcome)
      (noAnswer : ¬IsAnswer outcome) (same : after = tables)

variable {tables after : Tables} {clock : Nat} {first : Task Empty Answer}
  {readings learned : List Reading} {session next : Session.Session Empty Answer}
  {outcome : Outcome Answer}

/-! ### After the answer -/

/-- A turn of an operation that has come to its moment tells it nothing and changes nothing. -/
theorem Settled.turn (settled : Settled first session outcome)
    (turn : Turn tables clock session learned next after) :
    learned = [] ∧ after = tables ∧ Settled first next outcome := by
  cases settled with
  | decided decided answer =>
      obtain ⟨quiet, same, stays, _⟩ := turn.of_decided decided
      exact ⟨quiet, same, .decided stays answer⟩
  | dropped looks decided noAnswer =>
      obtain ⟨quiet, same, stays, _⟩ := turn.of_decided decided
      exact ⟨quiet, same, .dropped looks stays noAnswer⟩
  | @looked result looks remaining same nothing =>
      cases turn.works remaining with
      | stays remaining' _ staged => exact ⟨rfl, rfl, .looked looks remaining' same (staged ▸ nothing)⟩
      | locks before => cases before
      | access access => cases access
      | @lapses other _ lapses decided =>
          refine ⟨rfl, rfl, ?_⟩
          by_cases answer : IsAnswer other
          · obtain ⟨e, refused, rfl⟩ := refused_of_isAnswer lapses answer
            cases refused
            subst same
            exact .decided decided answer
          · exact .dropped looks decided answer
      | publishes before decided =>
          cases before
          subst same
          rw [nothing, Tables.extend_empty]
          exact ⟨rfl, rfl, .decided decided trivial⟩

/-! ### Up to the answer -/

@[simp] theorem drawn_nil : drawn [] = fun _ => False := by
  funext id
  simp [drawn]

/-- What was handed out before is still handed out. -/
theorem drawn_append {id : Uuid} (already : drawn readings id) (learned : List Reading) :
    drawn (readings ++ learned) id :=
  List.mem_append_left _ already

/-- Only a fresh identifier adds to what was handed out. -/
theorem drawn_append_singleton {reading : Reading} (other : ∀ id, reading ≠ .newId id) :
    drawn (readings ++ [reading]) = drawn readings := by
  funext id
  have different : .newId id ≠ reading := (other id).symm
  simp [drawn, different]

theorem drawn_append_newId (id : Uuid) :
    drawn (readings ++ [.newId id]) = Session.alsoDrawn id (drawn readings) := by
  funext other
  simp [drawn, Session.alsoDrawn, or_comm]

/-- An operation that changes something is guarded when its session begins. -/
theorem Underway.of_guarded {context : RequestContext} {start since : Nat}
    (guarded : first.Guarded (fun _ => False) (fun _ => False)) :
    Underway tables first [] ⟨context, .opening start first, since, [], .empty, []⟩ := by
  have none' : ∀ entry ∈ (Tables.empty).entries, drawn [] entry.id.uuid := by
    intro entry member
    cases member
  refine .guarded rfl ?_ .start List.not_mem_nil none'
  have holds : Session.Session.Holds
      (⟨context, .opening start first, since, [], .empty, []⟩ : Session.Session Empty Answer) =
        fun _ => False := by
    funext id
    simp [Session.Session.Holds]
  rw [holds, drawn_nil]
  exact guarded

/-- An access of a guarded task leaves the operation underway. -/
private theorem Underway.access {task rest : Task Empty Answer} {written : Tables} {notes : List Empty}
    {since : Nat} (guarded : task.Guarded session.Holds (drawn readings))
    (led : first.LeadsTo tables (ownFootprint session readings) readings task session.staged)
    (unhit : .insertFault true ∉ readings)
    (entries : ∀ entry ∈ session.staged.entries, drawn readings entry.id.uuid)
    (access : Access tables task session.staged learned rest written) :
    Underway tables first (readings ++ learned)
      { session with phase := .running rest, since := since, staged := written, notes := notes } := by
  have further : task.Within (ownFootprint session readings) →
      first.LeadsTo tables (ownFootprint session (readings ++ learned)) (readings ++ learned) rest
        written := by
    intro within
    refine (led.access within access).widen (fun _ holds => holds) ?_ False.elim
    exact fun _ already => drawn_append already learned
  cases access with
  | readAccount id next =>
      rw [List.append_nil] at further ⊢
      exact .guarded rfl (guarded.2 _) (further guarded.1) unhit entries
  | readEntry id next =>
      rw [List.append_nil] at further ⊢
      exact .guarded rfl (guarded.2 _) (further guarded.1) unhit entries
  | readHistory user account next => cases guarded
  | takeInsertFault next _ armed =>
      cases armed with
      | true => exact .hit (by rw [guarded.1]; rfl)
      | false =>
          have same : drawn (readings ++ [.insertFault false]) = drawn readings :=
            drawn_append_singleton nofun
          refine .guarded rfl ?_ (further trivial) (by simp [unhit]) ?_
          · rw [same]
            exact guarded.2
          · rw [same]
            exact entries
  | putAccount account next =>
      rw [List.append_nil] at further ⊢
      exact .guarded rfl guarded (further trivial) unhit entries
  | addEntry entry next =>
      rw [List.append_nil] at further ⊢
      refine .guarded rfl guarded.2 (further trivial) unhit ?_
      intro other member
      rcases List.mem_append.mp member with old | new
      · exact entries other old
      · rw [List.mem_singleton.mp new]
        exact guarded.1
  | now next _ time =>
      have same : drawn (readings ++ [.now time]) = drawn readings := drawn_append_singleton nofun
      refine .guarded rfl ?_ (further trivial) (by simp [unhit]) ?_
      · rw [same]
        exact guarded time
      · rw [same]
        exact entries
  | convert amount target next _ answer =>
      have same : drawn (readings ++ [.converted answer]) = drawn readings :=
        drawn_append_singleton nofun
      refine .guarded rfl ?_ (further trivial) (by simp [unhit]) ?_
      · rw [same]
        exact guarded answer
      · rw [same]
        exact entries
  | newId next _ id =>
      refine .guarded rfl ?_ (further trivial) (by simp [unhit]) ?_
      · rw [drawn_append_newId]
        exact guarded id
      · exact fun entry member => drawn_append (entries entry member) _
  | sleep millis next =>
      rw [List.append_nil] at further ⊢
      exact .guarded rfl guarded (further trivial) unhit entries
  | note entry next => cases entry

/-- A guarded task that lapses comes to an answer by its refusal, or to none. -/
private theorem Underway.lapses {task : Task Empty Answer} (lapses : Lapses task outcome)
    (decided : next.phase.outcome = some outcome)
    (led : first.LeadsTo tables (ownFootprint session readings) readings task session.staged)
    (unhit : .insertFault true ∉ readings) : Advances tables first readings next tables := by
  by_cases answer : IsAnswer outcome
  · obtain ⟨e, rfl, rfl⟩ := refused_of_isAnswer lapses answer
    exact .settles led.execute_done unhit rfl (.decided decided answer)
  · exact .void decided answer rfl

/-- Who has written nothing publishes nothing. -/
theorem published_empty (tables : Tables) (outcome : Outcome Answer) :
    published tables (outcome, .empty) = tables := by
  cases outcome with
  | completed answer => exact Tables.extend_empty tables
  | _ => rfl

/-- An operation that has just looked for the last time has come to its moment. -/
private theorem Underway.looked {result : Except LedgerError Answer} (looks : first.Looks)
    (carried : first.execute tables .empty [] = some (.ofResult result, .empty))
    (remaining : next.phase.remaining = some (.done result)) (nothing : next.staged = .empty) :
    Advances tables first [] next tables :=
  .settles carried List.not_mem_nil (published_empty tables _).symm
    (.looked looks remaining rfl nothing)

/-- A turn of an operation that changes something. -/
private theorem Underway.turn_of_guarded {task : Task Empty Answer}
    (remaining : session.phase.remaining = some task)
    (guarded : task.Guarded session.Holds (drawn readings))
    (led : first.LeadsTo tables (ownFootprint session readings) readings task session.staged)
    (unhit : .insertFault true ∉ readings)
    (entries : ∀ entry ∈ session.staged.entries, drawn readings entry.id.uuid)
    (turn : Turn tables clock session learned next after) :
    Advances tables first (readings ++ learned) next after := by
  cases turn.works remaining with
  | stays remaining' held staged =>
      rw [List.append_nil]
      have holds : next.Holds = session.Holds := by
        funext id
        simp [Session.Session.Holds, held]
      refine .underway (.guarded remaining' ?_ ?_ unhit ?_) rfl
      · rwa [holds]
      · rwa [ownFootprint, holds, staged]
      · rwa [staged]
  | locks before remaining' holds staged =>
      subst before
      rw [List.append_nil]
      refine .underway (.guarded remaining' ?_ ?_ unhit ?_) rfl
      · rw [holds]
        exact guarded
      · rw [staged]
        refine led.lock.widen ?_ (fun _ already => already) False.elim
        intro id already
        rw [ownFootprint, holds]
        exact .inr already
      · rwa [staged]
  | access access => exact .underway (.access guarded led unhit entries access) rfl
  | lapses lapses decided =>
      rw [List.append_nil]
      exact Underway.lapses lapses decided led unhit
  | publishes before decided =>
      subst before
      rw [List.append_nil]
      exact .settles led.execute_done unhit rfl (.decided decided trivial)

/-- The first turn of an operation that looks. -/
private theorem Underway.turn_of_looking (looks : first.Looks)
    (remaining : session.phase.remaining = some first) (nothing : session.staged = .empty)
    (turn : Turn tables clock session learned next after) : Advances tables first learned next after := by
  cases turn.works remaining with
  | stays remaining' _ staged =>
      exact .underway (.looking looks remaining' rfl (staged ▸ nothing)) rfl
  | locks before | publishes before =>
      subst before
      cases looks
  | lapses lapses decided =>
      refine .void decided (fun answer => ?_) rfl
      obtain ⟨e, rfl, _⟩ := refused_of_isAnswer lapses answer
      cases looks
  | access access =>
      rw [nothing] at access
      cases looks with
      | readEntry id next once =>
          cases access
          obtain ⟨result, done⟩ := once (Tables.visibleEntry? tables .empty id)
          refine Underway.looked (.readEntry id next once) ?_ (by rw [done]; rfl) rfl
          rw [Task.execute, done, Task.execute]
      | readAccount id next once =>
          cases access
          rcases once (Tables.visibleAccount? tables .empty id) with
            ⟨result, done⟩ | ⟨user, account, rest, goesOn, _⟩
          · refine Underway.looked (.readAccount id next once) ?_ (by rw [done]; rfl) rfl
            rw [Task.execute, done, Task.execute]
          · exact .underway
              (.lookingOn (.readAccount id next once) rfl goesOn (by rw [goesOn]; rfl) rfl rfl) rfl

/-- The turn of an operation that has looked at a row and looks at a history then. -/
private theorem Underway.turn_of_lookingOn {id : AccountId} {rowNext : Option Account → Task Empty Answer}
    {user : UserId} {account : AccountId} {rest : List LedgerEntry → Task Empty Answer}
    (looks : (Task.readAccount id rowNext).Looks)
    (goesOn : rowNext (tables.account? id) = .readHistory user account rest)
    (remaining : session.phase.remaining = some (.readHistory user account rest))
    (nothing : session.staged = .empty) (turn : Turn tables clock session learned next after) :
    Advances tables (.readAccount id rowNext) learned next after := by
  cases turn.works remaining with
  | stays remaining' _ staged =>
      exact .underway (.lookingOn looks rfl goesOn remaining' rfl (staged ▸ nothing)) rfl
  | locks before | publishes before => cases before
  | lapses lapses decided =>
      refine .void decided (fun answer => ?_) rfl
      obtain ⟨e, before, _⟩ := refused_of_isAnswer lapses answer
      cases before
  | access access =>
      rw [nothing] at access
      cases access with
      | readHistory user account =>
          obtain ⟨result, done⟩ := (looks.goesOn goesOn).1 (Tables.visibleHistory tables .empty _ _)
          refine Underway.looked looks ?_ (by rw [done]; rfl) rfl
          rw [Task.execute, Tables.visibleAccount?_empty, goesOn, Task.execute, done, Task.execute]

/-- The turn of an operation that was hit by a fault. -/
private theorem Underway.turn_of_hit
    (remaining :
      session.phase.remaining = some (.done (.error (Store.injected "transaction insert"))))
    (turn : Turn tables clock session learned next after) :
    Advances tables first (readings ++ learned) next after := by
  cases turn.works remaining with
  | stays remaining' => exact .underway (.hit remaining') rfl
  | locks before | publishes before => cases before
  | access access => cases access
  | lapses lapses decided =>
      refine .void decided (fun answer => ?_) rfl
      obtain ⟨e, before, rfl⟩ := refused_of_isAnswer lapses answer
      cases before
      exact not_isAnswer_injected _ answer

/-- A turn of an operation that has not come to its moment. -/
theorem Underway.turn (underway : Underway tables first readings session)
    (turn : Turn tables clock session learned next after) :
    Advances tables first (readings ++ learned) next after := by
  cases underway with
  | guarded remaining guarded led unhit entries =>
      exact Underway.turn_of_guarded remaining guarded led unhit entries turn
  | looking looks remaining quiet nothing =>
      subst quiet
      exact Underway.turn_of_looking looks remaining nothing turn
  | lookingOn looks began goesOn remaining quiet nothing =>
      subst quiet began
      exact Underway.turn_of_lookingOn looks goesOn remaining nothing turn
  | hit remaining => exact Underway.turn_of_hit remaining turn

/-- Nothing is decided for an operation that has not come to its moment. -/
theorem Underway.undecided (underway : Underway tables first readings session) :
    session.phase.outcome = none := by
  cases underway with
  | guarded remaining | looking _ remaining | lookingOn _ _ _ remaining | hit remaining =>
      exact Session.Phase.outcome_eq_none_of_remaining remaining

/-! ### The turns of others -/

/-- Whoever has not come to his moment publishes no entry but under identifiers that were handed out to
him. -/
theorem Underway.entry?_eq (underway : Underway tables first readings session)
    (turn : Turn tables clock session learned next after) {id : TransactionId}
    (foreign : ¬drawn readings id.uuid) : after.entry? id = tables.entry? id := by
  cases turn with
  | publish before =>
      have absent : session.staged.entry? id = none := by
        cases underway with
        | guarded _ _ _ _ entries =>
            rw [Tables.entry?_eq_none_iff]
            intro member
            obtain ⟨entry, staged, rfl⟩ := List.mem_map.mp member
            exact foreign (entries entry staged)
        | looking _ _ _ nothing | lookingOn _ _ _ _ _ nothing =>
            rw [nothing]
            rfl
        | hit remaining =>
            rw [before] at remaining
            cases remaining
      rw [Tables.entry?_extend, absent, Option.or_none]
  | _ => rfl

/-- An operation stays underway when others change neither the rows it has locked nor the entries under
identifiers that were handed out to it. -/
theorem Underway.others (underway : Underway tables first readings session)
    (rows : ∀ id, session.Holds id → after.account? id = tables.account? id)
    (entries : ∀ id : TransactionId, drawn readings id.uuid → after.entry? id = tables.entry? id)
    (continues : ∀ id, Continues (tables.account? id) (after.account? id)) :
    Underway after first readings session := by
  cases underway with
  | guarded remaining guarded led unhit own =>
      exact .guarded remaining guarded (led.congr ⟨rows, entries, False.elim⟩) unhit own
  | looking looks remaining quiet nothing => exact .looking looks remaining quiet nothing
  | lookingOn looks began goesOn remaining quiet nothing =>
      subst began
      exact .lookingOn looks rfl ((looks.goesOn goesOn).2 _ (continues _)) remaining quiet nothing
  | hit remaining => exact .hit remaining

end Passbook.Service
