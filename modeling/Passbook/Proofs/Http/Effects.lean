import Passbook.Proofs.Http.Demands
import Passbook.Proofs.Http.Opening
import Passbook.Proofs.Service.Changes
/-!
# Replies and their effects

The status of a reply agrees with what was done to the ledger for the request.  That is said of requests that
are answered one after the other by a server, and of requests that are answered while others go on: then it is
said of the changes that the request has made, since what others change meanwhile is not its doing.
-/

namespace Passbook.Http

open Service (Answer Chronicle Direction Event Ledger Operation Undisturbed change)
open Session (Outcome)
open Store (Tables)

/-! ### What a reply says -/

/-- An account is opened for whoever asks, with nothing on it, and shown to them. -/
structure Opened (request : Request) (reply : Reply) (before after : Tables) (account : Account) : Prop where
  owner : request.identity? = some account.owner
  live : account.isDeleted = false
  holdsNothing : account.balance.amount = 0
  absent : before.account? account.id = none
  added : after = { before with accounts := before.accounts ++ [account] }
  shown : ∃ body, reply.body = some body ∧ account.Shows body

/-- Funds are moved on the account that the path names, by the amount of an entry that is recorded for it and
shown.  Nothing else changes but the time of the account's last change. -/
structure Moved (segment : String) (reply : Reply) (before after : Tables) (account : Account)
    (entry : LedgerEntry) : Prop where
  named : readIdentifier AccountId.parse segment = .ok account.id
  found : before.account? account.id = some account
  entryAccount : entry.account = account.id
  sum : entry.balance.amount = account.balance.amount + entry.amount.amount
  currency : entry.amount.currency = account.currency ∧ entry.balance.currency = account.currency
  changed : after =
    { accounts := before.accounts.map fun row =>
        if row.id = account.id then { row with balance := entry.balance, updatedAt := entry.createdAt } else row
      entries := before.entries ++ [entry] }
  shown : ∃ body, reply.body = some body ∧ entry.Shows body

/-- The account that the path names was open, and is closed. -/
structure Closed (segment : String) (before after : Tables) (account : Account) (now : Timestamp) :
    Prop where
  named : readIdentifier AccountId.parse segment = .ok account.id
  found : before.account? account.id = some account
  wasLive : account.isDeleted = false
  changed : after =
    { before with
      accounts := before.accounts.map fun row =>
        if row.id = account.id then { row with updatedAt := now, deletedAt := some now } else row }

/-- A reply to a request agrees with what has become of the tables.  Nothing is said of a status that no reply
has. -/
structure Agrees (request : Request) (reply : Reply) (before after : Tables) : Prop where
  refused : 400 ≤ reply.status → after = before
  looked : request.method = .get ∨ request.method = .head → after = before
  unknown : request.identity? = none → after = before
  opened : reply.status = 201 → ∃ account, Opened request reply before after account
  moved : ∀ direction segment, Resource.ofPath? request.path = some (.movements direction segment) →
    reply.status = 200 → ∃ account entry, Moved segment reply before after account entry
  closed : reply.status = 204 → request.method = .delete ∧ ∃ segment account now,
    Resource.ofPath? request.path = some (.account segment) ∧ Closed segment before after account now

/-- A reply tells of the changes that a request has made: of the only one, or that there are none, whatever
the tables are. -/
def Tells (request : Request) (reply : Reply) : List (Tables × Tables) → Prop
  | [] => ∀ tables, Agrees request reply tables tables
  | [(before, after)] => Agrees request reply before after
  | _ => False

section Agrees

variable {request : Request} {reply : Reply} {before after : Tables}

/-- Tables that have stayed the same agree with every reply that shows no change. -/
private theorem Agrees.of_unchanged (opened : reply.status ≠ 201)
    (moved : ∀ direction segment, Resource.ofPath? request.path = some (.movements direction segment) →
      reply.status ≠ 200)
    (closed : reply.status ≠ 204) (tables : Tables) : Agrees request reply tables tables where
  refused _ := rfl
  looked _ := rfl
  unknown _ := rfl
  opened created := absurd created opened
  moved direction segment leads ok := absurd ok (moved direction segment leads)
  closed done := absurd done closed

/-- They agree with an error. -/
theorem Agrees.of_error (isError : 400 ≤ reply.status) (tables : Tables) :
    Agrees request reply tables tables :=
  .of_unchanged (by omega) (fun _ _ _ => by omega) (by omega) tables

/-- They agree with what is shown of anything but a movement. -/
theorem Agrees.of_ok (ok : reply.status = 200)
    (path : ∀ direction segment, Resource.ofPath? request.path ≠ some (.movements direction segment))
    (tables : Tables) : Agrees request reply tables tables :=
  .of_unchanged (by omega) (fun direction segment leads => absurd leads (path direction segment)) (by omega)
    tables

/-- Whatever is opened, moved or closed, the tables are not what they were. -/
theorem Opened.ne {account : Account} (opened : Opened request reply before after account) : after ≠ before := by
  rintro rfl
  have same := congrArg Tables.accounts opened.added
  simp at same

theorem Moved.ne {segment : String} {account : Account} {entry : LedgerEntry}
    (moved : Moved segment reply before after account entry) : after ≠ before := by
  rintro rfl
  have same := congrArg Tables.entries moved.changed
  simp at same

theorem Closed.ne {segment : String} {account : Account} {now : Timestamp}
    (closed : Closed segment before after account now) : after ≠ before := by
  rintro rfl
  have same := congrArg Tables.accounts closed.changed
  have kept := List.map_inj_left.mp (same.symm.trans (List.map_id _).symm) account
    (Tables.mem_of_account? closed.found)
  have live := closed.wasLive
  rw [if_pos rfl] at kept
  rw [← show _ = account from kept] at live
  cases live

/-- What agrees with tables that have stayed the same agrees with all tables that do. -/
theorem Agrees.same (agrees : Agrees request reply before before) (tables : Tables) :
    Agrees request reply tables tables := by
  apply Agrees.of_unchanged
  · intro created
    obtain ⟨account, opened⟩ := agrees.opened created
    exact opened.ne rfl
  · intro direction segment leads ok
    obtain ⟨account, entry, moved⟩ := agrees.moved direction segment leads ok
    exact moved.ne rfl
  · intro done
    obtain ⟨_, segment, account, now, _, closed⟩ := agrees.closed done
    exact closed.ne rfl

theorem Tells.of_change (agrees : Agrees request reply before after) :
    Tells request reply (change before after) := by
  by_cases same : before = after
  · subst same
    rw [Service.change_self]
    exact agrees.same
  · rw [change, if_neg same]
    exact agrees

end Agrees

/-! ### What an operation yields and what is shown of it -/

/-- The reply as it is shown: to `HEAD` without a body. -/
def Request.shown (request : Request) (reply : Reply) : Reply :=
  if request.method = .head then .bare reply.status else reply

theorem Request.status_shown (request : Request) (reply : Reply) :
    (request.shown reply).status = reply.status := by
  unfold shown
  split
  · rfl
  · rfl

theorem Server.respond_eq (server : Server) (request : Request) :
    server.respond request =
      (request.shown (server.carryOut request.demand).1, (server.carryOut request.demand).2) := rfl

theorem Request.shown_eq {request : Request} (method : request.method ≠ .head) (reply : Reply) :
    request.shown reply = reply := if_neg method

/-- An operation that has not completed is answered with an error. -/
theorem Server.le_status_of_incomplete {operation : Operation} {outcome : Outcome Answer}
    (incomplete : ∀ answer, outcome ≠ .completed answer) :
    400 ≤ (replyToOutcome operation (some outcome)).status := by
  cases outcome with
  | completed answer => exact absurd rfl (incomplete answer)
  | failed e => exact Reply.le_status_ofError e
  | panicked | cancelled => exact (by decide : 400 ≤ 500)

namespace Agrees

variable {request : Request} {reply : Reply} {before after staged : Tables} {user : UserId}

/-- A write is for someone who is known, is not asked for by `GET`, and is answered with no error. -/
private theorem of_write (known : request.identity? = some user) (noError : reply.status < 400)
    (method : request.method = .post ∨ request.method = .delete)
    (opened : reply.status = 201 → ∃ account, Opened request reply before after account)
    (moved : ∀ direction segment, Resource.ofPath? request.path = some (.movements direction segment) →
      reply.status = 200 → ∃ account entry, Moved segment reply before after account entry)
    (closed : reply.status = 204 → request.method = .delete ∧ ∃ segment account now,
      Resource.ofPath? request.path = some (.account segment) ∧ Closed segment before after account now) :
    Agrees request reply before after where
  refused isError := absurd noError (Nat.not_lt.mpr isError)
  looked looks := by
    rcases method with method | method <;> rw [method] at looks <;> rcases looks with looks | looks <;>
      cases looks
  unknown nobody := by
    rw [known] at nobody
    cases nobody
  opened := opened
  moved := moved
  closed := closed

/-- A look changes nothing and is answered with what was found. -/
private theorem of_look (ok : reply.status = 200)
    (path : ∀ direction segment, Resource.ofPath? request.path ≠ some (.movements direction segment)) :
    Agrees request (request.shown reply) before (before.extend .empty) := by
  rw [Tables.extend_empty]
  exact .of_ok (request.status_shown reply ▸ ok) path before

private theorem exists_of_map_eq_ok {ε α β : Type} {f : α → β} {found : Except ε α} {done : β}
    (shown : .ok done = f <$> found) : ∃ value, done = f value := by
  cases found with
  | ok value =>
      cases shown
      exact ⟨value, rfl⟩
  | error e => cases shown

/-- What an operation yields agrees with what is shown of it, if it is what was asked for. -/
theorem of_yields {base : Tables → Prop} {fresh : Uuid → Prop} {defaultCurrency : Currency}
    {operation : Operation} {answer : Answer} (known : request.identity? = some user)
    (asks : request.Asks operation) (distinct : before.DistinctRows)
    (yields : operation.Yields base fresh defaultCurrency user before (.ok answer) staged) :
    Agrees request (request.shown (Server.replyTo operation answer)) before (before.extend staged) := by
  cases asks with
  | opens method path =>
      rw [request.shown_eq (by rw [method]; nofun)]
      cases yields with
      | opens _ absent =>
          refine of_write known (by decide : 201 < 400) (.inl method) (fun _ => ?_) ?_ nofun
          · exact ⟨_, known, rfl, rfl, absent, Tables.extend_of_new absent, _, rfl, Account.shows_view _⟩
          · intro direction segment leads
            rw [path] at leads
            cases leads
  | @moves direction segment request' method path named =>
      rw [request.shown_eq (by rw [method]; nofun)]
      cases yields with
      | @moves _ _ account moved entry found movement =>
          have key : account.id = request'.account := Tables.id_of_account? found
          refine of_write known (by decide : 200 < 400) (.inl method) nofun ?_ nofun
          intro direction' segment' leads _
          rw [path] at leads
          cases leads
          refine ⟨account, entry, key ▸ named, key ▸ found, movement.entryAccount, ?_, ?_, ?_, _, rfl, entry.shows_view⟩
          · rw [movement.entryBalance, movement.sum]
          · exact ⟨movement.entryCurrency, movement.entryBalance ▸ movement.currency⟩
          · rw [Tables.extend_addEntry, movement.moved_eq, Tables.extend_of_changed distinct (key ▸ found)
              (·.withBalance entry.balance entry.createdAt) rfl]
            rfl
  | closes method path named =>
      rw [request.shown_eq (by rw [method]; nofun)]
      cases yields with
      | @closes _ account now found live =>
          have key := Tables.id_of_account? found
          refine of_write known (by decide : 204 < 400) (.inr method) nofun ?_ fun _ => ⟨method, ?_⟩
          · intro direction segment leads
            rw [path] at leads
            cases leads
          · refine ⟨_, account, now, path, key ▸ named, key ▸ found, live, ?_⟩
            exact Tables.extend_of_changed distinct (key ▸ found)
              (fun row => { row with updatedAt := now, deletedAt := some now }) rfl
  | balance path =>
      cases yields with
      | balance _ _ eq =>
          obtain ⟨account, rfl⟩ := exists_of_map_eq_ok eq
          exact of_look rfl (by rw [path]; nofun)
  | history path =>
      cases yields with
      | history _ _ _ _ eq =>
          obtain ⟨account, rfl⟩ := exists_of_map_eq_ok eq
          exact of_look rfl (by rw [path]; nofun)
  | transaction path =>
      cases yields with
      | transaction _ _ eq =>
          obtain ⟨entry, rfl⟩ := exists_of_map_eq_ok eq
          exact of_look rfl (by rw [path]; nofun)

end Agrees

/-! ### Requests side by side -/

/-- A request comes in at some time and is answered: what has happened meanwhile, whoever it concerned, and the
reply. -/
inductive Exchange (mid : Chronicle) (request : Request) : List Event → Chronicle → Reply → Prop where
  /-- The ledger is not asked. -/
  | atOnce {reply : Reply} (demanded : request.demand = .reply reply) :
      Exchange mid request [] mid (request.shown reply)
  /-- An operation is called, with whatever deadline, and its session is over. -/
  | performed {user : UserId} {operation : Operation} {context : RequestContext} {events : List Event}
      {finish : Chronicle} {session : Session.Session Empty Answer} {outcome : Outcome Answer}
      (demanded : request.demand = .perform user operation) (acting : context.user = user)
      (ran : (mid.call context operation).run? events = some finish)
      (known : finish.world.sessions[mid.calls.length]? = some session)
      (ended : session.phase = .finished outcome) :
      Exchange mid request (.called context operation :: events) finish
        (request.shown (Server.replyToOutcome operation (some outcome)))

namespace Exchange

variable {mid finish : Chronicle} {request : Request} {events : List Event} {reply : Reply}

theorem ran (exchange : Exchange mid request events finish reply) : mid.run? events = some finish := by
  cases exchange with
  | atOnce => rfl
  | performed _ _ ran => exact ran

/-- The reply tells of what the request has changed. -/
theorem tells (exchange : Exchange mid request events finish reply) (regular : mid.Regular)
    (distinct : mid.world.tables.DistinctRows) :
    Tells request reply (mid.changes mid.calls.length events) := by
  have demands := request.demands
  cases exchange with
  | @atOnce reply demanded =>
      rw [demanded] at demands
      intro tables
      cases demands with
      | refused isError => exact .of_error (request.status_shown reply ▸ isError) tables
      | told ok path => exact .of_ok (request.status_shown reply ▸ ok) path tables
  | @performed user operation context events finish session outcome demanded acting ran known ended =>
      rw [demanded] at demands
      subst acting
      cases demands with
      | asked identity asks =>
          cases regular.hasChanged_call distinct ran with
          | nothing incomplete none =>
              rw [none]
              intro tables
              refine .of_error ?_ tables
              rw [request.status_shown]
              refine Server.le_status_of_incomplete ?_
              rintro answer rfl
              exact incomplete answer ⟨session, known, by rw [ended]; rfl⟩
          | once completed distinct yields one =>
              obtain ⟨session', known', decided⟩ := completed
              rw [known] at known'
              cases known'
              rw [ended] at decided
              cases decided
              rw [one]
              exact .of_change (.of_yields identity asks distinct yields)

/-- As long as no one else goes on, that is what has become of the tables. -/
theorem agrees (exchange : Exchange mid request events finish reply) (regular : mid.Regular)
    (distinct : mid.world.tables.DistinctRows) (undisturbed : Undisturbed mid.calls.length events) :
    Agrees request reply mid.world.tables finish.world.tables := by
  have tells := exchange.tells regular distinct
  obtain ⟨none, one⟩ := Chronicle.tables_of_changes undisturbed exchange.ran
  unfold Tells at tells
  split at tells
  · rename_i unchanged
    rw [none unchanged]
    exact tells _
  · rename_i before after changed
    obtain ⟨rfl, rfl⟩ := one before after changed
    exact tells
  · exact tells.elim

end Exchange

/-! ### Requests one after the other -/

namespace Server

/-- Servers that a server that keeps its ledger in memory can come to, by requests and by faults that are
armed. -/
inductive Reachable (epoch : Nat) (settings : Config.Settings) : Server → Prop where
  | start : Reachable epoch settings (inMemory epoch settings)
  | respond {server : Server} (reached : Reachable epoch settings server) (request : Request) :
      Reachable epoch settings (server.respond request).2
  | arm {server : Server} (reached : Reachable epoch settings server) (faults : Store.Faults) :
      Reachable epoch settings { server with ledger := server.ledger.arm faults }

/-- A server on which nothing is under way, and whose rows are apart. -/
structure Ready (server : Server) : Prop where
  vacant : server.ledger.store.Vacant
  distinct : server.tables.DistinctRows

variable {server : Server}

/-- Every request to such a server is answered without anyone else going on. -/
theorem Ready.exists_exchange (ready : server.Ready) (request : Request) :
    ∃ events finish, Exchange server.ledger.chronicle request events finish (server.respond request).1 ∧
      Undisturbed 0 events ∧ (server.respond request).2.tables = finish.world.tables ∧
        (server.respond request).2.ledger.store.Vacant := by
  rw [respond_eq]
  cases demanded : request.demand with
  | reply reply => exact ⟨[], _, .atOnce demanded, .nil 0, rfl, ready.vacant⟩
  | perform user operation =>
      let call : Service.Call :=
        { user := user, operation := operation, timeout := some server.operationTimeout }
      obtain ⟨context, events, finish, outcome, after, alone⟩ :=
        Ledger.exists_performsAlone ready.vacant (rfl : call.delay = 0)
      obtain ⟨session, known, ended⟩ := alone.ended
      have carried : server.carryOut (.perform user operation) =
          (replyToOutcome operation (some outcome), { server with ledger := after }) := by
        simp only [carryOut]
        rw [show server.ledger.perform _ = _ from alone.performs]
      rw [carried]
      refine ⟨.called context operation :: events, finish,
        .performed demanded alone.user alone.ran known ended, ?_, alone.tables, alone.vacant⟩
      intro event member other concerns
      rcases List.mem_cons.mp member with rfl | later
      · cases concerns
      · exact alone.undisturbed event later other concerns

theorem Ready.respond (ready : server.Ready) (request : Request) : (server.respond request).2.Ready := by
  obtain ⟨events, finish, exchange, _, tables, vacant⟩ := ready.exists_exchange request
  have regular := Ledger.regular_of_vacant ready.vacant
  have distinct := (regular.assures_run? Chronicle.lasting_distinctRows ready.distinct exchange.ran).1
  exact ⟨vacant, tables ▸ distinct⟩

theorem Reachable.ready {epoch : Nat} {settings : Config.Settings}
    (reached : Reachable epoch settings server) : server.Ready := by
  induction reached with
  | start => exact ⟨(Session.Simulation.AtRest.start epoch rfl).vacant, .empty⟩
  | respond _ request ready => exact ready.respond request
  | arm _ faults ready => exact ⟨ready.vacant.arm faults, ready.distinct⟩

/-- The status of a reply agrees with what was done to the ledger, whatever is requested:

1. On a ledger that has begun empty, after any history and with anything happening from when the request comes
   in until it is answered, with operations side by side, faults, deadlines and cancellations, the reply agrees
   with what the request has changed, in one step if at all; and with what has become of the tables, if no one
   else has gone on.
2. A server that keeps its ledger in memory, whatever was requested of it and whatever faults were armed,
   and however little time operations have, answers every request with a reply that agrees with what has become
   of the tables. -/
theorem status_tells_effect :
    (∀ (defaultCurrency : Currency) (earlier events : List Event) (mid finish : Chronicle) (request : Request)
        (reply : Reply),
      (Chronicle.start defaultCurrency .empty).run? earlier = some mid →
      Exchange mid request events finish reply →
        Tells request reply (mid.changes mid.calls.length events) ∧
          (Undisturbed mid.calls.length events →
            Agrees request reply mid.world.tables finish.world.tables)) ∧
    ∀ (epoch : Nat) (settings : Config.Settings) (server : Server) (request : Request),
      Reachable epoch settings server →
        Agrees request (server.respond request).1 server.tables (server.respond request).2.tables := by
  constructor
  · intro defaultCurrency earlier events mid finish request reply ran exchange
    have start := Chronicle.Regular.start defaultCurrency .empty
    have regular : mid.Regular := start.run? ran
    have distinct : mid.world.tables.DistinctRows :=
      (start.assures_run? Chronicle.lasting_distinctRows .empty ran).1
    exact ⟨exchange.tells regular distinct, exchange.agrees regular distinct⟩
  · intro epoch settings server request reached
    have ready := reached.ready
    obtain ⟨events, finish, exchange, undisturbed, tables, _⟩ := ready.exists_exchange request
    rw [tables]
    exact exchange.agrees (Ledger.regular_of_vacant ready.vacant) ready.distinct undisturbed

/-- While the first user asks for an account another user opens one, and after that the store is made to fail
when it commits. -/
def meanwhile : List Event :=
  let step (number : Nat) : Event :=
    .advanced number ⟨⟨0, 0⟩, Uuid.ofNat (number + 2), fun _ _ => .error .outOfRange⟩
  [.called (.ofUser ⟨Uuid.ofNat 2⟩) (.openAccount none)] ++ List.replicate 13 (step 1) ++
    [.armed ⟨false, false, true⟩] ++ List.replicate 12 (step 0)

/-- The first user puts eight into the account that is opened first. -/
def deposit : Request :=
  posting "/accounts/00000000-0000-7000-8000-000000000002/deposit" "\x7b\"amount\":\"8\"\x7d".toUTF8.data.toList

/-- An account has been opened, and the store is to fail at the next commit. -/
def failing : Server :=
  let opened := ((inMemory 0 unset).respond (opening "")).2
  { opened with ledger := opened.ledger.arm ⟨false, false, true⟩ }

/-- A deposit has failed. -/
def recovered : Server := (failing.respond deposit).2

/-- The one request is answered with an error and has changed nothing, though an account is there in the end.
On a server an account is opened; a deposit that fails changes nothing, and the next one is recorded. -/
theorem status_tells_effect_breakdown :
    (∃ events finish reply, Exchange (.start .usd .empty) (opening "") events finish reply ∧
      reply.status = 500 ∧ finish.world.tables.accounts.length = 1 ∧
        Tells (opening "") reply ((Chronicle.start .usd .empty).changes 0 events)) ∧
      (∃ account, Opened (opening "") ((inMemory 0 unset).respond (opening "")).1 .empty failing.tables account) ∧
        ((failing.respond deposit).1.status = 500 ∧ recovered.tables = failing.tables) ∧
          ∃ account entry, Moved "00000000-0000-7000-8000-000000000002" (recovered.respond deposit).1
            recovered.tables (recovered.respond deposit).2.tables account entry := by
  obtain ⟨sideBySide, oneByOne⟩ := status_tells_effect
  have reached : Reachable 0 unset failing := .arm (.respond .start (opening "")) ⟨false, false, true⟩
  have reached' : Reachable 0 unset recovered := .respond reached deposit
  refine ⟨?_, ?_, ?_, ?_⟩
  · have asked : (opening "").demand.operation? = some (⟨Uuid.ofNat 1⟩, .openAccount none) := by
      decide +kernel
    have came : (((Chronicle.start .usd .empty).call (.ofUser ⟨Uuid.ofNat 1⟩) (.openAccount none)).run?
        meanwhile).map (fun finish =>
          (finish.world.tables.accounts.length, (finish.world.sessions[0]?.bind (·.phase.ending)).map
            fun outcome => (replyToOutcome (.openAccount none) (some outcome)).status)) =
              some (1, some 500) := by
      decide +kernel
    obtain ⟨finish, ran, came⟩ := Option.map_eq_some_iff.mp came
    obtain ⟨one, came⟩ := Prod.mk.inj came
    obtain ⟨outcome, ended, failed⟩ := Option.map_eq_some_iff.mp came
    obtain ⟨session, known, ended⟩ := Option.bind_eq_some_iff.mp ended
    have exchange := Exchange.performed (Demand.operation?_eq_some_iff.mp asked) rfl ran known
      (Session.Phase.ending_eq_some_iff.mp ended)
    exact ⟨_, finish, _, exchange, failed, one, (sideBySide .usd [] _ _ finish _ _ rfl exchange).1⟩
  · have created : ((inMemory 0 unset).respond (opening "")).1.status = 201 := by decide +kernel
    exact (oneByOne 0 unset _ _ .start).opened created
  · have broken : (failing.respond deposit).1.status = 500 := by decide +kernel
    refine ⟨broken, (oneByOne 0 unset failing deposit reached).refused ?_⟩
    rw [broken]
    decide
  · have done : (recovered.respond deposit).1.status = 200 := by decide +kernel
    have path : Resource.ofPath? deposit.path =
        some (.movements .credit "00000000-0000-7000-8000-000000000002") := by
      decide +kernel
    exact (oneByOne 0 unset recovered deposit reached').moved _ _ path done

end Server

end Passbook.Http
