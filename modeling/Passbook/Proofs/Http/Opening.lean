import Passbook.Proofs.Http.Server
import Passbook.Proofs.Http.Shown
/-!
# Opening an account by a request

What a request to open an account comes to on a server that keeps its ledger in memory, whatever has been asked
of the server before.  The currency is the one that the body names; a body that cannot be read counts as none,
though a deposit or a withdrawal with such a body is refused.
-/

namespace Passbook

open Store (Tables)

/-- Only as the error for a bad currency can the reading of a currency fail. -/
theorem Currency.parse_eq_error {text : String} {e : LedgerError} (failed : Currency.parse text = .error e) :
    ∃ reason, e = .invalidCurrency reason := by
  unfold Currency.parse at failed
  dsimp only at failed
  split at failed
  · split at failed
    · cases failed
    · cases failed
      exact ⟨_, rfl⟩
  · cases failed
    exact ⟨_, rfl⟩

namespace Service

open Session

/-- An account is opened when the operation is carried out, unless its identifier is taken. -/
theorem Operation.carryOut_openAccount {currency : Option Currency} {defaultCurrency : Currency}
    {user : UserId} {tables after : Tables} {readings : List Reading} {outcome : Outcome Answer}
    (carried : (Operation.openAccount currency).carryOut defaultCurrency user tables readings =
      some (outcome, after))
    (unused : ∀ id, .newId id ∈ readings → tables.account? ⟨id⟩ = none) :
    ∃ id now, .newId id ∈ readings ∧
      outcome = .completed (.account (.opened ⟨id⟩ user (currency.getD defaultCurrency) now)) ∧
        after = tables.extend
          (Tables.empty.putAccount (.opened ⟨id⟩ user (currency.getD defaultCurrency) now)) := by
  rw [carryOut_of_checked rfl] at carried
  obtain ⟨⟨outcome', written⟩, executed, same⟩ := Option.map_eq_some_iff.mp carried
  cases same
  obtain ⟨id, rest, rfl, executed⟩ := execute_newId executed
  obtain ⟨time, rest, rfl, executed⟩ := execute_now executed
  have free := unused id List.mem_cons_self
  change (perform.write (Store.newRow (.opened ⟨id⟩ user _ time) (Tables.visibleAccount? tables .empty ⟨id⟩))
    _).execute tables .empty rest = _ at executed
  rw [Tables.visibleAccount?_empty, free] at executed
  cases rest with
  | nil =>
      cases executed
      exact ⟨id, time, List.mem_cons_self, rfl, rfl⟩
  | cons => cases executed

end Service

namespace Http

open Service (Ledger Operation)

variable {server : Server} {request : Request} {user : UserId}

namespace Server

/-! ### Openings -/

/-- A new account of a user is opened in a currency, with nothing on it, and shown to them. -/
def Opens (server : Server) (user : UserId) (currency : Currency) (result : Reply × Server) : Prop :=
  ∃ account : Account, account.owner = user ∧ account.currency = currency ∧ account.balance.amount = 0 ∧
    account.isDeleted = false ∧ server.tables.account? account.id = none ∧
      (∃ body, result.1 = .withBody 201 body ∧ account.Shows body) ∧
        result.2.tables = { server.tables with accounts := server.tables.accounts ++ [account] }

/-- The client is told of a mistake, and nothing is changed. -/
def Refuses (server : Server) (result : Reply × Server) : Prop :=
  (400 ≤ result.1.status ∧ result.1.status < 500) ∧ result.2 = server

/-- No request is both honoured and refused. -/
theorem Opens.not_refuses {currency : Currency} {result : Reply × Server}
    (opens : server.Opens user currency result) : ¬server.Refuses result := by
  obtain ⟨_, _, _, _, _, _, ⟨body, reply, _⟩, _⟩ := opens
  rintro ⟨⟨isError, _⟩, _⟩
  rw [reply] at isError
  exact absurd isError (by simp [Reply.withBody])

/-- A request to open an account is honoured or refused.  Without a body, or without a currency in it, the
account is opened in the default currency; a body that is no such request, that is too long to be read, or that
names no currency, is refused. -/
def Honours (server : Server) (request : Request) (user : UserId) (defaultCurrency : Currency)
    (result : Reply × Server) : Prop :=
  match request.readBody OpeningBody.shape with
  | .ok ⟨none⟩ => server.Opens user defaultCurrency result
  | .ok ⟨some text⟩ =>
    match Currency.parse text with
    | .ok currency => server.Opens user currency result
    | .error _ => server.Refuses result
  | .error _ =>
    if request.body = [] then server.Opens user defaultCurrency result else server.Refuses result

/-- A deposit or a withdrawal with a body that cannot be read is refused. -/
theorem refuses_movement (server : Server) {direction : Service.Direction} {segment : String}
    {refusal : Reply} (method : request.method = .post)
    (path : Resource.ofPath? request.path = some (.movements direction segment))
    (known : request.identity? = some user)
    (unreadable : request.readBody MovementBody.shape = .error refusal) :
    server.Refuses (server.respond request) := by
  have leads : (Resource.movements direction segment).endpoint? request.method =
      some (.move direction segment) := by rw [method]; rfl
  have demand := Request.demand_eq path known leads
  rw [Request.demandAt] at demand
  obtain ⟨refusal', refused, mistake⟩ : ∃ refusal', request.movement direction segment = .error refusal' ∧
      400 ≤ refusal'.status ∧ refusal'.status < 500 := by
    unfold Request.movement
    cases decoded : Net.percentDecode segment.toList with
    | error =>
        refine ⟨.bare 400, ?_, by decide, by decide⟩
        rw [segmentText, decoded]
        rfl
    | ok text =>
        refine ⟨refusal, ?_, Request.status_of_readBody unreadable⟩
        rw [segmentText, decoded, unreadable]
        rfl
  have responds : server.respond request = (refusal', server) := by
    simp [respond, method, demand, refused, Demand.ofExcept, carryOut]
  rw [responds]
  exact ⟨mistake, rfl⟩

/-- An account is opened whenever that is demanded. -/
theorem Kept.opens {epoch count : Nat} {settings : Config.Settings}
    (kept : server.Kept epoch settings count) (inTime : 0 < settings.operationTimeout)
    (early : epoch + (count + 1) * Ledger.allowance < Uuid.weight 48) (user : UserId)
    (currency : Option Currency) :
    server.Opens user (currency.getD settings.defaultCurrency)
      (server.carryOut (.perform user (.openAccount currency))) := by
  obtain ⟨outcome, readings, ledger, carried, performs⟩ :=
    kept.exists_performs inTime user (.openAccount currency)
  obtain ⟨id, now, told, outcome_eq, tables⟩ :=
    Operation.carryOut_openAccount performs.carried fun _ told => kept.unused early performs told
  subst outcome_eq
  rw [kept.currency] at carried tables
  have absent := kept.unused early performs told
  rw [Tables.extend_of_new absent] at tables
  rw [carried]
  exact ⟨.opened ⟨id⟩ user (currency.getD settings.defaultCurrency) now, rfl, rfl, rfl, rfl, absent,
    ⟨_, rfl, Account.shows_view _⟩, tables⟩

/-- On a server that keeps its ledger in memory, whatever was asked of it before, a request of a user to open
an account is honoured or refused if and only if it has no body or one that can be read.  With any other body
it is neither: an account is opened in the default currency, as if there were no body.  Operations have some
time, and the clock and the requests so far leave room for more identifiers. -/
theorem honours_iff (epoch : Nat) {settings : Config.Settings} (inTime : 0 < settings.operationTimeout)
    (earlier : List Request)
    (early : epoch + (earlier.length + 1) * Ledger.allowance < Uuid.weight 48)
    (method : request.method = .post) (path : Resource.ofPath? request.path = some .accounts)
    (known : request.identity? = some user) :
    let server := (inMemory epoch settings).after earlier
    (server.Honours request user settings.defaultCurrency (server.respond request) ↔
      request.body = [] ∨ ∃ body, request.readBody OpeningBody.shape = .ok body) ∧
    ∀ refusal, request.readBody OpeningBody.shape = .error refusal →
      server.Opens user settings.defaultCurrency (server.respond request) := by
  intro server
  have kept : server.Kept epoch settings earlier.length := by
    have kept := (Kept.inMemory epoch settings).after inTime earlier
    rwa [Nat.zero_add] at kept
  have responds : server.respond request = server.carryOut request.demand := by
    simp only [respond, method, reduceCtorEq, if_false]
  have leads : Resource.accounts.endpoint? request.method = some .openAccount := by rw [method]; rfl
  have demand := Request.demand_eq path known leads
  rw [Request.demandAt] at demand
  unfold Honours
  cases read : request.readBody OpeningBody.shape with
  | error refusal =>
      have opens : server.Opens user settings.defaultCurrency (server.respond request) := by
        rw [responds, demand, Request.openingCurrency, read]
        exact kept.opens inTime early user none
      refine ⟨?_, fun _ _ => opens⟩
      by_cases empty : request.body = []
      · simp [empty, opens]
      · simp [empty, opens.not_refuses]
  | ok body =>
      refine ⟨iff_of_true ?_ (.inr ⟨body, rfl⟩), fun refusal unreadable => by cases unreadable⟩
      rw [responds, demand, Request.openingCurrency, read]
      obtain ⟨_ | text⟩ := body
      · exact kept.opens inTime early user none
      · cases parsed : Currency.parse text with
        | ok currency =>
            simp only [Option.mapM_some, parsed]
            exact kept.opens inTime early user (some currency)
        | error e =>
            simp only [Option.mapM_some, parsed]
            obtain ⟨reason, rfl⟩ := Currency.parse_eq_error parsed
            have refused : (Reply.ofError (.invalidCurrency reason)).status = 400 := rfl
            exact ⟨⟨Nat.le_of_eq refused.symm, refused ▸ (by decide : 400 < 500)⟩, rfl⟩

/-- The settings when none is given. -/
def unset : Config.Settings where
  database := none
  defaultCurrency := .usd
  operationTimeout := 5000
  rates := .empty
  address := Config.defaultAddress
  log := .standard

example : Config.Settings.read (fun _ => none) = .ok unset := rfl

/-- The first user sends bytes as JSON. -/
def posting (path : String) (body : List UInt8) : Request where
  method := .post
  path := path
  user := some "00000000-0000-0000-0000-000000000001"
  contentType := some "application/json"
  body := body

theorem identity?_posting (path : String) (body : List UInt8) :
    (posting path body).identity? = some ⟨Uuid.ofNat 1⟩ :=
  (by decide +kernel : (posting "" []).identity? = some ⟨Uuid.ofNat 1⟩)

theorem hasJsonBody_posting (path : String) (body : List UInt8) : (posting path body).hasJsonBody = true :=
  (by decide +kernel : (posting "" []).hasJsonBody = true)

/-- The first user asks for an account to be opened. -/
def opening (text : String) : Request := posting "/accounts" text.toUTF8.data.toList

def euroText : String := "\x7b\"currency\":\"EUR\"\x7d"

/-- The same with more blanks behind it than a body may have bytes. -/
def paddedEuro : List UInt8 := euroText.toUTF8.data.toList ++ List.replicate bodyLimit 32

theorem bodyLimit_lt_length_paddedEuro : bodyLimit < paddedEuro.length := by
  have something : 0 < euroText.toUTF8.data.toList.length := by decide +kernel
  rw [paddedEuro, List.length_append, List.length_replicate]
  omega

private theorem exists_refusal (unreadable : (request.readBody OpeningBody.shape).isOk = false) :
    ∃ refusal, request.readBody OpeningBody.shape = .error refusal := by
  cases read : request.readBody OpeningBody.shape with
  | error refusal => exact ⟨refusal, rfl⟩
  | ok body =>
      rw [read] at unreadable
      cases unreadable

/-- A request for an account in euros is honoured.  One in which a number stands for the currency is not, and
neither is one that is too long: another account is opened, in the default currency.  As a deposit the latter is
refused. -/
theorem honours_iff_euro :
    let euro := opening euroText
    let number := opening "\x7b\"currency\":5\x7d"
    let padded := posting "/accounts" paddedEuro
    let deposit := posting "/accounts/00000000-0000-0000-0000-000000000002/deposit" paddedEuro
    let server := (inMemory 0 unset).after [euro]
    (inMemory 0 unset).Honours euro ⟨Uuid.ofNat 1⟩ .usd ((inMemory 0 unset).respond euro) ∧
      (server.Opens ⟨Uuid.ofNat 1⟩ .usd (server.respond number) ∧
        ¬server.Honours number ⟨Uuid.ofNat 1⟩ .usd (server.respond number)) ∧
      (server.Opens ⟨Uuid.ofNat 1⟩ .usd (server.respond padded) ∧
        ¬server.Honours padded ⟨Uuid.ofNat 1⟩ .usd (server.respond padded)) ∧
      server.Refuses (server.respond deposit) := by
  intro euro number padded deposit server
  have path : Resource.ofPath? "/accounts" = some .accounts := by decide +kernel
  have inTime : 0 < unset.operationTimeout := by decide
  have unhonoured (body : List UInt8) (something : body ≠ []) {refusal : Reply}
      (unreadable : (posting "/accounts" body).readBody OpeningBody.shape = .error refusal) :
      server.Opens ⟨Uuid.ofNat 1⟩ .usd (server.respond (posting "/accounts" body)) ∧
        ¬server.Honours (posting "/accounts" body) ⟨Uuid.ofNat 1⟩ .usd
          (server.respond (posting "/accounts" body)) := by
    obtain ⟨honoured, opens⟩ :=
      honours_iff 0 inTime [euro] (by decide) (rfl : (posting "/accounts" body).method = .post) path
        (identity?_posting _ body)
    refine ⟨opens refusal unreadable, fun honours => ?_⟩
    rcases honoured.mp honours with empty | ⟨opening, read⟩
    · exact something empty
    · rw [unreadable] at read
      cases read
  obtain ⟨mistyped, unreadable⟩ : ∃ refusal, number.readBody OpeningBody.shape = .error refusal :=
    exists_refusal (by decide +kernel)
  have tooLong : padded.readBody OpeningBody.shape = .error (.bare 413) :=
    Request.readBody_of_long (hasJsonBody_posting _ _) bodyLimit_lt_length_paddedEuro
  refine ⟨?_, unhonoured _ ?_ unreadable, unhonoured _ ?_ tooLong, ?_⟩
  · obtain ⟨honoured, _⟩ :=
      honours_iff 0 inTime [] (by decide) (rfl : euro.method = .post) path (identity?_posting _ _)
    have readable : (Json.readFront OpeningBody.shape.read euro.body).isOk = true := by
      rw [show euro.body = euroText.toUTF8.data.toList from rfl, readFront_toUTF8]
      decide +kernel
    cases front : Json.readFront OpeningBody.shape.read euro.body with
    | ok body =>
        exact honoured.mpr
          (.inr ⟨body, Request.readBody_eq_ok_iff.mpr ⟨hasJsonBody_posting _ _, by decide +kernel, front⟩⟩)
    | error problem =>
        rw [front] at readable
        cases readable
  · decide +kernel
  · exact List.ne_nil_of_length_pos (Nat.zero_lt_of_lt bodyLimit_lt_length_paddedEuro)
  · have leads : Resource.ofPath? deposit.path =
        some (.movements .credit "00000000-0000-0000-0000-000000000002") := by decide +kernel
    exact refuses_movement server rfl leads (identity?_posting _ _)
      (Request.readBody_of_long (hasJsonBody_posting _ _) bodyLimit_lt_length_paddedEuro)

/-- A body that cannot be read is not refused. -/
theorem not_forall_honours :
    ¬∀ (epoch : Nat) (settings : Config.Settings) (earlier : List Request) (request : Request) (user : UserId),
      0 < settings.operationTimeout → epoch + (earlier.length + 1) * Ledger.allowance < Uuid.weight 48 →
        request.method = .post → Resource.ofPath? request.path = some .accounts →
          request.identity? = some user →
            ((inMemory epoch settings).after earlier).Honours request user settings.defaultCurrency
              (((inMemory epoch settings).after earlier).respond request) := by
  intro honoured
  let number := opening "\x7b\"currency\":5\x7d"
  have honours := honoured 0 unset [] number ⟨Uuid.ofNat 1⟩ (by decide) (by decide) rfl (by decide +kernel)
    (by decide +kernel)
  obtain ⟨refusal, unreadable⟩ : ∃ refusal, number.readBody OpeningBody.shape = .error refusal :=
    exists_refusal (by decide +kernel)
  unfold Honours at honours
  rw [unreadable] at honours
  have refused : 400 ≤ ((inMemory 0 unset).respond number).1.status := honours.1.1
  have opened : ((inMemory 0 unset).respond number).1.status = 201 := by decide +kernel
  rw [opened] at refused
  exact absurd refused (by decide)

end Server

end Http

end Passbook
