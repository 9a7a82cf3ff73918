import Passbook.Proofs.Service.Confidence
import Passbook.Proofs.Service.Entries
/-!
# Closing

To close an account is final, and only an account that holds nothing is closed.  Whoever closes an account has
locked its row, so that no deposit comes in between; once it is closed, its row and its entries stay what they
are, and all operations that are called then can rely on that.
-/

namespace Passbook

open Store (Tables requireLive requireAccount requireEntry)

/-! ### Histories -/

/-- A history shows the newest of the entries of the account that were recorded for the user. -/
theorem Store.Tables.history_eq (tables : Tables) (user : UserId) (id : AccountId) :
    tables.history user id =
      ((Service.entriesOf tables id).reverse.filter (·.user == user)).take Tables.historyLimit := by
  rw [Tables.history, Service.entriesOf, ← List.filter_reverse, List.filter_filter]
  congr 2
  funext entry
  exact Bool.and_comm _ _

/-- An entry that has been found is found as long as no entry goes. -/
theorem Store.Tables.entry?_of_prefix {before after : Tables} {id : TransactionId} {entry : LedgerEntry}
    (found : before.entry? id = some entry) (goesOn : before.entries <+: after.entries) :
    after.entry? id = some entry := by
  obtain ⟨more, entries⟩ := goesOn
  rw [Tables.entry?] at found ⊢
  rw [← entries, List.find?_append, found, Option.some_or]

namespace Service

open Session (Outcome)

/-! ### Closed accounts -/

/-- An account stands closed as it stood in some tables: its row and its entries are the same, and no entry
has gone. -/
structure StandsClosed (account : Account) (before tables : Tables) : Prop where
  closed : account.isDeleted = true
  row : tables.account? account.id = some account
  entries : entriesOf tables account.id = entriesOf before account.id
  goesOn : before.entries <+: tables.entries

/-- The account that has to be open for an operation. -/
def Operation.needs? : Operation → Option AccountId
  | move _ request => some request.account
  | account id | balance id | closeAccount id => some id
  | openAccount _ | history _ | transaction _ => none

theorem requireLive_of_closed {account : Account} (closed : account.isDeleted = true) :
    requireLive account.id (some account) = .error (.notFound s!"account {account.id}") := by
  rw [requireLive, Option.filter_some, closed, ← missingAccount_eq]
  rfl

theorem admission_of_closed {account : Account} (closed : account.isDeleted = true) (user : UserId) :
    admission user account.id (some account) = .error (.notFound s!"account {account.id}") := by
  rw [admission, requireLive_of_closed closed]
  rfl

namespace Operation.Yields

variable {fresh : Uuid → Prop} {defaultCurrency : Currency} {user : UserId} {operation : Operation}
  {account : Account} {before committed staged : Tables} {result : Except LedgerError Answer}

/-- An operation for which an account has to be open does not find one that is closed. -/
theorem of_needs
    (yields : operation.Yields (StandsClosed account before) fresh defaultCurrency user committed result
      staged)
    (stands : StandsClosed account before committed) (needs : operation.needs? = some account.id) :
    result = .error (.notFound s!"account {account.id}") := by
  cases yields with
  | opens | notOpened | history | transaction => cases needs
  | moves found movement =>
      rw [Option.some.inj needs, stands.row] at found
      cases found
      have live := movement.wasLive
      rw [stands.closed] at live
      cases live
  | closes found live =>
      rw [Option.some.inj needs, stands.row] at found
      cases found
      rw [stands.closed] at live
      cases live
  | notMoved because | notClosed because =>
      rw [Option.some.inj needs, stands.row, admission_of_closed stands.closed] at because
      rw [because _ rfl]
  | account seen known eq | balance seen known eq =>
      rw [eq, Option.some.inj needs, known.row, requireLive_of_closed known.closed]
      rfl

/-- The owner is shown the history as it was. -/
theorem of_history
    (yields : (Operation.history account.id).Yields (StandsClosed account before) fresh defaultCurrency
      account.owner committed result staged) :
    result = .ok (.history (before.history account.owner account.id)) := by
  obtain ⟨shown, known, rfl⟩ := yields.history_of_owned fun seen known => ⟨account, known.row, rfl⟩
  rw [Tables.history_eq, known.entries, ← Tables.history_eq]

/-- Whoever an entry was recorded for is shown the entry as it was. -/
theorem of_transaction {entry : LedgerEntry}
    (yields : (Operation.transaction entry.id).Yields (StandsClosed account before) fresh defaultCurrency
      entry.user committed result staged)
    (found : before.entry? entry.id = some entry) : result = .ok (.entry entry) :=
  yields.transaction_of_own fun _ known => Tables.entry?_of_prefix found known.goesOn

/-- An account that is closed is closed with nothing on it. -/
theorem balance_of_closed {answer : Answer} {base : Tables → Prop}
    (yields : operation.Yields base fresh defaultCurrency user committed (.ok answer) staged)
    (nothing : ∀ id account, committed.account? id = some account → account.isDeleted = true →
      account.balance.amount = 0) :
    ∀ id account, (committed.extend staged).account? id = some account → account.isDeleted = true →
      account.balance.amount = 0 := by
  intro id account found closed
  rw [Tables.account?_extend yields.distinctRows] at found
  rcases Option.or_eq_some_iff.mp found with written | ⟨_, old⟩
  · cases yields with
    | opens =>
        rw [Tables.account?_putAccount] at written
        split at written
        · cases written
          cases closed
        · cases written
    | moves _ movement =>
        rw [Tables.account?_addEntry, Tables.account?_putAccount] at written
        split at written
        · cases written
          rw [movement.live] at closed
          cases closed
        · cases written
    | closes _ _ _ holdsNothing =>
        rw [Tables.account?_putAccount] at written
        split at written
        · cases written
          exact holdsNothing
        · cases written
    | account | balance | history | transaction => cases written
  · exact nothing id account old closed

end Operation.Yields

namespace Chronicle

variable {chronicle after : Chronicle} {event : Event}

/-- An account that is closed stays what it is, with its entries. -/
theorem lasting_standsClosed (account : Account) (before : Tables) :
    Lasting (StandsClosed account before) := by
  intro chronicle after event regular happened stands
  have goesOn := stands.goesOn.trans (regular.evolves happened).entries
  cases regular.publishes happened with
  | nothing same =>
      rw [same]
      exact stands
  | @operation _ _ operation _ _ _ _ _ _ yields published =>
      have unopened : chronicle.world.tables.account? account.id = none →
          ∀ currency, operation ≠ .openAccount currency := by
        intro absent
        rw [stands.row] at absent
        cases absent
      obtain ⟨row, entries⟩ := yields.spares unopened (by
        intro account' found live
        rw [stands.row] at found
        cases found
        rw [stands.closed] at live
        cases live)
      rw [published] at goesOn ⊢
      exact ⟨stands.closed, row.trans stands.row, entries.trans stands.entries, goesOn⟩

/-! ### Closing once -/

/-- Rows are apart, accounts that are closed hold nothing, and every account that an operation has closed is
closed, by that operation alone. -/
structure ClosesOnce (chronicle : Chronicle) : Prop where
  distinct : chronicle.world.tables.DistinctRows
  nothing : ∀ id account, chronicle.world.tables.account? id = some account → account.isDeleted = true →
    account.balance.amount = 0
  closed : ∀ {number : Nat} {user : UserId} {id : AccountId} {answer : Answer},
    chronicle.calls[number]? = some (user, .closeAccount id) → chronicle.Completed number answer →
      ∃ account, chronicle.world.tables.account? id = some account ∧ account.isDeleted = true
  once : ∀ {one other : Nat} {user user' : UserId} {id : AccountId} {answer answer' : Answer},
    chronicle.calls[one]? = some (user, .closeAccount id) →
      chronicle.calls[other]? = some (user', .closeAccount id) → chronicle.Completed one answer →
        chronicle.Completed other answer' → one = other

theorem closesOnce_start (defaultCurrency : Currency) :
    (Chronicle.start defaultCurrency .empty).ClosesOnce where
  distinct := .empty
  nothing := by
    intro id account found
    cases found
  closed := by
    intro number user id answer called
    cases called
  once := by
    intro one other user user' id answer answer' called
    cases called

/-- Every event leaves it so. -/
theorem ClosesOnce.after? (closes : chronicle.ClosesOnce) (regular : chronicle.Regular)
    (happened : chronicle.after? event = some after) : after.ClosesOnce := by
  have stays : ∀ {id : AccountId},
      (∃ account, chronicle.world.tables.account? id = some account ∧ account.isDeleted = true) →
        ∃ account, after.world.tables.account? id = some account ∧ account.isDeleted = true := by
    rintro id ⟨account, found, closed⟩
    obtain ⟨account', found', goesOn⟩ := (regular.evolves happened).rows id account found
    exact ⟨account', found', (goesOn.closed closed).symm ▸ closed⟩
  have before : ∀ {number : Nat} {call : UserId × Operation} {answer : Answer},
      after.calls[number]? = some call → chronicle.Completed number answer →
        chronicle.calls[number]? = some call := by
    intro number call answer called completed
    rw [← called, regular.call_of_completed happened completed]
  have distinct := lasting_distinctRows regular happened closes.distinct
  cases regular.publishes happened with
  | nothing tables completed =>
      refine ⟨distinct, tables ▸ closes.nothing, ?_, ?_⟩
      · intro number user id answer called done
        have done' := (completed number answer).mp done
        exact stays (closes.closed (before called done') done')
      · intro one other user user' id answer answer' called called' done done'
        have first := (completed one answer).mp done
        have second := (completed other answer').mp done'
        exact closes.once (before called first) (before called' second) first second
  | @operation number user operation answer staged _ called _ _ yields tables completed =>
      -- Whoever completes now has found the account open, and leaves it closed.
      have closer : ∀ {user' : UserId} {id : AccountId},
          after.calls[number]? = some (user', .closeAccount id) →
            (∀ account, chronicle.world.tables.account? id = some account → account.isDeleted = false) ∧
              ∃ account, after.world.tables.account? id = some account ∧ account.isDeleted = true := by
        intro user' id called'
        rw [called_after? happened called] at called'
        cases called'
        cases yields with
        | @closes _ account now found live =>
            refine ⟨?_, closedAt account now, ?_, rfl⟩
            · intro account' found'
              rw [found] at found'
              cases found'
              exact live
            · have key : account.id = id := Tables.id_of_account? found
              rw [tables, Tables.account?_extend (.putAccount .empty _), Tables.account?_putAccount,
                if_pos (c := (closedAt account now).id = id) key, Option.some_or]
      have notBefore : ∀ {other : Nat} {user' user'' : UserId} {id : AccountId} {answer' : Answer},
          after.calls[number]? = some (user', .closeAccount id) →
            after.calls[other]? = some (user'', .closeAccount id) →
              ¬chronicle.Completed other answer' := by
        intro other user' user'' id answer' called' other' done
        obtain ⟨account, found, closed⟩ := closes.closed (before other' done) done
        rw [(closer called').1 account found] at closed
        cases closed
      refine ⟨distinct, tables ▸ yields.balance_of_closed closes.nothing, ?_, ?_⟩
      · intro other user' id answer' called' done
        rcases (completed other answer').mp done with ⟨rfl, rfl⟩ | done'
        · exact (closer called').2
        · exact stays (closes.closed (before called' done') done')
      · intro one other user' user'' id answer' answer'' called' called'' done done'
        rcases (completed one answer').mp done with ⟨rfl, rfl⟩ | first
        · rcases (completed other answer'').mp done' with ⟨rfl, rfl⟩ | second
          · rfl
          · exact absurd second (notBefore called' called'')
        · rcases (completed other answer'').mp done' with ⟨rfl, rfl⟩ | second
          · exact absurd first (notBefore called'' called')
          · exact closes.once (before called' first) (before called'' second) first second

/-! ### Closing is final -/

/-- What operations answer on an account that was closed before they were called: whatever needs it open does
not find it, and its owner is shown the same history and the same entries as before. -/
structure AnswersClosed (account : Account) (before : Tables) (user : UserId) (operation : Operation)
    (outcome : Outcome Answer) : Prop where
  needs : operation.needs? = some account.id → outcome = .failed (.notFound s!"account {account.id}")
  history : user = account.owner → operation = .history account.id →
    outcome = .completed (.history (before.history user account.id))
  transaction : ∀ entry, user = account.owner → entry.account = account.id →
    before.entry? entry.id = some entry → operation = .transaction entry.id →
      outcome = .completed (.entry entry)

/-- Whatever happens to the service on a store that has begun empty, with operations side by side, faults,
deadlines and cancellations:

1. Every account that is closed holds nothing.
2. From when an account is closed its row and its entries stay what they are, and an operation that is called
   from then on and comes to an answer of its own does not find the account if it needs it open, and shows its
   owner the same history and the same entries.
3. Of all operations that are to close an account at most one succeeds. -/
theorem closing_is_final {defaultCurrency : Currency} {events : List Event} {finish : Chronicle}
    (ran : (Chronicle.start defaultCurrency .empty).run? events = some finish) :
    (∀ account ∈ finish.world.tables.accounts, account.isDeleted = true → account.balance.amount = 0) ∧
    (∀ (earlier later : List Event) (mid : Chronicle) (account : Account), events = earlier ++ later →
      (Chronicle.start defaultCurrency .empty).run? earlier = some mid →
      mid.world.tables.account? account.id = some account → account.isDeleted = true →
        finish.world.tables.account? account.id = some account ∧
        entriesOf finish.world.tables account.id = entriesOf mid.world.tables account.id ∧
        ∀ (number : Nat) (user : UserId) (operation : Operation) (outcome : Outcome Answer),
          mid.calls.length ≤ number → finish.calls[number]? = some (user, operation) →
          operation.check = .ok () → finish.Answers number outcome →
            AnswersClosed account mid.world.tables user operation outcome) ∧
    ∀ (one other : Nat) (user user' : UserId) (id : AccountId) (answer answer' : Answer),
      finish.calls[one]? = some (user, .closeAccount id) →
      finish.calls[other]? = some (user', .closeAccount id) →
      finish.Completed one answer → finish.Completed other answer' → one = other := by
  have closes : finish.ClosesOnce := by
    have both := (Leads.of_foldlM ran).invariant
      (motive := fun chronicle => chronicle.Regular ∧ chronicle.ClosesOnce)
      ⟨.start defaultCurrency .empty, closesOnce_start defaultCurrency⟩
      fun ⟨regular, closes⟩ happened => ⟨regular.after? happened, closes.after? regular happened⟩
    exact both.2
  refine ⟨?_, ?_, ?_⟩
  · intro account member closed
    exact closes.nothing account.id account (closes.distinct.account?_of_mem member) closed
  · rintro earlier later mid account rfl reached found closed
    have regular : mid.Regular := (Regular.start defaultCurrency .empty).run? reached
    rw [run?_append, reached, Option.bind_some] at ran
    obtain ⟨stands, assures⟩ := regular.assures_run?
      (lasting_standsClosed account mid.world.tables) ⟨closed, found, rfl, List.prefix_refl _⟩ ran
    refine ⟨stands.row, stands.entries, ?_⟩
    intro number user operation outcome late called checked answers
    obtain ⟨result, committed, staged, rfl, known, yields⟩ :=
      (assures number late).answers called checked answers
    refine ⟨?_, ?_, ?_⟩
    · intro needs
      rw [yields.of_needs known needs]
      rfl
    · rintro rfl rfl
      rw [yields.of_history]
      rfl
    · rintro entry rfl own shown rfl
      -- The entry is the owner's, since entries of an account are.
      obtain ⟨account', found', wellFormed, _⟩ :=
        attested_of_run? reached entry (List.mem_of_find?_eq_some shown)
      rw [own, found] at found'
      cases found'
      rw [← wellFormed.user] at yields
      rw [yields.of_transaction shown]
      rfl
  · intro one other user user' id answer answer' called called' done done'
    exact closes.once called called' done done'

/-- Seven is put into an account and taken out again.  Then two closings and a deposit race for the account, and
the first of the closings has locked it first. -/
def rush : List Event :=
  let context := RequestContext.ofUser ⟨Uuid.ofNat 1⟩
  let move (direction : Direction) : Operation :=
    .move direction (.internal ⟨Uuid.ofNat 2⟩ (.exact ⟨7, .eur, by decide, by decide⟩))
  let step (number : Nat) : Event :=
    .advanced number ⟨⟨0, 0⟩, Uuid.ofNat (number + 2), fun _ _ => .error .outOfRange⟩
  [.called context (.openAccount none)] ++ List.replicate 13 (step 0) ++
    [.called context (move .credit)] ++ List.replicate 19 (step 1) ++
    [.called context (move .debit)] ++ List.replicate 19 (step 2) ++
    [.called context (.closeAccount ⟨Uuid.ofNat 2⟩), .called context (.closeAccount ⟨Uuid.ofNat 2⟩),
      .called context (move .credit)] ++
      List.replicate 3 (step 3) ++ List.replicate 3 (step 4) ++ List.replicate 3 (step 5) ++
        List.replicate 12 (step 3)

/-- The others come too late, and the owner looks at the account and at its history. -/
def aftermath : List Event :=
  let context := RequestContext.ofUser ⟨Uuid.ofNat 1⟩
  let step (number : Nat) : Event :=
    .advanced number ⟨⟨0, 0⟩, Uuid.ofNat (number + 2), fun _ _ => .error .outOfRange⟩
  List.replicate 6 (step 4) ++ List.replicate 6 (step 5) ++
    [.called context (.balance ⟨Uuid.ofNat 2⟩)] ++ List.replicate 5 (step 6) ++
    [.called context (.history ⟨Uuid.ofNat 2⟩)] ++ List.replicate 8 (step 7)

/-- The account is closed with nothing on it, and its owner still finds the history but no balance. -/
theorem closing_is_final_rush :
    ∃ mid finish account, (Chronicle.start .eur .empty).run? rush = some mid ∧
      (Chronicle.start .eur .empty).run? (rush ++ aftermath) = some finish ∧
        mid.world.tables.account? ⟨Uuid.ofNat 2⟩ = some account ∧ account.isDeleted = true ∧
          finish.world.tables.account? ⟨Uuid.ofNat 2⟩ = some account ∧ account.balance.amount = 0 ∧
            finish.Answers 6 (.failed (.notFound s!"account {account.id}")) ∧
              finish.Answers 7
                (.completed (.history (mid.world.tables.history ⟨Uuid.ofNat 1⟩ ⟨Uuid.ofNat 2⟩))) ∧
                (entriesOf finish.world.tables ⟨Uuid.ofNat 2⟩).length = 2 := by
  have row : ((Chronicle.start .eur .empty).run? rush).map (fun mid =>
      (mid.world.tables.account? ⟨Uuid.ofNat 2⟩).map fun account =>
        (account.owner, account.isDeleted)) = some (some (⟨Uuid.ofNat 1⟩, true)) := by
    decide +kernel
  have counts : ((Chronicle.start .eur .empty).run? rush).map (fun mid =>
      (mid.calls.length, (entriesOf mid.world.tables ⟨Uuid.ofNat 2⟩).length)) = some (6, 2) := by
    decide +kernel
  have late : ((Chronicle.start .eur .empty).run? (rush ++ aftermath)).map (fun finish =>
      finish.calls[7]?) = some (some (⟨Uuid.ofNat 1⟩, .history ⟨Uuid.ofNat 2⟩)) := by
    decide +kernel
  have missing : (((Chronicle.start .eur .empty).run? (rush ++ aftermath)).bind fun finish =>
      finish.world.sessions[6]?.bind (·.phase.outcome)) =
        some (.failed (.notFound s!"account {(⟨Uuid.ofNat 2⟩ : AccountId)}")) := by
    decide +kernel
  have shown : ((Chronicle.start .eur .empty).run? (rush ++ aftermath)).map (fun finish =>
      ((finish.world.sessions[7]?.bind (·.phase.outcome)).bind (·.value?)).isSome) = some true := by
    decide +kernel
  obtain ⟨mid, reached, row⟩ := Option.map_eq_some_iff.mp row
  obtain ⟨account, found, row⟩ := Option.map_eq_some_iff.mp row
  obtain ⟨owned, closed⟩ := Prod.mk.inj row
  obtain ⟨finish, ran, called⟩ := Option.map_eq_some_iff.mp late
  rw [reached, Option.map_some, Option.some.injEq, Prod.mk.injEq] at counts
  rw [ran, Option.bind_some] at missing
  rw [ran, Option.map_some, Option.some.injEq] at shown
  have key : account.id = ⟨Uuid.ofNat 2⟩ := Tables.id_of_account? found
  obtain ⟨session, known, decided⟩ := Option.bind_eq_some_iff.mp missing
  have answer : finish.Answers 6 (.failed (.notFound s!"account {account.id}")) := by
    refine ⟨session, known, key ▸ decided, nofun, fun place same => ?_⟩
    rw [injected_eq] at same
    cases same
  obtain ⟨value, shown⟩ := Option.isSome_iff_exists.mp shown
  obtain ⟨outcome, here, completed⟩ := Option.bind_eq_some_iff.mp shown
  obtain ⟨session', known', decided'⟩ := Option.bind_eq_some_iff.mp here
  rw [Session.Outcome.value?_eq_some_iff.mp completed] at decided'
  have answer' : finish.Answers 7 (.completed value) := ⟨session', known', decided', trivial⟩
  obtain ⟨nothing, final, _⟩ := closing_is_final ran
  obtain ⟨row, entries, answers⟩ := final rush aftermath mid account rfl reached (key ▸ found) closed
  have shown := (answers 7 _ _ _ (by omega) called rfl answer').history owned.symm
    (congrArg Operation.history key.symm)
  rw [shown, key] at answer'
  rw [key] at row entries
  exact ⟨mid, finish, account, reached, ran, found, closed, row,
    nothing account (Tables.mem_of_account? row) closed, answer, answer', entries ▸ counts.2⟩

end Chronicle

end Service

end Passbook
