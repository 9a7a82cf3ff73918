import Passbook.Proofs.Service.Standing
/-!
# The log of a chronicle

The operations of a chronicle are logged in the order in which they come to their moments.  Carried out one
after the other in this order, each with what it was told, they come to the same outcomes and leave the
tables as they are.  The log only grows, and an operation is in it by the time it has answered.
-/

namespace Passbook.Service

open Session (Reading Outcome Task World Turn)
open Store (Tables Continues)

/-- An operation that passes its check is carried out by its task. -/
theorem Operation.carryOut_of_checked {operation : Operation} (checked : operation.check = .ok ())
    (defaultCurrency : Currency) (user : UserId) (tables : Tables) (readings : List Reading) :
    operation.carryOut defaultCurrency user tables readings =
      ((operation.task defaultCurrency user).execute tables .empty readings).map fun done =>
        (done.1, published tables done) := by
  unfold carryOut
  simp only [checked]

/-- An operation that does not pass its check comes to nothing else. -/
theorem Operation.carryOut_of_refused {operation : Operation} {e : LedgerError}
    (checked : operation.check = .error e) (defaultCurrency : Currency) (user : UserId)
    (tables : Tables) :
    operation.carryOut defaultCurrency user tables [] = some (.failed e, tables) := by
  unfold carryOut
  simp only [checked]

/-- An operation that looks changes nothing when it is carried out. -/
theorem Operation.tables_of_looks {defaultCurrency : Currency} {user : UserId} {operation : Operation}
    {tables after : Tables} {readings : List Reading} {outcome : Outcome Answer}
    (looks : (operation.task defaultCurrency user).Looks)
    (carried : operation.carryOut defaultCurrency user tables readings = some (outcome, after)) :
    after = tables := by
  unfold carryOut at carried
  split at carried
  · cases carried
    rfl
  · cases carried
  · obtain ⟨⟨outcome', written⟩, executed, published⟩ := Option.map_eq_some_iff.mp carried
    cases published
    rw [looks.written_eq executed, published_empty]

namespace Chronicle

/-! ### One after the other -/

/-- Operations are carried out one after the other, each with the outcome that is listed for it and without
an injected fault. -/
inductive Serially (chronicle : Chronicle) (start : Tables) :
    List (Nat × Outcome Answer) → Tables → Prop where
  | start : Serially chronicle start [] start
  | snoc {log : List (Nat × Outcome Answer)} {tables after : Tables} {number : Nat}
      {outcome : Outcome Answer} (serially : Serially chronicle start log tables)
      (carried : chronicle.carryOut number tables = some (outcome, after))
      (unhit : .insertFault true ∉ chronicle.readingsOf number) :
      Serially chronicle start (log ++ [(number, outcome)]) after

section Serially

variable {chronicle after : Chronicle} {start finish : Tables} {log : List (Nat × Outcome Answer)}
  {number : Nat}

/-- An operation goes the same way if it is the same and was told the same. -/
theorem carryOut_congr (calls : after.calls[number]? = chronicle.calls[number]?)
    (currency : after.defaultCurrency = chronicle.defaultCurrency)
    (readings : after.readingsOf number = chronicle.readingsOf number) (tables : Tables) :
    after.carryOut number tables = chronicle.carryOut number tables := by
  rw [carryOut, carryOut, calls, currency, readings]

theorem Serially.congr (serially : chronicle.Serially start log finish)
    (currency : after.defaultCurrency = chronicle.defaultCurrency)
    (same : ∀ entry ∈ log, after.calls[entry.1]? = chronicle.calls[entry.1]? ∧
      after.readingsOf entry.1 = chronicle.readingsOf entry.1) :
    after.Serially start log finish := by
  induction serially with
  | start => exact .start
  | @snoc log tables next number outcome _ carried unhit inductionHypothesis =>
      obtain ⟨calls, readings⟩ := same (number, outcome) (by simp)
      refine .snoc (inductionHypothesis ?_) ?_ ?_
      · exact fun entry member => same entry (List.mem_append_left _ member)
      · rw [carryOut_congr calls currency readings, carried]
      · rwa [readings]

/-- Operations that change nothing may be left out. -/
theorem Serially.filter (serially : chronicle.Serially start log finish)
    (keep : Nat × Outcome Answer → Bool)
    (idle : ∀ entry ∈ log, keep entry = false → ∀ {tables tables' : Tables} {outcome : Outcome Answer},
      chronicle.carryOut entry.1 tables = some (outcome, tables') → tables' = tables) :
    chronicle.Serially start (log.filter keep) finish := by
  induction serially with
  | start => exact .start
  | @snoc log tables next number outcome _ carried unhit inductionHypothesis =>
      have before := inductionHypothesis fun entry member => idle entry (List.mem_append_left _ member)
      rw [List.filter_append]
      cases kept : keep (number, outcome) with
      | true =>
          rw [List.filter_cons_of_pos kept]
          exact before.snoc carried unhit
      | false =>
          have same := idle (number, outcome) (by simp) kept carried
          rw [List.filter_cons_of_neg (by simp [kept]), same]
          simpa using before

end Serially

/-! ### Where the operations of a chronicle stand -/

/-- The identifiers of the sessions whose operations are logged. -/
def numbers (log : List (Nat × Outcome Answer)) : List Nat := log.map (·.1)

/-- Where the operation of a session stands, and whether it is logged. -/
inductive Stands (chronicle : Chronicle) (log : List (Nat × Outcome Answer)) (number : Nat)
    (session : Session.Session Empty Answer) : Prop where
  | underway {user : UserId} {operation : Operation} (unlogged : number ∉ numbers log)
      (called : chronicle.calls[number]? = some (user, operation)) (checked : operation.check = .ok ())
      (underway : Underway chronicle.world.tables (operation.task chronicle.defaultCurrency user)
        (chronicle.readingsOf number) session)
  | void {outcome : Outcome Answer} (unlogged : number ∉ numbers log)
      (decided : session.phase.outcome = some outcome) (noAnswer : ¬IsAnswer outcome)
  | settled {user : UserId} {operation : Operation} (logged : number ∈ numbers log)
      (called : chronicle.calls[number]? = some (user, operation))
      (settled : ∀ outcome, (number, outcome) ∈ log →
        Settled (operation.task chronicle.defaultCurrency user) session outcome)

/-- What an event adds to the log. -/
inductive Adds (chronicle : Chronicle) (log : List (Nat × Outcome Answer)) (after : Chronicle) :
    List (Nat × Outcome Answer) → Prop where
  | nothing (same : after.world.tables = chronicle.world.tables) : Adds chronicle log after []
  /-- An operation has come to its moment. -/
  | answer {number : Nat} {outcome : Outcome Answer} (unlogged : number ∉ numbers log)
      (known : number < after.calls.length)
      (carried : after.carryOut number chronicle.world.tables = some (outcome, after.world.tables))
      (unhit : .insertFault true ∉ after.readingsOf number) :
      Adds chronicle log after [(number, outcome)]

/-- A log of a chronicle that has begun with some tables. -/
structure Logged (start : Tables) (chronicle : Chronicle) (log : List (Nat × Outcome Answer)) :
    Prop where
  inOrder : chronicle.world.InOrder
  length : chronicle.calls.length = chronicle.world.sessions.length
  told : ∀ number reading, (number, reading) ∈ chronicle.readings → number < chronicle.calls.length
  known : ∀ number ∈ numbers log, number < chronicle.calls.length
  distinct : (numbers log).Nodup
  serially : chronicle.Serially start log chronicle.world.tables
  stands : ∀ number session, chronicle.world.sessions[number]? = some session →
    chronicle.Stands log number session

variable {chronicle after : Chronicle} {start : Tables} {log more : List (Nat × Outcome Answer)}
  {number : Nat} {session next : Session.Session Empty Answer}

@[simp] theorem numbers_append (log more : List (Nat × Outcome Answer)) :
    numbers (log ++ more) = numbers log ++ numbers more :=
  List.map_append

theorem mem_numbers {outcome : Outcome Answer} (logged : (number, outcome) ∈ log) :
    number ∈ numbers log :=
  List.mem_map.mpr ⟨_, logged, rfl⟩

theorem exists_of_mem_numbers (logged : number ∈ numbers log) : ∃ outcome, (number, outcome) ∈ log := by
  obtain ⟨⟨_, outcome⟩, member, rfl⟩ := List.mem_map.mp logged
  exact ⟨outcome, member⟩

/-- An operation stands where it stood as long as nothing that concerns it happens. -/
theorem Stands.congr (stands : chronicle.Stands log number session)
    (calls : after.calls[number]? = chronicle.calls[number]?)
    (currency : after.defaultCurrency = chronicle.defaultCurrency)
    (readings : after.readingsOf number = chronicle.readingsOf number)
    (others : number ∉ numbers more)
    (stays : ∀ first, Underway chronicle.world.tables first (chronicle.readingsOf number) session →
      Underway after.world.tables first (chronicle.readingsOf number) session) :
    after.Stands (log ++ more) number session := by
  have unlogged' : number ∉ numbers log → number ∉ numbers (log ++ more) := by
    intro unlogged
    rw [numbers_append, List.mem_append]
    exact fun either => either.elim unlogged others
  cases stands with
  | underway unlogged called checked underway =>
      refine .underway (unlogged' unlogged) (calls.trans called) checked ?_
      rw [currency, readings]
      exact stays _ underway
  | void unlogged decided noAnswer => exact .void (unlogged' unlogged) decided noAnswer
  | settled logged called settled =>
      refine .settled ?_ (calls.trans called) ?_
      · rw [numbers_append]
        exact List.mem_append_left _ logged
      · intro outcome member
        rw [currency]
        rcases List.mem_append.mp member with old | new
        · exact settled outcome old
        · exact absurd (mem_numbers new) others

/-! ### Turns -/

section Turns

variable {tables : Tables} {clock : Nat} {learned : List Reading}

/-- Whoever is in the log is told nothing any more. -/
theorem Stands.learned_eq_nil (stands : chronicle.Stands log number session)
    (turn : Turn chronicle.world.tables clock session learned next tables)
    (logged : number ∈ numbers log) : learned = [] := by
  cases stands with
  | underway unlogged | void unlogged => exact absurd logged unlogged
  | settled logged called settled =>
      obtain ⟨outcome, member⟩ := exists_of_mem_numbers logged
      exact ((settled outcome member).turn turn).1

/-- A turn adds no entry but under identifiers that were handed out to the session. -/
theorem Stands.entry?_eq (stands : chronicle.Stands log number session)
    (turn : Turn chronicle.world.tables clock session learned next tables) {id : TransactionId}
    (foreign : ¬drawn (chronicle.readingsOf number) id.uuid) :
    tables.entry? id = chronicle.world.tables.entry? id := by
  cases stands with
  | underway _ _ _ underway => exact underway.entry?_eq turn foreign
  | void _ decided => rw [(turn.of_decided decided).2.1]
  | settled logged called settled =>
      obtain ⟨outcome, member⟩ := exists_of_mem_numbers logged
      rw [((settled outcome member).turn turn).2.1]

/-- A turn adds the operation to the log, or nothing. -/
theorem Stands.turn (stands : chronicle.Stands log number session)
    (turn : Turn chronicle.world.tables clock session learned next after.world.tables)
    (calls : after.calls = chronicle.calls)
    (currency : after.defaultCurrency = chronicle.defaultCurrency)
    (readings : after.readingsOf number = chronicle.readingsOf number ++ learned) :
    ∃ more, chronicle.Adds log after more ∧ after.Stands (log ++ more) number next ∧
      ∀ other ∈ numbers more, other = number := by
  cases stands with
  | @underway user operation unlogged called checked underway =>
      rw [← calls] at called
      cases underway.turn turn with
      | underway underway' same =>
          refine ⟨[], .nothing same, ?_, nofun⟩
          rw [List.append_nil]
          refine .underway unlogged called checked ?_
          rwa [currency, readings, same]
      | void decided noAnswer same =>
          refine ⟨[], .nothing same, ?_, nofun⟩
          rw [List.append_nil]
          exact .void unlogged decided noAnswer
      | @settles outcome written carried unhit published settled =>
          obtain ⟨known, _⟩ := List.getElem?_eq_some_iff.mp called
          refine ⟨[(number, outcome)], .answer unlogged known ?_ ?_, ?_, ?_⟩
          · rw [carryOut, called, Option.bind_some, Operation.carryOut_of_checked checked, currency,
              readings, carried, Option.map_some, published]
          · rwa [readings]
          · refine .settled (by simp [numbers]) called ?_
            intro outcome' member
            rcases List.mem_append.mp member with old | new
            · exact absurd (mem_numbers old) unlogged
            · cases List.mem_singleton.mp new
              rwa [currency]
          · intro other member
            exact List.mem_singleton.mp member
  | void unlogged decided noAnswer =>
      obtain ⟨_, same, decided', _⟩ := turn.of_decided decided
      refine ⟨[], .nothing same, ?_, nofun⟩
      rw [List.append_nil]
      exact .void unlogged decided' noAnswer
  | settled logged called settled =>
      obtain ⟨outcome, member⟩ := exists_of_mem_numbers logged
      refine ⟨[], .nothing ((settled outcome member).turn turn).2.1, ?_, nofun⟩
      rw [List.append_nil]
      refine .settled logged (calls ▸ called) ?_
      intro outcome' member'
      rw [currency]
      exact ((settled outcome' member').turn turn).2.2

end Turns

/-! ### Events -/

namespace Logged

/-- What an event adds to the log comes to the same when it is carried out after what was logged before. -/
theorem serially_add (logged : Logged start chronicle log) (adds : chronicle.Adds log after more)
    (currency : after.defaultCurrency = chronicle.defaultCurrency)
    (same : ∀ number ∈ numbers log, after.calls[number]? = chronicle.calls[number]? ∧
      after.readingsOf number = chronicle.readingsOf number) :
    after.Serially start (log ++ more) after.world.tables := by
  have before := logged.serially.congr currency fun entry member => same entry.1 (mem_numbers member)
  cases adds with
  | nothing same =>
      rw [List.append_nil, same]
      exact before
  | answer _ _ carried unhit => exact before.snoc carried unhit

/-- No number is logged twice. -/
theorem distinct_add (logged : Logged start chronicle log) (adds : chronicle.Adds log after more) :
    (numbers (log ++ more)).Nodup := by
  cases adds with
  | nothing =>
      rw [List.append_nil]
      exact logged.distinct
  | answer unlogged =>
      rw [numbers_append, List.nodup_append]
      refine ⟨logged.distinct, by simp [numbers], ?_⟩
      rintro one member _ (_ | ⟨_, ⟨⟩⟩) rfl
      exact unlogged member

theorem known_add (logged : Logged start chronicle log) (adds : chronicle.Adds log after more)
    (longer : chronicle.calls.length ≤ after.calls.length) :
    ∀ number ∈ numbers (log ++ more), number < after.calls.length := by
  intro number member
  rw [numbers_append] at member
  rcases List.mem_append.mp member with old | new
  · exact Nat.lt_of_lt_of_le (logged.known number old) longer
  · cases adds with
    | nothing => cases new
    | answer _ known =>
        cases List.mem_singleton.mp new
        exact known

/-- A chronicle that has just begun has an empty log. -/
theorem of_start (defaultCurrency : Currency) (tables : Tables) :
    Logged tables (Chronicle.start defaultCurrency tables) [] where
  inOrder := .of_none rfl rfl rfl
  length := rfl
  told := by
    intro number reading member
    cases member
  known := by
    intro number member
    cases member
  distinct := List.nodup_nil
  serially := .start
  stands := by
    intro number session known
    cases known

/-- A call adds a session, and to the log at most its own operation. -/
theorem add (logged : Logged start chronicle log) {call : UserId × Operation}
    (adds : chronicle.Adds log after more)
    (own : ∀ number ∈ numbers more, number = chronicle.calls.length)
    (calls : after.calls = chronicle.calls ++ [call])
    (sessions : after.world.sessions = chronicle.world.sessions ++ [session])
    (tables : after.world.tables = chronicle.world.tables)
    (currency : after.defaultCurrency = chronicle.defaultCurrency)
    (readings : after.readings = chronicle.readings) (inOrder : after.world.InOrder)
    (stands : after.Stands (log ++ more) chronicle.calls.length session) :
    Logged start after (log ++ more) := by
  have longer : chronicle.calls.length ≤ after.calls.length := by simp [calls]
  have readingsOf : ∀ number, after.readingsOf number = chronicle.readingsOf number := by
    intro number
    rw [Chronicle.readingsOf, Chronicle.readingsOf, readings]
  have callsBefore : ∀ {number}, number < chronicle.calls.length →
      after.calls[number]? = chronicle.calls[number]? := by
    intro number before
    rw [calls, List.getElem?_append_left before]
  refine ⟨inOrder, ?_, ?_, logged.known_add adds longer, logged.distinct_add adds, ?_, ?_⟩
  · simp [calls, sessions, logged.length]
  · intro number reading member
    rw [readings] at member
    exact Nat.lt_of_lt_of_le (logged.told number reading member) longer
  · refine logged.serially_add adds currency fun number member => ⟨?_, readingsOf number⟩
    exact callsBefore (logged.known number member)
  · intro number found here
    rcases World.session_added sessions here with there | ⟨same, rfl⟩
    · have before : number < chronicle.calls.length := by
        rw [logged.length]
        exact (List.getElem?_eq_some_iff.mp there).1
      refine (logged.stands number found there).congr (callsBefore before) currency (readingsOf number)
        ?_ ?_
      · intro member
        exact absurd (own number member) (Nat.ne_of_lt before)
      · intro first underway
        rwa [tables]
    · rw [same, ← logged.length]
      exact stands

section Call

variable (context : RequestContext) {operation : Operation}

private theorem unlogged_length (logged : Logged start chronicle log) :
    chronicle.calls.length ∉ numbers log := by
  intro member
  exact absurd (logged.known _ member) (Nat.lt_irrefl _)

private theorem called_call (chronicle : Chronicle) (operation : Operation) :
    (chronicle.call context operation).calls[chronicle.calls.length]? =
      some (context.user, operation) := by
  simp [Chronicle.call]

/-- Nothing has been told to a session that is only called now. -/
private theorem told_call (logged : Logged start chronicle log) (operation : Operation) :
    (chronicle.call context operation).readingsOf chronicle.calls.length = [] := by
  rw [List.eq_nil_iff_forall_not_mem]
  intro reading member
  exact absurd (logged.told _ reading (mem_readingsOf.mp member)) (Nat.lt_irrefl _)

/-- A call that passes its check is underway. -/
private theorem call_of_checked (logged : Logged start chronicle log)
    (checked : operation.check = .ok ()) :
    Logged start (chronicle.call context operation) (log ++ []) := by
  have world : (chronicle.call context operation).world = chronicle.world.call context
      chronicle.world.clock (operation.work chronicle.defaultCurrency context.user) := by
    simp only [Chronicle.call, checked]
  have sessions : (chronicle.call context operation).world.sessions = chronicle.world.sessions ++
      [⟨context, .opening chronicle.world.clock (operation.task chronicle.defaultCurrency context.user),
        chronicle.world.clock, [], .empty, []⟩] := by
    rw [world]
    rfl
  have tables : (chronicle.call context operation).world.tables = chronicle.world.tables := by
    rw [world]
    rfl
  have inOrder : (chronicle.call context operation).world.InOrder := by
    rw [world]
    exact logged.inOrder.call context _ _
  apply logged.add (.nothing tables) nofun rfl sessions tables rfl rfl inOrder
  rw [List.append_nil]
  refine .underway logged.unlogged_length (called_call context chronicle operation) checked ?_
  rw [logged.told_call context operation]
  cases kind : operation.isLook with
  | false => exact .of_guarded (operation.task_guarded _ _ kind)
  | true => exact .looking (operation.task_looks _ _ kind) rfl rfl rfl

/-- A call that does not pass its check is answered at once. -/
private theorem call_of_refused (logged : Logged start chronicle log) {e : LedgerError}
    (checked : operation.check = .error e) :
    ∃ more, Logged start (chronicle.call context operation) (log ++ more) := by
  have unlogged := logged.unlogged_length
  have told := logged.told_call context operation
  have called := called_call context chronicle operation
  have world : (chronicle.call context operation).world =
      { chronicle.world with
        sessions := chronicle.world.sessions ++ [refused context chronicle.world.clock e] } := by
    simp only [Chronicle.call, checked]
  have sessions : (chronicle.call context operation).world.sessions =
      chronicle.world.sessions ++ [refused context chronicle.world.clock e] := by
    rw [world]
  have tables : (chronicle.call context operation).world.tables = chronicle.world.tables := by
    rw [world]
  have inOrder : (chronicle.call context operation).world.InOrder := by
    rw [world]
    refine logged.inOrder.add rfl rfl rfl rfl rfl rfl ?_ (.of_decided .empty rfl)
    exact fun _ _ => Session.Phase.not_seeks rfl rfl
  by_cases answer : IsAnswer (.failed e)
  · have carried : (chronicle.call context operation).carryOut chronicle.calls.length
        chronicle.world.tables = some (.failed e, (chronicle.call context operation).world.tables) := by
      rw [carryOut, called, told, tables, Option.bind_some, Operation.carryOut_of_refused checked]
    refine ⟨[(chronicle.calls.length, .failed e)],
      logged.add (.answer unlogged ?_ carried ?_) ?_ rfl sessions tables rfl rfl inOrder ?_⟩
    · simp [Chronicle.call]
    · rw [told]
      exact List.not_mem_nil
    · intro number member
      exact List.mem_singleton.mp member
    · refine .settled (by simp [numbers]) called ?_
      intro outcome member
      rcases List.mem_append.mp member with old | new
      · exact absurd (mem_numbers old) unlogged
      · cases List.mem_singleton.mp new
        exact .decided rfl answer
  · refine ⟨[], logged.add (.nothing tables) nofun rfl sessions tables rfl rfl inOrder ?_⟩
    rw [List.append_nil]
    exact .void unlogged rfl answer

/-- A call adds to the log at most its own operation. -/
theorem call (logged : Logged start chronicle log) (operation : Operation) :
    ∃ more, Logged start (chronicle.call context operation) (log ++ more) := by
  cases checked : operation.check with
  | ok _ => exact ⟨[], logged.call_of_checked context checked⟩
  | error e => exact logged.call_of_refused context checked

end Call

/-- An event of the store adds to the log at most the operation of the session that has a turn. -/
theorem follow (logged : Logged start chronicle log) (distinct : chronicle.freshIds.Nodup)
    {event : Session.Event Empty Answer} (follows : chronicle.Follows event after) :
    ∃ more, Logged start after (log ++ more) := by
  have inOrder := logged.inOrder.after? follows.world
  have longer : chronicle.calls.length ≤ after.calls.length := Nat.le_of_eq (by rw [follows.calls])
  have callsSame : ∀ number : Nat, after.calls[number]? = chronicle.calls[number]? := by
    intro number
    rw [follows.calls]
  have told : ∀ number reading, (number, reading) ∈ after.readings →
      number < after.calls.length ∨ reading ∈ chronicle.world.toldTo number event := by
    intro number reading member
    rw [follows.readings] at member
    rcases List.mem_append.mp member with old | new
    · exact .inl (Nat.lt_of_lt_of_le (logged.told number reading old) longer)
    · exact .inr (mem_toldTo new)
  have untold : ∀ {number : Nat}, chronicle.world.toldTo number event = [] →
      after.readingsOf number = chronicle.readingsOf number := by
    intro number quiet
    rw [follows.readingsOf_eq, quiet, List.append_nil]
  cases World.after?_happens follows.world with
  | called context work calls =>
      have contrary := follows.notCall
      rw [calls] at contrary
      cases contrary
  | aside sessions tables _ _ quiet =>
      have adds : chronicle.Adds log after [] := .nothing tables
      refine ⟨[], inOrder, ?_, ?_, logged.known_add adds longer, logged.distinct_add adds, ?_, ?_⟩
      · rw [follows.calls, sessions, logged.length]
      · intro number reading member
        rcases told number reading member with before | now
        · exact before
        · rw [quiet] at now
          cases now
      · exact logged.serially_add adds follows.currency fun number _ =>
          ⟨callsSame number, untold (quiet number)⟩
      · intro number session here
        rw [sessions] at here
        refine (logged.stands number session here).congr (callsSame number) follows.currency
          (untold (quiet number)) nofun ?_
        intro first underway
        rwa [tables]
  | @turned session next number found sessions turn move others =>
      have staged := logged.inOrder.staged found
      have stands := logged.stands number session found
      obtain ⟨more, adds, stands', own⟩ :=
        stands.turn turn follows.calls follows.currency (follows.readingsOf_eq number)
      refine ⟨more, inOrder, ?_, ?_, logged.known_add adds longer, logged.distinct_add adds, ?_, ?_⟩
      · rw [follows.calls, sessions, List.length_set, logged.length]
      · intro other reading member
        rcases told other reading member with before | now
        · exact before
        · have mine : other = number := by
            apply Classical.byContradiction
            intro different
            rw [others other different] at now
            cases now
          rw [mine, follows.calls, logged.length]
          exact (List.getElem?_eq_some_iff.mp found).1
      · refine logged.serially_add adds follows.currency fun other member => ⟨callsSame other, untold ?_⟩
        by_cases mine : other = number
        · subst mine
          exact stands.learned_eq_nil turn member
        · exact others other mine
      · intro other session' here
        rcases World.session_after sessions here with ⟨rfl, rfl⟩ | ⟨different, there⟩
        · exact stands'
        · refine (logged.stands other session' there).congr (callsSame other) follows.currency
            (untold (others other different)) (fun member => different (own other member)) ?_
          intro first underway
          refine underway.others ?_ ?_ (turn.continues staged)
          · intro id holds
            refine turn.account?_of_not_holds staged fun holds' => different ?_
            exact logged.inOrder.locks.exclusive there found holds holds'
          · intro id mine
            exact stands.entry?_eq turn fun theirs => different (number_eq_of_drawn distinct mine theirs)

/-- Every event adds to the log at most one operation. -/
theorem after? (logged : Logged start chronicle log) (distinct : chronicle.freshIds.Nodup)
    {event : Event} (happened : chronicle.after? event = some after) :
    ∃ more, Logged start after (log ++ more) := by
  rcases after?_cases happened with ⟨context, operation, _, rfl⟩ | ⟨event', follows⟩
  · exact logged.call context operation
  · exact logged.follow distinct follows

end Logged

/-! ### Histories -/

/-- After every history of events there is a log, and it goes on from a log of every chronicle on the way. -/
theorem exists_logged {defaultCurrency : Currency} {tables : Tables} {events : List Event}
    {finish : Chronicle} (ran : (Chronicle.start defaultCurrency tables).run? events = some finish)
    (distinct : finish.freshIds.Nodup) :
    ∃ log, Logged tables finish log ∧
      ∀ earlier later mid, events = earlier ++ later →
        (Chronicle.start defaultCurrency tables).run? earlier = some mid →
          ∃ before more, log = before ++ more ∧ Logged tables mid before := by
  have led := Leads.of_foldlM ran
  clear ran
  induction led with
  | start =>
      refine ⟨[], .of_start defaultCurrency tables, ?_⟩
      intro earlier later mid split reached
      obtain ⟨rfl, rfl⟩ := List.append_eq_nil_iff.mp split.symm
      cases reached
      exact ⟨[], [], rfl, .of_start defaultCurrency tables⟩
  | @snoc events chronicle next event led happened inductionHypothesis =>
      have distinct' := nodup_freshIds_before happened distinct
      obtain ⟨log, logged, goesOn⟩ := inductionHypothesis distinct'
      obtain ⟨more, logged'⟩ := logged.after? distinct' happened
      refine ⟨log ++ more, logged', ?_⟩
      intro earlier later mid split reached
      rcases List.eq_nil_or_concat later with rfl | ⟨later, last, rfl⟩
      · rw [List.append_nil] at split
        subst split
        rw [run?, (led.snoc happened).foldlM_eq] at reached
        cases reached
        exact ⟨log ++ more, [], (List.append_nil _).symm, logged'⟩
      · rw [List.concat_eq_append, ← List.append_assoc] at split
        obtain ⟨rfl, _⟩ := List.append_inj' split rfl
        obtain ⟨before, more', rfl, loggedBefore⟩ := goesOn earlier later mid rfl reached
        exact ⟨before, more' ++ more, List.append_assoc _ _ _, loggedBefore⟩

end Chronicle

end Passbook.Service
