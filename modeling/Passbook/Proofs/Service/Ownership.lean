import Passbook.Proofs.Service.Confidence
import Passbook.Proofs.Service.Publication
/-!
# Ownership

Only its owner changes an account.  Whatever others do, side by side and in any order, an account and its
entries stay as they are as long as its owner does nothing; whoever wants to change another's account is
refused as soon as the account has been looked at.  An operation that names an account changes no other.
-/

namespace Passbook.Service

open Session (Outcome)
open Store (Tables requireLive requireAccount)

/-! ### Refusals -/

def Operation.changes? : Operation → Option AccountId
  | move _ request => some request.account
  | closeAccount id => some id
  | _ => none

/-- What whoever wants to change another's account is told. -/
def refusal (account : Account) : LedgerError :=
  if account.isDeleted then .notFound s!"account {account.id}" else .unauthorized

/-- Nobody is admitted to another's account. -/
theorem admission_of_other {user : UserId} {account : Account} (other : account.owner ≠ user) :
    admission user account.id (some account) = .error (refusal account) := by
  unfold admission refusal
  cases closed : account.isDeleted with
  | true => simp [requireLive, requireAccount, Option.filter_some, closed, missingAccount_eq, bind, Except.bind]
  | false =>
      simp [requireLive, requireAccount, Option.filter_some, closed, Account.ensureOwnedBy,
        Account.isOwnedBy, other, bind, Except.bind]

/-- All that comes of an operation that is to change another's account is the refusal. -/
theorem Operation.Yields.eq_refusal {base : Tables → Prop} {fresh : Uuid → Prop}
    {defaultCurrency : Currency} {user : UserId} {committed staged : Tables} {operation : Operation}
    {result : Except LedgerError Answer}
    (yields : operation.Yields base fresh defaultCurrency user committed result staged)
    {id : AccountId} (changes : operation.changes? = some id) {account : Account}
    (found : committed.account? id = some account) (other : account.owner ≠ user) :
    result = .error (refusal account) := by
  have refused : admission user id (committed.account? id) = .error (refusal account) := by
    rw [found, ← Tables.id_of_account? found]
    exact admission_of_other other
  cases yields with
  | opens | notOpened | account | balance | history | transaction => cases changes
  | moves found' movement =>
      cases changes
      rw [found] at found'
      cases found'
      exact absurd movement.owned other
  | closes found' _ owned =>
      cases changes
      rw [found] at found'
      cases found'
      exact absurd owned other
  | notMoved because | notClosed because =>
      cases changes
      rw [because _ refused]

/-! ### What is a user's -/

/-- Nothing of what is a user's has changed. -/
structure Untouched (owner : UserId) (before after : Tables) : Prop where
  rows : ∀ id account, before.account? id = some account → account.owner = owner →
    after.account? id = some account
  entries : ∀ id account, before.account? id = some account → account.owner = owner →
    entriesOf after id = entriesOf before id
  recorded : after.entries.filter (·.user == owner) = before.entries.filter (·.user == owner)

namespace Untouched

variable {owner : UserId} {first second third : Tables}

theorem refl (owner : UserId) (tables : Tables) : Untouched owner tables tables where
  rows _ _ found _ := found
  entries _ _ _ _ := rfl
  recorded := rfl

theorem trans (before : Untouched owner first second) (after : Untouched owner second third) :
    Untouched owner first third where
  rows id account found owned := after.rows id account (before.rows id account found owned) owned
  entries id account found owned :=
    (after.entries id account (before.rows id account found owned) owned).trans
      (before.entries id account found owned)
  recorded := after.recorded.trans before.recorded

end Untouched

/-- What others publish leaves alone what is a user's. -/
theorem Operation.Yields.untouched {base : Tables → Prop} {fresh : Uuid → Prop}
    {defaultCurrency : Currency} {user owner : UserId} {committed staged : Tables} {operation : Operation}
    {answer : Answer}
    (yields : operation.Yields base fresh defaultCurrency user committed (.ok answer) staged)
    (other : user ≠ owner) : Untouched owner committed (committed.extend staged) := by
  have same : ∀ id account, committed.account? id = some account → account.owner = owner →
      (committed.extend staged).account? id = committed.account? id ∧
        entriesOf (committed.extend staged) id = entriesOf committed id := by
    intro id account found owned
    apply yields.spares
    · intro absent
      rw [found] at absent
      cases absent
    · intro account' found' _ owned'
      rw [found] at found'
      cases found'
      exact absurd (owned'.symm.trans owned) other
  refine ⟨?_, ?_, ?_⟩
  · intro id account found owned
    rw [(same id account found owned).1, found]
  · intro id account found owned
    exact (same id account found owned).2
  · have nothing : staged.entries.filter (·.user == owner) = [] := by
      rw [List.filter_eq_nil_iff]
      intro entry recorded mine
      rw [beq_iff_eq, (yields.of_entry recorded).1] at mine
      exact other mine
    rw [Tables.entries_extend, List.filter_append, nothing, List.append_nil]

namespace Chronicle

variable {chronicle after mid : Chronicle} {event : Event}

/-- An event leaves alone what is a user's if all operations of the user have returned. -/
theorem Regular.untouched (regular : chronicle.Regular) (happened : chronicle.after? event = some after)
    {owner : UserId} (returned : ∀ number operation,
      chronicle.calls[number]? = some (owner, operation) → chronicle.Returned number) :
    Untouched owner chronicle.world.tables after.world.tables := by
  cases regular.publishes happened with
  | nothing tables =>
      rw [tables]
      exact .refl owner _
  | operation _ called _ undecided yields tables =>
      rw [tables]
      refine yields.untouched ?_
      rintro rfl
      obtain ⟨session, known, outcome, ended⟩ := returned _ _ called
      have open' := undecided session known
      rw [ended] at open'
      cases open'

/-- As long as others call operations, all of a user's have returned. -/
theorem returned_after? (happened : chronicle.after? event = some after) {owner : UserId}
    (others : ∀ context operation, event = .called context operation → context.user ≠ owner)
    (returned : ∀ number operation,
      chronicle.calls[number]? = some (owner, operation) → chronicle.Returned number) :
    ∀ number operation, after.calls[number]? = some (owner, operation) → after.Returned number := by
  intro number operation called
  have before : chronicle.calls[number]? = some (owner, operation) := by
    cases after?_proceeds happened with
    | called context operation' eq after_eq =>
        subst after_eq
        rw [call, List.getElem?_append] at called
        split at called
        · exact called
        · rw [List.getElem?_singleton] at called
          split at called
          · cases called
            exact absurd rfl (others context operation eq)
          · cases called
    | turned _ _ _ _ _ calls | aside _ _ _ calls => rwa [calls] at called
  obtain ⟨session, known, ended⟩ := returned number operation before
  exact ⟨session, after?_of_isOver known ended happened, ended⟩

/-- Whatever others do leaves alone what is a user's. -/
theorem Regular.untouched_run? (regular : mid.Regular) {later : List Event} {finish : Chronicle}
    (ran : mid.run? later = some finish) {owner : UserId}
    (returned : ∀ number operation, mid.calls[number]? = some (owner, operation) → mid.Returned number)
    (others : ∀ context operation, .called context operation ∈ later → context.user ≠ owner) :
    Untouched owner mid.world.tables finish.world.tables := by
  suffices both : Untouched owner mid.world.tables finish.world.tables ∧
      ∀ number operation, finish.calls[number]? = some (owner, operation) → finish.Returned number from
    both.1
  induction Leads.of_foldlM ran with
  | start => exact ⟨.refl owner _, returned⟩
  | @snoc events chronicle next event led happened inductionHypothesis =>
      have ran' := led.foldlM_eq
      obtain ⟨untouched, returned'⟩ := inductionHypothesis ran' fun context operation member =>
        others context operation (List.mem_append_left _ member)
      refine ⟨untouched.trans ((regular.run? ran').untouched happened returned'), ?_⟩
      refine returned_after? happened ?_ returned'
      rintro context operation rfl
      exact others context operation (List.mem_append_right _ List.mem_cons_self)

/-- A session whose work has ended with an error fails with it. -/
theorem fails_run? {number : Nat} {e : LedgerError} {later : List Event} {finish : Chronicle}
    (fails : ∃ session, mid.world.sessions[number]? = some session ∧ session.Fails e)
    (ran : mid.run? later = some finish) :
    ∃ session, finish.world.sessions[number]? = some session ∧ session.Fails e := by
  refine (Leads.of_foldlM ran).invariant
    (motive := fun chronicle => ∃ session, chronicle.world.sessions[number]? = some session ∧
      session.Fails e) fails ?_
  intro before next event fails happened
  rcases after?_cases happened with ⟨context, operation, _, rfl⟩ | ⟨event', follows⟩
  · obtain ⟨session, known, fails⟩ := fails
    obtain ⟨_, sessions, _⟩ := before.call_adds context operation
    exact ⟨session, Session.World.session_kept sessions known, fails⟩
  · exact Session.World.after?_fails fails follows.world

/-! ### Only owners change accounts -/

/-- All that can become of a session is that it fails with an error, or that it is broken off before it has come
to that error. -/
structure Refuses (chronicle : Chronicle) (number : Nat) (session : Session.Session Empty Answer)
    (e : LedgerError) : Prop where
  /-- If its work has come to a result, it is the error, and the session fails with it whatever happens. -/
  atLast : ∀ result, session.phase.isOpening = false → session.phase.remaining = some (.done result) →
    result = .error e ∧ ∀ (later : List Event) (finish : Chronicle) (next : Session.Session Empty Answer)
      (outcome : Outcome Answer), chronicle.run? later = some finish →
        finish.world.sessions[number]? = some next → next.phase.outcome = some outcome →
          outcome = .failed e
  /-- If its outcome is decided next, it is the error or the session is broken off. -/
  next : ∀ (event : Event) (after : Chronicle) (next : Session.Session Empty Answer)
    (outcome : Outcome Answer), session.phase.outcome = none → chronicle.after? event = some after →
      after.world.sessions[number]? = some next → next.phase.outcome = some outcome →
        outcome = .failed e ∨ outcome.BrokenOff

/-- A session that is to change another's account is refused. -/
theorem Regular.refuses (regular : mid.Regular) {number : Nat} {user : UserId} {operation : Operation}
    (called : mid.calls[number]? = some (user, operation)) {id : AccountId}
    (changes : operation.changes? = some id) {session : Session.Session Empty Answer}
    (known : mid.world.sessions[number]? = some session) {account : Account}
    (found : mid.world.tables.account? id = some account) (other : account.owner ≠ user) :
    mid.Refuses number session (refusal account) where
  atLast := by
    intro result begun remaining
    have checked := regular.check_eq_ok called known fun e ended => by
      rw [ended] at remaining
      cases remaining
    obtain ⟨session', known', assured⟩ := regular.assures number user operation called checked
    rw [known] at known'
    cases known'
    have refused := (assured.result remaining).eq_refusal changes found other
    subst refused
    refine ⟨rfl, ?_⟩
    intro later finish next outcome ran here decided
    obtain ⟨next', here', fails⟩ :=
      fails_run? ⟨session, known, Session.Session.fails_of_remaining begun remaining⟩ ran
    rw [here] at here'
    cases here'
    rcases fails with running | closing | failed
    · rw [running] at decided
      cases decided
    · rw [closing] at decided
      cases decided
    · rw [decided] at failed
      exact Option.some.inj failed
  next := by
    intro event after next outcome undecided happened here decided
    have checked := regular.check_eq_ok called known fun e ended => by
      rw [ended] at undecided
      cases undecided
    rcases regular.decides happened called checked known undecided here decided with
      off | ⟨result, staged, rfl, yields⟩
    · exact .inr off
    · rw [yields.eq_refusal changes found other]
      exact .inl rfl

/-- Whatever has happened to the service on a store with any tables, and whatever is still under way:

1. If all operations of a user have returned and only others call operations from then on, the user's accounts
   stay as they are, and so do the entries of each of them and all entries that were recorded for the user.
2. An operation that is to change another's account comes to no result but one once it has looked at the
   account, and it fails with it: it is not authorized if the account is open, and does not find it if it is
   closed.  Before that it can only be broken off.
3. An operation that names an account changes no other account and no entries of another account, and nothing
   changes but by operations that are under way. -/
theorem moved_by_owner_only {defaultCurrency : Currency} {tables : Tables} {earlier : List Event}
    (reached : (Chronicle.start defaultCurrency tables).run? earlier = some mid) :
    (∀ (owner : UserId) (later : List Event) (finish : Chronicle),
      (∀ number operation, mid.calls[number]? = some (owner, operation) → mid.Returned number) →
      (∀ context operation, .called context operation ∈ later → context.user ≠ owner) →
        mid.run? later = some finish → Untouched owner mid.world.tables finish.world.tables) ∧
    (∀ (number : Nat) (user : UserId) (operation : Operation) (id : AccountId)
      (session : Session.Session Empty Answer) (account : Account),
      mid.calls[number]? = some (user, operation) → operation.changes? = some id →
      mid.world.sessions[number]? = some session → mid.world.tables.account? id = some account →
      account.owner ≠ user → mid.Refuses number session (refusal account)) ∧
    ∀ (event : Event) (after : Chronicle), mid.after? event = some after →
      (event.session? = none → after.world.tables = mid.world.tables) ∧
      ∀ (number : Nat) (user : UserId) (operation : Operation) (named : AccountId),
        event.session? = some number → mid.calls[number]? = some (user, operation) →
          operation.account? = some named → ∀ id, id ≠ named →
            after.world.tables.account? id = mid.world.tables.account? id ∧
              entriesOf after.world.tables id = entriesOf mid.world.tables id := by
  have regular : mid.Regular := (Regular.start defaultCurrency tables).run? reached
  refine ⟨?_, ?_, ?_⟩
  · intro owner later finish returned others ran
    exact regular.untouched_run? ran returned others
  · intro number user operation id session account called changes known found other
    exact regular.refuses called changes known found other
  · intro event after happened
    cases regular.publishes happened with
    | nothing same =>
        rw [same]
        exact ⟨fun _ => rfl, fun _ _ _ _ _ _ _ _ _ => ⟨rfl, rfl⟩⟩
    | operation concerns called' _ _ yields published =>
        rw [published]
        refine ⟨?_, ?_⟩
        · intro quiet
          rw [concerns] at quiet
          cases quiet
        · intro number user operation named concerns' called names id different
          rw [concerns] at concerns'
          cases concerns'
          rw [called] at called'
          cases called'
          apply yields.spares
          · rintro _ currency rfl
            cases names
          · intro _ _ _ _ names'
            rw [names] at names'
            exact different (Option.some.inj names').symm

/-- An account is opened, and another user's deposit to it has just looked at it. -/
def intrusion : List Event :=
  let step (number : Nat) : Event :=
    .advanced number ⟨⟨0, 0⟩, Uuid.ofNat (number + 2), fun _ _ => .error .outOfRange⟩
  [.called (.ofUser ⟨Uuid.ofNat 1⟩) (.openAccount none)] ++ List.replicate 13 (step 0) ++
    [.called (.ofUser ⟨Uuid.ofNat 7⟩)
      (.move .credit (.internal ⟨Uuid.ofNat 2⟩ (.exact ⟨4, .eur, by decide, by decide⟩)))] ++
      List.replicate 4 (step 1)

/-- The deposit goes on to its end, while the other user tries to close the account. -/
def persistence : List Event :=
  let step (number : Nat) : Event :=
    .advanced number ⟨⟨0, 0⟩, Uuid.ofNat (number + 2), fun _ _ => .error .outOfRange⟩
  [.called (.ofUser ⟨Uuid.ofNat 7⟩) (.closeAccount ⟨Uuid.ofNat 2⟩)] ++ List.replicate 3 (step 2) ++
    List.replicate 4 (step 1) ++ List.replicate 6 (step 2)

/-- The deposit is refused, and the account stays what it is. -/
theorem moved_by_owner_only_intrusion :
    ∃ mid finish account, (Chronicle.start .eur .empty).run? intrusion = some mid ∧
      mid.run? persistence = some finish ∧
        mid.world.tables.account? ⟨Uuid.ofNat 2⟩ = some account ∧
          finish.world.tables.account? ⟨Uuid.ofNat 2⟩ = some account ∧
            ∃ session, finish.world.sessions[1]? = some session ∧
              session.phase.outcome = some (.failed .unauthorized) := by
  have account : ((Chronicle.start .eur .empty).run? intrusion).map (fun mid =>
      (mid.world.tables.account? ⟨Uuid.ofNat 2⟩).map fun account => (account.owner, account.isDeleted)) =
        some (some (⟨Uuid.ofNat 1⟩, false)) := by
    decide +kernel
  have calls : ((Chronicle.start .eur .empty).run? intrusion).map (fun mid =>
      (mid.calls.map (·.1), mid.calls[1]?.bind (·.2.changes?))) =
        some ([⟨Uuid.ofNat 1⟩, ⟨Uuid.ofNat 7⟩], some ⟨Uuid.ofNat 2⟩) := by
    decide +kernel
  have ended : ((Chronicle.start .eur .empty).run? intrusion).map (fun mid =>
      (mid.world.sessions[0]?.bind (·.phase.ending)).isSome) = some true := by
    decide +kernel
  have looked : (((Chronicle.start .eur .empty).run? intrusion).bind (·.world.sessions[1]?)).map
      (fun session => (session.phase.isOpening, (session.phase.remaining.bind (·.result?)).isSome)) =
        some (false, true) := by
    decide +kernel
  have decided : ((Chronicle.start .eur .empty).run? (intrusion ++ persistence)).map (fun finish =>
      (finish.world.sessions[1]?.bind (·.phase.outcome)).isSome) = some true := by
    decide +kernel
  obtain ⟨mid, reached, found⟩ := Option.map_eq_some_iff.mp account
  obtain ⟨account, found, row⟩ := Option.map_eq_some_iff.mp found
  obtain ⟨owned, live⟩ := Prod.mk.inj row
  rw [reached, Option.map_some, Option.some.injEq, Prod.mk.injEq] at calls
  rw [reached, Option.map_some, Option.some.injEq] at ended
  rw [reached, Option.bind_some] at looked
  rw [run?_append, reached, Option.bind_some] at decided
  obtain ⟨finish, ran, decided⟩ := Option.map_eq_some_iff.mp decided
  obtain ⟨outcome, decided⟩ := Option.isSome_iff_exists.mp decided
  obtain ⟨last, here, decided⟩ := Option.bind_eq_some_iff.mp decided
  obtain ⟨session, known, stands⟩ := Option.map_eq_some_iff.mp looked
  obtain ⟨⟨user, operation⟩, called, changes⟩ := Option.bind_eq_some_iff.mp calls.2
  obtain ⟨untouched, refuses, _⟩ := moved_by_owner_only reached
  have caller : ∀ {number : Nat} {user : UserId} {operation : Operation},
      mid.calls[number]? = some (user, operation) →
        [(⟨Uuid.ofNat 1⟩ : UserId), ⟨Uuid.ofNat 7⟩][number]? = some user := by
    intro number user operation called
    rw [← calls.1, List.getElem?_map, called]
    rfl
  have returned : ∀ number operation, mid.calls[number]? = some (⟨Uuid.ofNat 1⟩, operation) →
      mid.Returned number := by
    intro number operation called
    cases number with
    | zero =>
        obtain ⟨outcome, ending⟩ := Option.isSome_iff_exists.mp ended
        obtain ⟨session, known, ending⟩ := Option.bind_eq_some_iff.mp ending
        exact ⟨session, known, outcome, Session.Phase.ending_eq_some_iff.mp ending⟩
    | succ later =>
        have same := caller called
        cases later with
        | zero => exact absurd same (by decide)
        | succ => cases same
  have others : ∀ context operation, .called context operation ∈ persistence →
      context.user ≠ ⟨Uuid.ofNat 1⟩ := by
    intro context operation member
    simp only [persistence, List.mem_append, List.mem_singleton, List.mem_replicate, Event.called.injEq,
      reduceCtorEq, and_false, or_false] at member
    rw [member.1]
    decide
  have same := (untouched ⟨Uuid.ofNat 1⟩ persistence finish returned others ran).rows _ account found owned
  refine ⟨mid, finish, account, reached, ran, found, same, last, here, ?_⟩
  have foreign : account.owner ≠ user := by
    have second : user = ⟨Uuid.ofNat 7⟩ := (Option.some.inj (caller called)).symm
    rw [owned, second]
    decide
  have refused := refuses 1 user operation ⟨Uuid.ofNat 2⟩ session account called changes known found foreign
  obtain ⟨begun, come⟩ := Prod.mk.inj stands
  obtain ⟨result, come⟩ := Option.isSome_iff_exists.mp come
  obtain ⟨task, remaining, come⟩ := Option.bind_eq_some_iff.mp come
  rw [Session.Task.result?_eq_some_iff.mp come] at remaining
  rw [decided, (refused.atLast _ begun remaining).2 persistence finish last outcome ran here decided,
    refusal, live]
  rfl

end Chronicle

end Passbook.Service
