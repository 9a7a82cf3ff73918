import Passbook.Proofs.Session.Claims
import Passbook.Proofs.Session.Recording
import Passbook.Proofs.Session.Staging
/-!
# Openings of accounts

A session notes that it has opened an account right after it has written its row.  Before that it has locked the
row and found nothing there, and until it has committed it keeps the row locked: nobody else can have opened that
account meanwhile.
-/

namespace Passbook.Session

open Store (Tables)

variable {ν α : Type}

/-! ### Openings are noted truly -/

/-- What a task has just found out about the row of an account, or done to it. -/
inductive Finding where
  | nothing
  /-- The row is locked. -/
  | locked (id : AccountId)
  /-- The row is locked, and nothing is there. -/
  | absent (id : AccountId)
  /-- Nothing was there, and the row has been written. -/
  | opened (id : AccountId)
deriving DecidableEq

/-- A task notes that an account was opened right after it has written its row, which it has locked and
found absent just before, and at no other time. -/
def Task.NotesTruly : Task (ν ⊕ Exchange) α → Finding → Prop
  | .done _, _ | .panic _, _ => True
  | .lockRow id next, _ => next.NotesTruly (.locked id)
  | .readAccount id next, finding => ∀ row : Option Account,
      (next row).NotesTruly (if row = none ∧ finding = .locked id then .absent id else .nothing)
  | .readEntry _ next, _ => ∀ row, (next row).NotesTruly .nothing
  | .readHistory _ _ next, _ => ∀ entries, (next entries).NotesTruly .nothing
  | .takeInsertFault next, _ => ∀ armed, (next armed).NotesTruly .nothing
  | .putAccount account next, finding =>
      next.NotesTruly (if finding = .absent account.id then .opened account.id else .nothing)
  | .addEntry _ next, _ => next.NotesTruly .nothing
  | .now next, _ => ∀ time, (next time).NotesTruly .nothing
  | .newId next, _ => ∀ id, (next id).NotesTruly .nothing
  | .convert _ _ next, _ => ∀ answer, (next answer).NotesTruly .nothing
  | .sleep _ next, _ => next.NotesTruly .nothing
  | .note (.inl _) next, _ => next.NotesTruly .nothing
  | .note (.inr exchange) next, finding =>
      (∀ id, exchange.opened? = some id → finding = .opened id) ∧ next.NotesTruly .nothing

namespace Task.NotesTruly

/-- An exchange in which no account was opened may be noted at any time. -/
theorem note {exchange : Exchange} {next : Task (ν ⊕ Exchange) α} (quiet : exchange.opened? = none)
    (truly : next.NotesTruly .nothing) (finding : Finding) :
    (Task.note (.inr exchange) next).NotesTruly finding := by
  refine ⟨fun id opened => ?_, truly⟩
  rw [quiet] at opened
  cases opened

/-- A row that was written in an exchange that does not open an account. -/
private theorem write {row : Except LedgerError Account} {next : Except LedgerError Unit → Task (ν ⊕ Exchange) α}
    (truly : ∀ answer finding, (next answer).NotesTruly finding) (finding : Finding) :
    (perform.write row next).NotesTruly finding := by
  cases row with
  | error e => exact truly _ _
  | ok account => exact truly _ _

/-- A call whose answer is noted. -/
theorem perform (query : Store.Call) {next : Except LedgerError query.Answer → Task (ν ⊕ Exchange) α}
    (truly : ∀ answer, (next answer).NotesTruly .nothing) (finding : Finding) :
    (Session.perform query fun answer => .note (.inr ⟨query, answer⟩) (next answer)).NotesTruly finding := by
  cases query with
  | createAccount account =>
      intro row
      cases row with
      | some found => exact note rfl (truly _) _
      | none =>
          -- The row is locked and absent, so it may be written and the opening noted.
          refine ⟨fun id opened => ?_, truly _⟩
          cases opened
          simp
  | account id | accountIncludingClosed id | accountForUpdate id =>
      intro row
      exact note rfl (truly _) _
  | updateAccount account =>
      intro row
      exact write (fun answer => note rfl (truly answer)) _
  | deleteAccount id =>
      intro row
      dsimp only
      split
      · exact note rfl (truly _) _
      · intro time
        exact write (fun answer => note rfl (truly answer)) _
  | createEntry entry =>
      intro armed
      cases armed with
      | true => exact note rfl (truly _) _
      | false =>
          intro row
          dsimp only
          split
          · exact note rfl (truly _) _
          · intro row
            dsimp only
            split
            · exact note rfl (truly _) _
            · exact note rfl (truly _) _
  | entry id =>
      intro row
      exact note rfl (truly _) _
  | history user account =>
      intro entries
      exact note rfl (truly _) _

end Task.NotesTruly

/-- Work that records its exchanges notes openings truly. -/
theorem Work.recorded_notesTruly (work : Work ν α) :
    ∀ finding, work.recorded.task.NotesTruly finding := by
  induction work with
  | done | panic => intros; trivial
  | call query next inductionHypothesis =>
      intro finding
      exact .perform query (fun answer => inductionHypothesis answer .nothing) finding
  | now next inductionHypothesis =>
      intro finding time
      exact inductionHypothesis time .nothing
  | newId next inductionHypothesis =>
      intro finding id
      exact inductionHypothesis id .nothing
  | convert amount target next inductionHypothesis =>
      intro finding answer
      exact inductionHypothesis answer .nothing
  | sleep millis next inductionHypothesis =>
      intro finding
      exact inductionHypothesis .nothing
  | note entry next inductionHypothesis =>
      intro finding
      exact inductionHypothesis .nothing

/-! ### Accounts that a session has opened -/

/-- What a task has just found out is so. -/
def Session.Finds (committed : Tables) (session : Session (ν ⊕ Exchange) α) : Finding → Prop
  | .nothing => True
  | .locked id => session.Holds id
  | .absent id => session.Holds id ∧ Tables.visibleAccount? committed session.staged id = none
  | .opened id =>
      committed.account? id = none ∧ (∃ account, session.staged.account? id = some account) ∧
        id ∉ session.opened

/-- A session has opened no account twice, and as long as it is at work the accounts it has opened are staged
but not committed. -/
structure Session.Accountable (committed : Tables) (session : Session (ν ⊕ Exchange) α) : Prop where
  distinct : session.opened.Nodup
  pending : ∀ task, session.phase.remaining = some task → ∀ id ∈ session.opened,
    committed.account? id = none ∧ ∃ account, session.staged.account? id = some account
  finding : ∀ task, session.phase.remaining = some task →
    ∃ finding, task.NotesTruly finding ∧ session.Finds committed finding

namespace Session.Accountable

variable {committed after : Tables} {clock : Nat} {session next : Session (ν ⊕ Exchange) α}
  {learned : List Reading}

theorem opening (committed : Tables) (context : RequestContext) (start since : Nat) (work : Work ν α) :
    Session.Accountable committed
      ⟨context, .opening start work.recorded.task, since, [], .empty, []⟩ where
  distinct := List.nodup_nil
  pending := by
    intro task _ id member
    cases member
  finding := by
    rintro _ ⟨rfl⟩
    exact ⟨.nothing, work.recorded_notesTruly _, trivial⟩

theorem of_decided (distinct : session.opened.Nodup) (decided : session.phase.remaining = none) :
    session.Accountable committed where
  distinct := distinct
  pending := by
    intro task remaining
    rw [decided] at remaining
    cases remaining
  finding := by
    intro task remaining
    rw [decided] at remaining
    cases remaining

/-- An access that makes no note leaves a session accountable. -/
private theorem access {task rest : Task (ν ⊕ Exchange) α} {written : Tables} {since : Nat}
    (accountable : session.Accountable committed) (remaining : session.phase.remaining = some task)
    (access : Access committed task session.staged learned rest written)
    (quiet : task.noting session.notes = session.notes) :
    Session.Accountable committed
      { session with
        phase := .running rest
        since := since
        staged := written
        notes := task.noting session.notes } := by
  rw [quiet]
  obtain ⟨finding, truly, finds⟩ := accountable.finding task remaining
  have pending := accountable.pending task remaining
  refine ⟨accountable.distinct, ?_, ?_⟩
  · intro _ _ id member
    obtain ⟨free, account, staged⟩ := pending id member
    refine ⟨free, ?_⟩
    cases access with
    | putAccount other =>
        rw [Tables.account?_putAccount]
        split
        · exact ⟨other, rfl⟩
        · exact ⟨account, staged⟩
    | _ => exact ⟨account, staged⟩
  · rintro _ ⟨rfl⟩
    cases access with
    | readAccount id next =>
        refine ⟨_, truly _, ?_⟩
        split
        · rename_i found
          obtain ⟨absent, rfl⟩ := found
          exact ⟨finds, absent⟩
        · trivial
    | putAccount account next =>
        refine ⟨_, truly, ?_⟩
        split
        · rename_i absent
          subst absent
          obtain ⟨_, absent⟩ := finds
          obtain ⟨unstaged, free⟩ := Option.or_eq_none_iff.mp absent
          refine ⟨free, ⟨account, Tables.account?_putAccount_self _ _⟩, ?_⟩
          intro member
          obtain ⟨_, account', staged⟩ := pending _ member
          rw [unstaged] at staged
          cases staged
        · trivial
    | note entry => simp [Task.noting] at quiet
    | readEntry | readHistory | takeInsertFault | now | newId | convert =>
        exact ⟨.nothing, truly _, trivial⟩
    | addEntry | sleep => exact ⟨.nothing, truly, trivial⟩

/-- A turn leaves a session accountable. -/
theorem turn (accountable : session.Accountable committed)
    (turn : Turn committed clock session learned next after) : next.Accountable after := by
  rcases turn.notes_cases with notes | ⟨entry, rest, running, _, rfl, rfl⟩
  · have opened : next.opened = session.opened := by
      simp only [Session.opened, Session.exchanges, notes]
    cases remaining : session.phase.remaining with
    | none =>
        obtain ⟨outcome, decided⟩ := Phase.remaining_eq_none_iff.mp remaining
        obtain ⟨_, _, decided', _⟩ := turn.of_decided decided
        exact .of_decided (opened ▸ accountable.distinct) (Phase.remaining_of_outcome decided')
    | some task =>
        cases turn.works remaining with
        | stays remaining' held staged =>
            obtain ⟨finding, truly, finds⟩ := accountable.finding task remaining
            refine ⟨opened ▸ accountable.distinct, ?_, ?_⟩
            · intro _ _
              rw [opened, staged]
              exact accountable.pending task remaining
            · intro task' same
              rw [remaining'] at same
              cases same
              refine ⟨finding, truly, ?_⟩
              cases finding with
              | nothing => trivial
              | locked | absent | opened =>
                  simpa [Session.Finds, Session.Holds, held, staged, opened] using finds
        | @locks id rest _ before remaining' holds staged =>
            subst before
            obtain ⟨finding, truly, _⟩ := accountable.finding _ remaining
            refine ⟨opened ▸ accountable.distinct, ?_, ?_⟩
            · intro _ _
              rw [opened, staged]
              exact accountable.pending _ remaining
            · intro task' same
              rw [remaining'] at same
              cases same
              refine ⟨.locked id, truly, ?_⟩
              rw [Session.Finds, holds]
              exact .inl rfl
        | access access => exact accountable.access remaining access notes
        | lapses _ decided | publishes _ decided =>
            exact .of_decided (opened ▸ accountable.distinct) (Phase.remaining_of_outcome decided)
  · have remaining : session.phase.remaining = some (.note entry rest) := by rw [running]; rfl
    obtain ⟨finding, truly, finds⟩ := accountable.finding _ remaining
    have pending := accountable.pending _ remaining
    let noting : Session (ν ⊕ Exchange) α :=
      { session with
        phase := .running rest
        since := clock
        notes := session.notes ++ [entry] }
    have unchanged (same : noting.opened = session.opened) (truly : rest.NotesTruly .nothing) :
        noting.Accountable after := by
      refine ⟨same ▸ accountable.distinct, ?_, ?_⟩
      · intro _ _
        rw [same]
        exact pending
      · rintro _ ⟨rfl⟩
        exact ⟨.nothing, truly, trivial⟩
    cases entry with
    | inl entry => exact unchanged (by simp [noting, Session.opened, Session.exchanges]) truly
    | inr exchange =>
        obtain ⟨truly, truly'⟩ := truly
        cases quiet : exchange.opened? with
        | none => exact unchanged (by simp [noting, Session.opened, Session.exchanges, quiet]) truly'
        | some id =>
            have opened : noting.opened = session.opened ++ [id] := by
              simp [noting, Session.opened, Session.exchanges, quiet]
            have found := truly id quiet
            subst found
            obtain ⟨free, staged, new⟩ := finds
            refine ⟨?_, ?_, ?_⟩
            · rw [opened, List.nodup_append]
              refine ⟨accountable.distinct, by simp, ?_⟩
              rintro old member _ (_ | ⟨_, ⟨⟩⟩) rfl
              exact new member
            · intro _ _ other member
              rw [opened, List.mem_append, List.mem_singleton] at member
              rcases member with old | rfl
              · exact pending other old
              · exact ⟨free, staged⟩
            · rintro _ ⟨rfl⟩
              exact ⟨.nothing, truly', trivial⟩

/-- A session stays accountable when others change rows that it has not locked. -/
theorem others (accountable : session.Accountable committed) (staged : session.Staged committed)
    (own : ∀ id, session.Holds id → after.account? id = committed.account? id) :
    session.Accountable after where
  distinct := accountable.distinct
  pending := by
    intro task remaining id member
    obtain ⟨free, account, found⟩ := accountable.pending task remaining id member
    rw [own id ((staged.atWork task remaining).rows id account found).1]
    exact ⟨free, account, found⟩
  finding := by
    intro task remaining
    obtain ⟨finding, truly, finds⟩ := accountable.finding task remaining
    refine ⟨finding, truly, ?_⟩
    cases finding with
    | nothing | locked => exact finds
    | absent id =>
        refine ⟨finds.1, ?_⟩
        rw [Tables.visibleAccount?_congr (own id finds.1)]
        exact finds.2
    | opened id =>
        obtain ⟨free, ⟨account, found⟩, new⟩ := finds
        refine ⟨?_, ⟨account, found⟩, new⟩
        rw [own id ((staged.atWork task remaining).rows id account found).1]
        exact free

end Session.Accountable

end Passbook.Session
