import Mathlib.Data.List.Nodup
import Passbook.Proofs.Session.EntryIds
import Passbook.Proofs.Session.Openings
/-!
# The life of accounts and entries

Committed tables only ever go on: an account that is committed stays and keeps its identifier, owner, currency
and time of opening, an account that is closed stays as it is, and entries are appended, for accounts that are
there.  No account is opened twice: whoever opens one has locked its row, has found nothing there, and keeps
the row locked until it is committed.
-/

namespace Passbook

/-! ### Tables that go on -/

namespace Store.Tables

/-- Tables go on as others: every account stays where it is, and entries are appended. -/
structure Evolves (before after : Tables) : Prop where
  rows : ∀ id, Continues (before.account? id) (after.account? id)
  entries : before.entries <+: after.entries

/-- Every entry is one of an account that is there. -/
def Referenced (tables : Tables) : Prop :=
  ∀ entry ∈ tables.entries, ∃ account, tables.account? entry.account = some account

variable {first second third : Tables}

theorem Evolves.refl (tables : Tables) : tables.Evolves tables :=
  ⟨fun _ => .refl _, List.prefix_refl _⟩

theorem Evolves.trans (before : first.Evolves second) (after : second.Evolves third) :
    first.Evolves third where
  rows id := (before.rows id).trans (after.rows id)
  entries := before.entries.trans after.entries

end Store.Tables

namespace Session

open Store (Tables Continues)

variable {ν α : Type}

section Turns

variable {committed after : Tables} {clock : Nat} {session next : Session ν α} {learned : List Reading}

/-- A turn lets the committed tables go on. -/
theorem Turn.evolves (turn : Turn committed clock session learned next after)
    (staged : session.Staged committed) : committed.Evolves after where
  rows := turn.continues staged
  entries := by
    rcases turn.tables_cases with same | ⟨_, _, _, published⟩
    · exact same ▸ List.prefix_refl _
    · rw [published, Tables.entries_extend]
      exact List.prefix_append _ _

/-- The entries that are published are for accounts that are there, or that are published with them. -/
theorem Turn.referenced (turn : Turn committed clock session learned next after)
    (staged : session.Staged committed) (referenced : committed.Referenced) : after.Referenced := by
  rcases turn.tables_cases with same | ⟨value, publishing, _, published⟩
  · rw [same]
    exact referenced
  · have atWork := staged.atWork (.done (.ok value)) (by rw [publishing]; rfl)
    intro entry member
    rw [published, Tables.entries_extend, List.mem_append] at member
    rcases member with old | new
    · obtain ⟨account, found⟩ := referenced entry old
      obtain ⟨account', found', _⟩ := (turn.evolves staged).rows _ account found
      exact ⟨account', found'⟩
    · rw [published, Tables.account?_extend staged.distinct]
      exact atWork.entries entry new

end Turns

namespace World

variable {world after : World ν α} {event : Event ν α} {events : List (Event ν α)}

/-- Every event lets the committed tables go on, and leaves no entry without its account. -/
theorem InOrder.evolves (order : world.InOrder) (happened : world.after? event = some after) :
    world.tables.Evolves after.tables ∧ (world.tables.Referenced → after.tables.Referenced) := by
  cases after?_happens happened with
  | called context work _ eq =>
      subst eq
      exact ⟨.refl _, id⟩
  | turned number known sessions turn =>
      exact ⟨turn.evolves (order.staged known), turn.referenced (order.staged known)⟩
  | aside sessions tables =>
      rw [tables]
      exact ⟨.refl _, id⟩

/-- So does every history of events. -/
theorem InOrder.evolves_run? (order : world.InOrder) (ran : world.run? events = some after) :
    world.tables.Evolves after.tables ∧ (world.tables.Referenced → after.tables.Referenced) := by
  induction leads_of_run? ran with
  | start => exact ⟨.refl _, id⟩
  | snoc before happened inductionHypothesis =>
      have ran' := run?_eq before
      obtain ⟨evolves, referenced⟩ := inductionHypothesis ran'
      obtain ⟨evolves', referenced'⟩ := (order.run? ran').evolves happened
      exact ⟨evolves.trans evolves', fun known => referenced' (referenced known)⟩

end World

theorem Phase.isCompleted_iff {phase : Phase ν α} :
    phase.isCompleted = true ↔ ∃ value, phase.outcome = some (.completed value) := by
  cases phase with
  | releasing outcome | finished outcome => cases outcome <;> simp [isCompleted, Phase.outcome]
  | _ => simp [isCompleted, Phase.outcome]

namespace World

/-! ### No account is opened twice -/

/-- All sessions are accountable, and the accounts that completed runs have opened are committed and were
opened by one of them only. -/
structure OpenedOnce (world : World (ν ⊕ Exchange) α) : Prop where
  inOrder : world.InOrder
  accountable : ∀ {number : Nat} {session : Session (ν ⊕ Exchange) α},
    world.sessions[number]? = some session → session.Accountable world.tables
  committed : ∀ {number : Nat} {session : Session (ν ⊕ Exchange) α},
    world.sessions[number]? = some session → session.Completed → ∀ id ∈ session.opened,
      ∃ account, world.tables.account? id = some account
  once : ∀ {one other : Nat} {session session' : Session (ν ⊕ Exchange) α},
    world.sessions[one]? = some session → world.sessions[other]? = some session' →
      session.Completed → session'.Completed → ∀ id ∈ session.opened, id ∈ session'.opened →
        one = other

namespace OpenedOnce

variable {world after : World (ν ⊕ Exchange) α}

theorem empty : (World.empty : World (ν ⊕ Exchange) α).OpenedOnce where
  inOrder := .of_none rfl rfl rfl
  accountable := by
    intro number session known
    cases known
  committed := by
    intro number session known
    cases known
  once := by
    intro one other session session' known
    cases known

/-- The work of a new session opens nothing before it begins. -/
theorem call (opened : world.OpenedOnce) (context : RequestContext) (work : Work ν α) :
    (world.call context world.clock work.recorded).OpenedOnce := by
  have completed : ∀ {number : Nat} {session : Session (ν ⊕ Exchange) α},
      (world.call context world.clock work.recorded).sessions[number]? = some session →
        session.Completed → world.sessions[number]? = some session := by
    rintro number session here ⟨value, decided⟩
    rcases session_added rfl here with there | ⟨_, rfl⟩
    · exact there
    · cases decided
  refine ⟨opened.inOrder.call _ _ _, ?_, ?_, ?_⟩
  · intro number session here
    rcases session_added rfl here with there | ⟨_, rfl⟩
    · exact opened.accountable there
    · exact .opening _ context _ _ work
  · intro number session here done
    exact opened.committed (completed here done) done
  · intro one other session session' here here' done done'
    exact opened.once (completed here done) (completed here' done') done done'

/-- What a session has opened when it completes was not committed before and is committed then. -/
private theorem completes {session next : Session (ν ⊕ Exchange) α} {number clock : Nat}
    {learned : List Reading} {tables : Tables} (opened : world.OpenedOnce)
    (known : world.sessions[number]? = some session)
    (turn : Turn world.tables clock session learned next tables) (completed : next.Completed)
    {id : AccountId} (member : id ∈ next.opened) :
    (session.Completed ∧ id ∈ session.opened) ∨
      world.tables.account? id = none ∧ ∃ account, tables.account? id = some account := by
  rcases turn.notes_cases with notes | ⟨_, _, _, _, _, rfl⟩
  · rw [Session.opened, Session.exchanges, notes] at member
    rcases completed.before turn with already | ⟨value, publishing, published⟩
    · exact .inl ⟨already, member⟩
    · obtain ⟨free, account, staged⟩ :=
        (opened.accountable known).pending (.done (.ok value)) (by rw [publishing]; rfl) id member
      refine .inr ⟨free, account, ?_⟩
      rw [published, Tables.account?_extend (opened.inOrder.staged known).distinct, staged]
      rfl
  · obtain ⟨_, decided⟩ := completed
    cases decided

/-- A turn opens no account a second time. -/
private theorem turned {session next : Session (ν ⊕ Exchange) α} {number clock : Nat}
    {learned : List Reading} (opened : world.OpenedOnce) (inOrder : after.InOrder)
    (known : world.sessions[number]? = some session)
    (sessions : after.sessions = world.sessions.set number next)
    (turn : Turn world.tables clock session learned next after.tables) : after.OpenedOnce := by
  have staged := opened.inOrder.staged known
  have committed : ∀ {other : Nat} {found : Session (ν ⊕ Exchange) α},
      world.sessions[other]? = some found → found.Completed → ∀ id ∈ found.opened,
        ∃ account, after.tables.account? id = some account := by
    intro other found there done id member
    obtain ⟨account, here⟩ := opened.committed there done id member
    obtain ⟨account', here', _⟩ := turn.continues staged id account here
    exact ⟨account', here'⟩
  have apart : ∀ {other : Nat} {found : Session (ν ⊕ Exchange) α}, other ≠ number →
      world.sessions[other]? = some found → found.Completed → next.Completed →
        ∀ id ∈ found.opened, id ∉ next.opened := by
    intro other found different there done done' id member member'
    rcases opened.completes known turn done' member' with ⟨already, old⟩ | ⟨free, _⟩
    · exact different (opened.once there known done already id member old)
    · obtain ⟨account, here⟩ := opened.committed there done id member
      rw [free] at here
      cases here
  refine ⟨inOrder, ?_, ?_, ?_⟩
  · intro other found here
    rcases session_after sessions here with ⟨_, rfl⟩ | ⟨different, there⟩
    · exact (opened.accountable known).turn turn
    · refine (opened.accountable there).others (opened.inOrder.staged there) ?_
      intro id holds
      refine turn.account?_of_not_holds staged fun holds' => different ?_
      exact opened.inOrder.locks.exclusive there known holds holds'
  · intro other found here done id member
    rcases session_after sessions here with ⟨_, rfl⟩ | ⟨_, there⟩
    · rcases opened.completes known turn done member with ⟨already, old⟩ | ⟨_, here'⟩
      · exact committed known already id old
      · exact here'
    · exact committed there done id member
  · intro one other found found' here here' done done' id member member'
    rcases session_after sessions here with ⟨rfl, rfl⟩ | ⟨different, there⟩
    · rcases session_after sessions here' with ⟨rfl, _⟩ | ⟨different', there'⟩
      · rfl
      · exact absurd member (apart different' there' done' done id member')
    · rcases session_after sessions here' with ⟨rfl, rfl⟩ | ⟨_, there'⟩
      · exact absurd member' (apart different there done done' id member)
      · exact opened.once there there' done done' id member member'

/-- No event opens an account a second time. -/
theorem after? (opened : world.OpenedOnce) {event : Event ν α}
    (happened : world.after? event.recorded = some after) : after.OpenedOnce := by
  have inOrder := opened.inOrder.after? happened
  cases after?_happens happened with
  | called context work calls eq =>
      cases event with
      | called context' work' =>
          cases calls
          subst eq
          exact opened.call context work'
      | _ => cases calls
  | turned number known sessions turn => exact opened.turned inOrder known sessions turn
  | aside sessions tables =>
      refine ⟨inOrder, ?_, ?_, ?_⟩
      · rw [sessions, tables]
        exact opened.accountable
      · rw [sessions, tables]
        exact opened.committed
      · rw [sessions]
        exact opened.once

/-- No history of events does. -/
theorem run? (opened : world.OpenedOnce) {events : List (Event ν α)}
    (ran : world.run? (events.map Event.recorded) = some after) : after.OpenedOnce := by
  induction events generalizing world with
  | nil =>
      cases ran
      exact opened
  | cons event rest inductionHypothesis =>
      obtain ⟨next, happened, ran⟩ := Option.bind_eq_some_iff.mp ran
      exact inductionHypothesis (opened.after? happened) ran

/-- The openings of completed runs are of different accounts. -/
theorem nodup_openings (opened : world.OpenedOnce) : world.openings.Nodup := by
  unfold openings
  rw [List.nodup_flatMap]
  constructor
  · intro session member
    obtain ⟨number, known⟩ := List.getElem?_of_mem (List.mem_filter.mp member).1
    exact (opened.accountable known).distinct
  · rw [List.pairwise_filter, List.pairwise_iff_getElem]
    intro one other bound bound' earlier completed completed' id member member'
    have same := opened.once (List.getElem?_eq_getElem bound) (List.getElem?_eq_getElem bound')
      (Phase.isCompleted_iff.mp completed) (Phase.isCompleted_iff.mp completed') id member member'
    omega

end OpenedOnce

/-! ### From one committed state to a later one -/

/-- From any committed state to a later one every account stays, with its identifier, owner, currency and time
of opening, and as it is if it is closed; entries are appended only, each for an account that is there.  The
runs that have completed have opened no account twice; this is said of works that note their exchanges, and
every history of works is what is left of a history of those. -/
theorem rows_stay_and_open_once :
    (∀ (events later : List (Event ν α)) (before after : World ν α),
      (World.empty : World ν α).run? events = some before → before.run? later = some after →
        (∀ id account, before.tables.account? id = some account →
          ∃ account', after.tables.account? id = some account' ∧ account'.id = account.id ∧
            account'.owner = account.owner ∧ account'.currency = account.currency ∧
              account'.createdAt = account.createdAt ∧
                (account.isDeleted = true → account' = account)) ∧
        before.tables.entries <+: after.tables.entries ∧
        ∀ entry ∈ after.tables.entries,
          ∃ account, after.tables.account? entry.account = some account) ∧
    (∀ (events : List (Event ν α)) (recorded : World (ν ⊕ Exchange) α),
      (World.empty : World (ν ⊕ Exchange) α).run? (events.map Event.recorded) = some recorded →
        recorded.openings.Nodup) ∧
    (∀ (events : List (Event ν α)) (finish : World ν α),
      (World.empty : World ν α).run? events = some finish →
        ∃ (events' : List (Event ν α)) (recorded : World (ν ⊕ Exchange) α),
          (World.empty : World (ν ⊕ Exchange) α).run? (events'.map Event.recorded) = some recorded ∧
            recorded.unrecorded = finish) := by
  refine ⟨?_, fun events recorded ran => (OpenedOnce.empty.run? ran).nodup_openings,
    fun events finish ran => exists_recorded ran⟩
  intro events later before after ran ran'
  have start : (World.empty : World ν α).InOrder := .of_none rfl rfl rfl
  obtain ⟨evolves, referenced⟩ := (start.run? ran).evolves_run? ran'
  have none : (World.empty : World ν α).tables.Referenced := by
    intro entry member
    cases member
  have referenced' := (start.evolves_run? ran).2 none
  refine ⟨?_, evolves.entries, referenced referenced'⟩
  intro id account found
  obtain ⟨account', found', goesOn⟩ := evolves.rows id account found
  exact ⟨account', found', goesOn.id, goesOn.owner, goesOn.currency, goesOn.createdAt, goesOn.closed⟩

/-- An account is opened, is not opened again, and is closed. -/
theorem rows_stay_and_open_once_closing :
    let account := Account.opened ⟨Uuid.ofNat 1⟩ ⟨Uuid.ofNat 2⟩ .eur ⟨0, 0⟩
    let context := RequestContext.ofUser account.owner
    let step (number : Nat) : Event Empty Unit :=
      .advanced number ⟨⟨5, 0⟩, Uuid.ofNat 3, fun _ _ => .error .outOfRange⟩
    let opening : Event Empty Unit := .called context (Work.ask (.createAccount account))
    let closing : Event Empty Unit := .called context (Work.ask (.deleteAccount account.id))
    (∃ before after account',
      (World.empty : World Empty Unit).run? (opening :: List.replicate 11 (step 0)) = some before ∧
      before.run? (closing :: List.replicate 12 (step 1)) = some after ∧
      before.tables.account? account.id = some account ∧
      after.tables.account? account.id = some account' ∧ account'.isDeleted = true ∧
      account'.owner = account.owner ∧ account'.createdAt = account.createdAt) ∧
    ∃ recorded,
      (World.empty : World (Empty ⊕ Exchange) Unit).run?
        ((opening :: List.replicate 12 (step 0) ++ opening :: List.replicate 9 (step 1)).map
          Event.recorded) = some recorded ∧
      recorded.sessions.length = 2 ∧ recorded.openings = [account.id] ∧ recorded.openings.Nodup := by
  intro account context step opening closing
  have ends : ((World.empty : World Empty Unit).run? (opening :: List.replicate 11 (step 0))).map
      (fun before => (before.tables.account? account.id,
        (before.run? (closing :: List.replicate 12 (step 1))).map
          (·.tables.account? account.id |>.map Account.isDeleted))) =
        some (some account, some (some true)) := by
    decide +kernel
  have ends' : ((World.empty : World (Empty ⊕ Exchange) Unit).run?
      ((opening :: List.replicate 12 (step 0) ++ opening :: List.replicate 9 (step 1)).map
        Event.recorded)).map (fun recorded => (recorded.sessions.length, recorded.openings)) =
          some (2, [account.id]) := by
    decide +kernel
  obtain ⟨stay, once, _⟩ := rows_stay_and_open_once (ν := Empty) (α := Unit)
  constructor
  · obtain ⟨before, ran, row⟩ := Option.map_eq_some_iff.mp ends
    obtain ⟨row, closed⟩ := Prod.mk.inj row
    obtain ⟨after, ran', closed⟩ := Option.map_eq_some_iff.mp closed
    obtain ⟨account', row', closed⟩ := Option.map_eq_some_iff.mp closed
    obtain ⟨found, here, _, owner, _, createdAt, _⟩ :=
      (stay _ _ before after ran ran').1 account.id account row
    rw [row'] at here
    cases here
    exact ⟨before, after, account', ran, ran', row, row', closed, owner, createdAt⟩
  · obtain ⟨recorded, ran, same⟩ := Option.map_eq_some_iff.mp ends'
    obtain ⟨count, openings⟩ := Prod.mk.inj same
    exact ⟨recorded, ran, count, openings, once _ recorded ran⟩

end World

end Session

end Passbook
