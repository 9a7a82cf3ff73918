import Passbook.Proofs.Session.Claims
import Passbook.Proofs.Session.Events
/-!
# Identifiers of entries

Whether the identifier of an entry is taken is seen when the entry is staged, among the committed entries and
those of the session itself, and it is not seen again when the session commits.  Two sessions can therefore
commit entries of one identifier, and they do so exactly when both have found it free while neither of them
had committed.
-/

namespace Passbook.Session

open Store (Tables)

variable {ν α : Type}

namespace World

/-! ### Collisions -/

/-- A session of the world has found an identifier free and uses it. -/
def Claims (world : World ν α) (number : Nat) (id : TransactionId) : Prop :=
  ∃ session, world.sessions[number]? = some session ∧ session.Claims id

def Completed (world : World ν α) (number : Nat) : Prop :=
  ∃ session, world.sessions[number]? = some session ∧ session.Completed

/-- In the course of a history two sessions claim one identifier at the same time. -/
def Collide (start : World ν α) (events : List (Event ν α)) (one other : Nat) (id : TransactionId) :
    Prop :=
  ∃ earlier later world, events = earlier ++ later ∧ start.run? earlier = some world ∧
    world.Claims one id ∧ world.Claims other id

variable {start world after finish : World ν α} {events : List (Event ν α)} {event : Event ν α}

theorem Collide.snoc {one other : Nat} {id : TransactionId}
    (collide : start.Collide events one other id) (event : Event ν α) :
    start.Collide (events ++ [event]) one other id := by
  obtain ⟨earlier, later, world, rfl, rest⟩ := collide
  exact ⟨earlier, later ++ [event], world, by simp, rest⟩

/-- A run that has completed stays so. -/
theorem Completed.after? {number : Nat} (completed : world.Completed number)
    (happened : world.after? event = some after) : after.Completed number := by
  exact after?_keeps (fun completed turn => completed.turn turn) completed happened

/-- What is known of the identifiers after a history: an identifier that is claimed or used twice although it
is committed was claimed at the same time by a session that has committed it. -/
structure IdsTraced (start : World ν α) (events : List (Event ν α)) (world : World ν α) : Prop where
  careful : ∀ {number : Nat} {session : Session ν α}, world.sessions[number]? = some session →
    session.Careful
  claimed : ∀ {number : Nat} {id : TransactionId}, world.Claims number id →
    id ∈ world.tables.entryIds →
      ∃ other, other ≠ number ∧ world.Completed other ∧ start.Collide events other number id
  distinct : world.tables.entryIds.Nodup ∨
    ∃ one other id, one ≠ other ∧ world.Completed one ∧ world.Completed other ∧
      start.Collide events one other id

/-- A session that has not begun claims nothing. -/
private theorem not_claims_opening (context : RequestContext) (start since : Nat) (work : Work ν α)
    (id : TransactionId) :
    ¬Session.Claims ⟨context, .opening start work.task, since, [], .empty, []⟩ id := by
  rintro ⟨_, ⟨rfl⟩, staged | adds⟩
  · cases staged
  · cases work.task_checksFirst.of_adds adds

namespace IdsTraced

/-- Claims to committed identifiers that were traced before an event are traced after it. -/
private theorem claimed_after (traced : start.IdsTraced events world)
    (happened : world.after? event = some after) {number : Nat} {id : TransactionId}
    (claims : world.Claims number id) (member : id ∈ world.tables.entryIds) :
    ∃ other, other ≠ number ∧ after.Completed other ∧
      start.Collide (events ++ [event]) other number id := by
  obtain ⟨other, different, completed, collide⟩ := traced.claimed claims member
  exact ⟨other, different, completed.after? happened, collide.snoc event⟩

/-- So are identifiers that were committed twice. -/
private theorem distinct_after (traced : start.IdsTraced events world)
    (happened : world.after? event = some after) :
    world.tables.entryIds.Nodup ∨ ∃ one other id, one ≠ other ∧
      after.Completed one ∧ after.Completed other ∧
        start.Collide (events ++ [event]) one other id := by
  rcases traced.distinct with nodup | ⟨one, other, id, different, completed, completed', collide⟩
  · exact .inl nodup
  · exact .inr ⟨one, other, id, different, completed.after? happened, completed'.after? happened,
      collide.snoc event⟩

/-- A turn leaves the identifiers traced. -/
private theorem turned {number : Nat} {session next : Session ν α} {learned : List Reading}
    (traced : start.IdsTraced events world) (ran : start.run? events = some world)
    (happened : world.after? event = some after) (known : world.sessions[number]? = some session)
    (sessions : after.sessions = world.sessions.set number next)
    (turn : Turn world.tables world.clock session learned next after.tables) :
    start.IdsTraced (events ++ [event]) after := by
  have claimed : ∀ {another : Nat} {id : TransactionId}, world.Claims another id →
      id ∈ world.tables.entryIds → ∃ other, other ≠ another ∧ after.Completed other ∧
        start.Collide (events ++ [event]) other another id := traced.claimed_after happened
  have distinct := traced.distinct_after happened
  have careful := traced.careful known
  obtain ⟨bound, _⟩ := List.getElem?_eq_some_iff.mp known
  have here : after.sessions[number]? = some next := by
    rw [sessions, List.getElem?_set_self bound]
  have careful' : ∀ {other : Nat} {found : Session ν α}, after.sessions[other]? = some found →
      found.Careful := by
    intro other found there
    rcases session_after sessions there with ⟨_, rfl⟩ | ⟨_, there⟩
    · exact careful.turn turn
    · exact traced.careful there
  rcases turn.tables_cases with same | ⟨value, publishing, releasing, published⟩
  · refine ⟨careful', ?_, same ▸ distinct⟩
    rw [same]
    rintro other id ⟨found, there, claims⟩ member
    rcases session_after sessions there with ⟨rfl, rfl⟩ | ⟨_, there⟩
    · rcases claims.before careful turn with claims | free
      · exact claimed ⟨session, known, claims⟩ member
      · exact absurd member free
    · exact claimed ⟨found, there, claims⟩ member
  · -- The session publishes what it has staged; all of it it claims at this moment.
    have remaining : session.phase.remaining = some (.done (.ok value)) := by rw [publishing]; rfl
    have claims' : ∀ id ∈ session.staged.entryIds, world.Claims number id := fun id member =>
      ⟨session, known, _, remaining, .inl member⟩
    have completed : after.Completed number := ⟨next, here, value, by rw [releasing]; rfl⟩
    refine ⟨careful', ?_, ?_⟩
    · rw [published, Tables.entryIds_extend]
      rintro other id ⟨found, there, claims⟩ member
      rcases session_after sessions there with ⟨_, rfl⟩ | ⟨different, there⟩
      · obtain ⟨task, remaining, _⟩ := claims
        rw [releasing] at remaining
        cases remaining
      · rcases List.mem_append.mp member with old | staged
        · exact claimed ⟨found, there, claims⟩ old
        · exact ⟨number, Ne.symm different, completed, events, [event], world, rfl, ran,
            claims' id staged, found, there, claims⟩
    · rw [published, Tables.entryIds_extend]
      rcases distinct with nodup | twice
      · by_cases overlap : ∃ id ∈ world.tables.entryIds, id ∈ session.staged.entryIds
        · obtain ⟨id, old, staged⟩ := overlap
          obtain ⟨other, different, completed', collide⟩ := claimed (claims' id staged) old
          exact .inr ⟨other, number, id, different, completed', completed, collide⟩
        · refine .inl (List.nodup_append.mpr ⟨nodup, careful.distinct, ?_⟩)
          rintro id old _ staged rfl
          exact overlap ⟨id, old, staged⟩
      · exact .inr twice

/-- Every event leaves the identifiers traced. -/
theorem after? (traced : start.IdsTraced events world) (ran : start.run? events = some world)
    (happened : world.after? event = some after) : start.IdsTraced (events ++ [event]) after := by
  cases after?_happens happened with
  | called context work _ eq =>
      have sessions : after.sessions = world.sessions ++
          [⟨context, .opening world.clock work.task, world.clock, [], .empty, []⟩] := by rw [eq]; rfl
      have tables : after.tables = world.tables := by rw [eq]; rfl
      refine ⟨?_, ?_, tables ▸ traced.distinct_after happened⟩
      · intro number session here
        rcases session_added sessions here with there | ⟨_, rfl⟩
        · exact traced.careful there
        · exact .opening context _ _ work
      · rw [tables]
        rintro number id ⟨session, here, claims⟩ member
        rcases session_added sessions here with there | ⟨_, rfl⟩
        · exact traced.claimed_after happened ⟨session, there, claims⟩ member
        · exact absurd claims (not_claims_opening context _ _ work id)
  | aside sessions tables =>
      refine ⟨?_, ?_, tables ▸ traced.distinct_after happened⟩
      · rw [sessions]
        exact traced.careful
      · rw [tables]
        rintro number id ⟨session, here, claims⟩ member
        rw [sessions] at here
        exact traced.claimed_after happened ⟨session, here, claims⟩ member
  | turned number known sessions turn => exact traced.turned ran happened known sessions turn

end IdsTraced

/-- The identifiers are traced after every history of a new store. -/
theorem idsTraced (ran : (empty : World ν α).run? events = some finish) :
    (empty : World ν α).IdsTraced events finish := by
  induction leads_of_run? ran with
  | start =>
      refine ⟨?_, ?_, .inl List.nodup_nil⟩
      · intro number session known
        simp [empty] at known
      · intro number id _ member
        cases member
  | snoc before happened inductionHypothesis =>
      exact (inductionHypothesis (run?_eq before)).after? (run?_eq before) happened

/-! ### Two of them commit -/

/-- Two sessions have claimed an identifier.  As far as they have completed it is committed, once for each. -/
structure CommitsTwice (one other : Nat) (id : TransactionId) (world : World ν α) : Prop where
  here : ∀ {number : Nat}, number = one ∨ number = other → number < world.sessions.length
  stands : ∀ {number : Nat} {session : Session ν α}, number = one ∨ number = other →
    world.sessions[number]? = some session →
      session.Claims id ∨ ∃ outcome, session.phase.outcome = some outcome
  once : ∀ {number : Nat}, number = one ∨ number = other → world.Completed number →
    1 ≤ world.tables.entryIds.count id
  twice : world.Completed one → world.Completed other → 2 ≤ world.tables.entryIds.count id

/-- Two sessions at work have committed nothing yet. -/
theorem CommitsTwice.of_claims {one other : Nat} {id : TransactionId} (claims : world.Claims one id)
    (claims' : world.Claims other id) : world.CommitsTwice one other id := by
  have atWork : ∀ {number : Nat}, world.Claims number id → ¬world.Completed number := by
    rintro number ⟨session, known, task, remaining, _⟩ ⟨session', known', value, decided⟩
    rw [known] at known'
    cases known'
    rw [Phase.outcome_eq_none_of_remaining remaining] at decided
    cases decided
  have both : ∀ {number : Nat}, number = one ∨ number = other → world.Claims number id := by
    rintro number (rfl | rfl)
    · exact claims
    · exact claims'
  constructor
  · intro number it
    obtain ⟨session, known, _⟩ := both it
    exact (List.getElem?_eq_some_iff.mp known).1
  · intro number session it known
    obtain ⟨session', known', claims⟩ := both it
    rw [known] at known'
    cases known'
    exact .inl claims
  · exact fun it completed => absurd completed (atWork (both it))
  · exact fun completed _ => absurd completed (atWork claims)

section CommitsTwice

variable {one other : Nat} {id : TransactionId}

/-- Whoever of the two completes in a turn adds the identifier once more. -/
private theorem CommitsTwice.completes {number : Nat} {session next : Session ν α}
    {learned : List Reading} (commits : world.CommitsTwice one other id)
    (known : world.sessions[number]? = some session)
    (sessions : after.sessions = world.sessions.set number next)
    (turn : Turn world.tables world.clock session learned next after.tables) {another : Nat}
    (it : another = one ∨ another = other) (completed : after.Completed another) :
    world.Completed another ∨ another = number ∧
      world.tables.entryIds.count id + 1 ≤ after.tables.entryIds.count id := by
  obtain ⟨found, there, completed⟩ := completed
  rcases session_after sessions there with ⟨rfl, rfl⟩ | ⟨_, there⟩
  · rcases completed.before turn with already | ⟨value, publishing, published⟩
    · exact .inl ⟨session, known, already⟩
    · have claims : session.Claims id := by
        rcases commits.stands it known with claims | ⟨outcome, decided⟩
        · exact claims
        · rw [publishing] at decided
          cases decided
      have member : 0 < session.staged.entryIds.count id :=
        List.count_pos_iff.mpr (claims.staged publishing)
      right
      constructor
      · rfl
      · rw [published, Tables.entryIds_extend, List.count_append]
        omega
  · exact .inl ⟨found, there, completed⟩

/-- A turn leaves it at that. -/
private theorem CommitsTwice.turned {number : Nat} {session next : Session ν α}
    {learned : List Reading} (different : one ≠ other) (commits : world.CommitsTwice one other id)
    (known : world.sessions[number]? = some session)
    (sessions : after.sessions = world.sessions.set number next)
    (turn : Turn world.tables world.clock session learned next after.tables) :
    after.CommitsTwice one other id := by
  have grows : world.tables.entryIds.count id ≤ after.tables.entryIds.count id := by
    rcases turn.tables_cases with same | ⟨_, _, _, published⟩
    · exact Nat.le_of_eq (by rw [same])
    · rw [published, Tables.entryIds_extend, List.count_append]
      exact Nat.le_add_right _ _
  constructor
  · rw [sessions, List.length_set]
    exact commits.here
  · intro another found it there
    rcases session_after sessions there with ⟨rfl, rfl⟩ | ⟨_, there⟩
    · rcases commits.stands it known with claims | ⟨outcome, decided⟩
      · exact claims.turn turn
      · exact .inr ⟨outcome, turn.outcome_eq decided⟩
    · exact commits.stands it there
  · intro another it completed
    rcases commits.completes known sessions turn it completed with already | ⟨_, more⟩
    · exact Nat.le_trans (commits.once it already) grows
    · omega
  · intro completed completed'
    rcases commits.completes known sessions turn (.inl rfl) completed with already | ⟨mine, more⟩
    · rcases commits.completes known sessions turn (.inr rfl) completed' with already' | ⟨_, more⟩
      · exact Nat.le_trans (commits.twice already already') grows
      · have before := commits.once (.inl rfl) already
        omega
    · rcases commits.completes known sessions turn (.inr rfl) completed' with already' | ⟨mine', _⟩
      · have before := commits.once (.inr rfl) already'
        omega
      · exact absurd (mine.trans mine'.symm) different

/-- Every event leaves it at that. -/
theorem CommitsTwice.after? (different : one ≠ other) (commits : world.CommitsTwice one other id)
    (happened : world.after? event = some after) : after.CommitsTwice one other id := by
  cases after?_happens happened with
  | called context work _ eq =>
      have same : ∀ {number : Nat} {session : Session ν α}, number = one ∨ number = other →
          after.sessions[number]? = some session → world.sessions[number]? = some session := by
        intro number session it known
        rw [eq, World.call, List.getElem?_append_left (commits.here it)] at known
        exact known
      have completed : ∀ {number : Nat}, number = one ∨ number = other → after.Completed number →
          world.Completed number := by
        rintro number it ⟨session, known, completed⟩
        exact ⟨session, same it known, completed⟩
      have tables : after.tables = world.tables := by rw [eq]; rfl
      constructor
      · intro number it
        rw [eq, World.call, List.length_append]
        exact Nat.lt_add_right _ (commits.here it)
      · exact fun it known => commits.stands it (same it known)
      · rw [tables]
        exact fun it done => commits.once it (completed it done)
      · rw [tables]
        exact fun done done' => commits.twice (completed (.inl rfl) done) (completed (.inr rfl) done')
  | aside sessions tables =>
      constructor
      · rw [sessions]
        exact commits.here
      · rw [sessions]
        exact commits.stands
      · simp only [Completed, sessions, tables]
        exact commits.once
      · simp only [Completed, sessions, tables]
        exact commits.twice
  | turned number known sessions turn => exact commits.turned different known sessions turn

end CommitsTwice

/-! ### When identifiers stay apart -/

/-- The identifiers of the committed entries are distinct exactly if no two sessions have completed that
claimed one identifier at the same time. -/
theorem entryIds_nodup_iff_not_collide (ran : (empty : World ν α).run? events = some finish) :
    finish.tables.entryIds.Nodup ↔
      ¬∃ one other id, one ≠ other ∧ finish.Completed one ∧ finish.Completed other ∧
        (empty : World ν α).Collide events one other id := by
  constructor
  · rintro nodup ⟨one, other, id, different, completed, completed', collide⟩
    obtain ⟨earlier, later, world, rfl, reached, claims, claims'⟩ := collide
    rw [run?_append, reached, Option.bind_some] at ran
    have commits : finish.CommitsTwice one other id :=
      run?_induction (CommitsTwice.of_claims claims claims')
        (fun commits happened => commits.after? different happened) ran
    have twice := commits.twice completed completed'
    have once := List.nodup_iff_count.mp nodup id
    omega
  · intro apart
    exact (idsTraced ran).distinct.resolve_right apart

/-- An account is opened; then two sessions stage an entry with one identifier, and after that both commit. -/
def race : List (Event Empty Unit) :=
  let account := Account.opened ⟨Uuid.ofNat 1⟩ ⟨Uuid.ofNat 2⟩ .eur ⟨0, 0⟩
  let entry : LedgerEntry :=
    { id := ⟨Uuid.ofNat 7⟩, account := account.id, user := account.owner, amount := account.balance
      balance := account.balance, source := .internal, conversion := none, maskedTarget := none
      createdAt := ⟨0, 0⟩ }
  let context := RequestContext.ofUser account.owner
  let step (number : Nat) : Event Empty Unit :=
    .advanced number ⟨⟨0, 0⟩, Uuid.ofNat 3, fun _ _ => .error .outOfRange⟩
  [.called context (Work.ask (.createAccount account))] ++ List.replicate 11 (step 0) ++
    [.called context (Work.ask (.createEntry entry)), .called context (Work.ask (.createEntry entry))] ++
      List.replicate 5 (step 1) ++ List.replicate 10 (step 2) ++ List.replicate 5 (step 1)

/-- The identifiers of committed entries are not always distinct. -/
theorem not_forall_entryIds_nodup :
    ¬∀ (events : List (Event Empty Unit)) (finish : World Empty Unit),
      (empty : World Empty Unit).run? events = some finish → finish.tables.entryIds.Nodup := by
  intro always
  have ends : ((empty : World Empty Unit).run? race).map (·.tables.entryIds) =
      some [⟨Uuid.ofNat 7⟩, ⟨Uuid.ofNat 7⟩] := by
    decide +kernel
  obtain ⟨finish, ran, ids⟩ := Option.map_eq_some_iff.mp ends
  have nodup := always race finish ran
  rw [ids] at nodup
  exact absurd nodup (by decide)

/-- The two sessions have completed although they claimed one identifier at the same time. -/
theorem race_collides :
    ∃ finish, (empty : World Empty Unit).run? race = some finish ∧
      ∃ one other id, one ≠ other ∧ finish.Completed one ∧ finish.Completed other ∧
        (empty : World Empty Unit).Collide race one other id := by
  have ends : ((empty : World Empty Unit).run? race).map (·.tables.entryIds) =
      some [⟨Uuid.ofNat 7⟩, ⟨Uuid.ofNat 7⟩] := by
    decide +kernel
  obtain ⟨finish, ran, ids⟩ := Option.map_eq_some_iff.mp ends
  refine ⟨finish, ran, Classical.byContradiction fun apart => ?_⟩
  have nodup := (entryIds_nodup_iff_not_collide ran).mpr apart
  rw [ids] at nodup
  exact absurd nodup (by decide)

end World

end Passbook.Session
