import Passbook.Proofs.Session.Waiting
/-!
# Forgetting

The registry has a lock object for every row that a session has locked or seeks to lock.  When a session gives
up a lock that nobody else refers to, the registry forgets the row.  But a session that is broken off while it
seeks a row has no lock of this row to give up.  If nobody else wants the row any more, it is left behind: it
stays registered until another session has locked it and gives it up.
-/

namespace Passbook.Session

variable {ν α : Type}

/-- A session wants a row: it has locked it, or it is about to, or it waits for it. -/
def Session.Wants (session : Session ν α) (id : AccountId) : Prop := ∃ lock, session.Refers id lock

/-- Whoever refers to a lock object refers to it for some row. -/
theorem Session.refers_of_refersTo {session : Session ν α} {lock : Nat}
    (refersTo : session.refersTo lock = true) : ∃ id, session.Refers id lock := by
  rcases Bool.or_eq_true_iff.mp refersTo with held | seeks
  · obtain ⟨⟨id, lock'⟩, has, same⟩ := List.any_eq_true.mp held
    exact ⟨id, .inl (beq_iff_eq.mp same ▸ has)⟩
  · cases phase : session.phase with
    | acquiring id lock' next =>
        rw [phase] at seeks
        cases beq_iff_eq.mp seeks
        exact ⟨id, .inr (.inl (by rw [phase]; rfl))⟩
    | waiting id lock' next =>
        rw [phase] at seeks
        cases beq_iff_eq.mp seeks
        exact ⟨id, .inr (.inr (by rw [phase]; rfl))⟩
    | _ =>
        rw [phase] at seeks
        cases seeks

/-- A session that is not giving up its locks keeps those it has. -/
theorem Turn.holds_or_releasing {committed after : Store.Tables} {clock : Nat}
    {session next : Session ν α} {learned : List Reading}
    (turn : Turn committed clock session learned next after) {id : AccountId}
    (holds : session.Holds id) : next.Holds id ∨ ∃ outcome, session.phase = .releasing outcome := by
  cases turn with
  | release before => exact .inr ⟨_, before⟩
  | lock =>
      obtain ⟨lock, held⟩ := holds
      exact .inl ⟨lock, List.mem_cons_of_mem _ held⟩
  | _ => exact .inl holds

def Event.breaksOff : Event ν α → Option Nat
  | .expired number | .cancelled number => some number
  | .called _ _ | .advanced _ _ | .ticked _ | .armed _ => none

namespace World

variable {world after : World ν α} {number : Nat} {session next : Session ν α} {event : Event ν α}
  {around : Surroundings} {id : AccountId} {lock : Nat}

/-! ### Rows that are wanted -/

/-- The registry has a lock object for a row. -/
def Remembers (world : World ν α) (id : AccountId) : Prop :=
  (world.registry.lookup id).isSome = true

/-- A session of the world wants a row. -/
def Wanted (world : World ν α) (id : AccountId) : Prop :=
  ∃ (number : Nat) (session : Session ν α), world.sessions[number]? = some session ∧ session.Wants id

/-- An event breaks off a session that seeks a row. -/
def CutsOff (world : World ν α) (event : Event ν α) (id : AccountId) : Prop :=
  ∃ number session lock, event.breaksOff = some number ∧ world.sessions[number]? = some session ∧
    session.phase.Seeks id lock

theorem remembers_congr (registry : after.registry.lookup id = world.registry.lookup id) :
    after.Remembers id ↔ world.Remembers id := by
  rw [Remembers, Remembers, registry]

theorem CutsOff.wanted (cuts : world.CutsOff event id) : world.Wanted id := by
  obtain ⟨number, session, lock, _, known, seeks⟩ := cuts
  exact ⟨number, session, known, lock, .inr seeks⟩

/-- A row that is wanted is registered. -/
theorem RegistryInOrder.remembers (order : world.RegistryInOrder) (wanted : world.Wanted id) :
    world.Remembers id := by
  obtain ⟨number, session, known, lock, refers⟩ := wanted
  rw [Remembers, order.registered known refers, Option.isSome_some]

/-- If nobody wants a row once a session has moved, only this session can have wanted it. -/
theorem mover_of_wanted (sessions : after.sessions = world.sessions.set number next)
    (wanted : world.Wanted id) (unwanted : ¬after.Wanted id) :
    ∃ session, world.sessions[number]? = some session ∧ session.Wants id ∧ ¬next.Wants id := by
  obtain ⟨other, session, known, wants⟩ := wanted
  by_cases mine : other = number
  · subst mine
    exact ⟨session, known, wants, fun still => unwanted ⟨other, next, session_moved sessions known, still⟩⟩
  · refine absurd ⟨other, session, ?_, wants⟩ unwanted
    rw [sessions, List.getElem?_set_ne (Ne.symm mine), known]

/-! ### How a row is forgotten -/

/-- A row is forgotten unless a session refers to its lock object. -/
theorem forgetUnused_cases (world : World ν α) (id : AccountId) :
    ¬(world.forgetUnused id).Remembers id ∨ world.forgetUnused id = world ∧
      ∃ lock, world.registry.lookup id = some lock ∧
        ∃ session ∈ world.sessions, session.refersTo lock = true := by
  unfold forgetUnused
  split
  · rename_i lock registered
    split
    · rename_i used
      exact .inr ⟨rfl, lock, registered, List.any_eq_true.mp used⟩
    · exact .inl (by rw [Remembers, lookup_forgotten_self]; nofun)
  · rename_i unregistered
    exact .inl (by rw [Remembers, unregistered]; nofun)

/-- A row that is still registered when it could have been forgotten is wanted. -/
theorem wanted_of_forgetUnused (order : (world.forgetUnused id).RegistryInOrder)
    (remembers : (world.forgetUnused id).Remembers id) : (world.forgetUnused id).Wanted id := by
  rcases world.forgetUnused_cases id with forgotten | ⟨same, lock, registered, session, member, refersTo⟩
  · exact absurd remembers forgotten
  · rw [same] at order ⊢
    obtain ⟨number, known⟩ := List.getElem?_of_mem member
    obtain ⟨other, refers⟩ := Session.refers_of_refersTo refersTo
    have row : other = id := order.apart (order.registered known refers) registered
    exact ⟨number, session, known, lock, row ▸ refers⟩

/-- A session that seeks a row gets the lock by its step, or it waits. -/
theorem advance_seeks (known : world.sessions[number]? = some session)
    (seeks : session.phase.Seeks id lock) (moved : world.advance number around = some after) :
    ∃ next, after.sessions = world.sessions.set number next ∧ next.Wants id := by
  cases phase : session.phase with
  | acquiring id' lock' rest =>
      have same : id' = id ∧ lock' = lock := by
        simpa [phase, Phase.Seeks, Phase.found, Phase.asked] using seeks
      obtain ⟨rfl, rfl⟩ := same
      simp only [advance, known, phase, Option.bind_eq_bind, Option.bind_some] at moved
      split at moved
      · cases moved
        exact ⟨_, rfl, lock', .inl List.mem_cons_self⟩
      · cases moved
        exact ⟨_, rfl, lock', .inr (.inr rfl)⟩
  | waiting id' lock' rest =>
      have same : id' = id ∧ lock' = lock := by
        simpa [phase, Phase.Seeks, Phase.found, Phase.asked] using seeks
      obtain ⟨rfl, rfl⟩ := same
      simp only [advance, known, phase, Option.bind_eq_bind, Option.bind_some] at moved
      split at moved
      · split at moved
        · cases moved
          exact ⟨_, rfl, lock', .inl List.mem_cons_self⟩
        · cases moved
      · cases moved
  | _ =>
      rw [phase] at seeks
      exact absurd seeks (Phase.not_seeks rfl rfl)

/-- A session that takes a step still wants the row it has wanted, unless it is giving up its locks. -/
theorem advance_wants (known : world.sessions[number]? = some session) (wants : session.Wants id)
    (moved : world.advance number around = some after) :
    (∃ next, after.sessions = world.sessions.set number next ∧ next.Wants id) ∨
      ∃ outcome, session.phase = .releasing outcome := by
  obtain ⟨lock, held | seeks⟩ := wants
  · obtain ⟨session', next, known', sessions, turn⟩ := advance_turned moved
    rw [known] at known'
    cases known'
    refine (turn.holds_or_releasing ⟨lock, held⟩).imp_left ?_
    rintro ⟨lock', held'⟩
    exact ⟨next, sessions, lock', .inl held'⟩
  · exact .inl (advance_seeks known seeks moved)

/-- If nobody wants a row any more after a step of a session, the row is forgotten. -/
theorem LocksInOrder.forgets (order : after.LocksInOrder)
    (moved : world.advance number around = some after) (wanted : world.Wanted id)
    (unwanted : ¬after.Wanted id) : ¬after.Remembers id := by
  obtain ⟨_, next, _, sessions, _⟩ := advance_turned moved
  obtain ⟨session, known, wants, gone⟩ := mover_of_wanted sessions wanted unwanted
  have here := session_moved sessions known
  rcases advance_wants known wants moved with ⟨next', sessions', still⟩ | ⟨outcome, phase⟩
  · rw [session_moved sessions' known] at here
    cases here
    exact absurd still gone
  · simp only [advance, known, phase, Option.bind_eq_bind, Option.bind_some] at moved
    have quiet : ∀ lock, ¬session.phase.Seeks id lock := by
      rw [phase]
      exact fun _ => Phase.not_seeks rfl rfl
    split at moved
    · rename_i free
      obtain ⟨lock, held | seeks⟩ := wants
      · rw [free] at held
        cases held
      · exact absurd seeks (quiet lock)
    · rename_i id' lock' rest held
      cases moved
      -- The lock that is given up is that of the row; any other would leave the row wanted.
      obtain ⟨lock, has | seeks⟩ := wants
      · rw [held] at has
        rcases List.mem_cons.mp has with first | later
        · cases first
          exact fun remembers => unwanted (wanted_of_forgetUnused order.toRegistryInOrder remembers)
        · have sessions' : (world.releaseFirst number session id' lock').sessions =
              world.sessions.set number { session with held := session.held.tail } := by
            simp [releaseFirst, setSession, modifyLock]
          rw [session_moved sessions' known] at here
          cases here
          exact absurd ⟨lock, .inl (by rw [held]; exact later)⟩ gone
      · exact absurd seeks (quiet lock)

/-- To break a session off changes neither the registry nor the rows it has locked. -/
theorem breakOff_keeps {outcome : Outcome α} (broken : world.breakOff number outcome = some after) :
    after.registry = world.registry ∧ ∃ session next, world.sessions[number]? = some session ∧
      after.sessions = world.sessions.set number next ∧ next.held = session.held := by
  unfold breakOff at broken
  obtain ⟨session, known, broken⟩ := Option.bind_eq_some_iff.mp broken
  split at broken
  all_goals first
    | cases broken
      exact ⟨rfl, session, _, known, rfl, rfl⟩
    | cases broken

/-- What an event does that breaks a session off. -/
theorem after?_breaksOff (happened : world.after? event = some after)
    (breaks : event.breaksOff = some number) :
    after.registry = world.registry ∧ ∃ session next, world.sessions[number]? = some session ∧
      after.sessions = world.sessions.set number next ∧ next.held = session.held := by
  cases event with
  | expired number' =>
      cases breaks
      obtain ⟨session, known, happened⟩ := Option.bind_eq_some_iff.mp happened
      split at happened
      · exact breakOff_keeps happened
      · cases happened
  | cancelled number' =>
      cases breaks
      exact breakOff_keeps happened
  | called | advanced | ticked | armed => cases breaks

/-- If nobody wants a row any more after a session was broken off, this session has sought it. -/
theorem cutsOff_of_breaksOff (happened : world.after? event = some after)
    (breaks : event.breaksOff = some number) (wanted : world.Wanted id)
    (unwanted : ¬after.Wanted id) : world.CutsOff event id := by
  obtain ⟨_, session, next, known, sessions, held⟩ := after?_breaksOff happened breaks
  obtain ⟨session', known', ⟨lock, has | seeks⟩, gone⟩ := mover_of_wanted sessions wanted unwanted
  · rw [known] at known'
    cases known'
    exact absurd ⟨lock, .inl (held ▸ has)⟩ gone
  · exact ⟨number, session', lock, breaks, known', seeks⟩

/-- A row that nobody wants is neither registered nor forgotten. -/
theorem lookup_of_not_wanted (happened : world.after? event = some after)
    (before : ¬world.Wanted id) (unwanted : ¬after.Wanted id) :
    after.registry.lookup id = world.registry.lookup id := by
  cases after?_happens happened with
  | called context work _ eq =>
      subst eq
      rfl
  | aside _ _ registry => rw [registry]
  | @turned session next number known sessions _ move =>
      cases move with
      | quiet registry | take registry | ask registry | receive registry | leave registry =>
          rw [registry]
      | @find id' _ _ registry _ _ _ _ found =>
          have other : (id == id') = false := by
            rw [beq_eq_false_iff_ne]
            rintro rfl
            exact unwanted ⟨number, next, session_moved sessions known, _, .inr (.inl found)⟩
          rw [registry, findLock]
          split
          · rfl
          · rw [List.lookup_cons, other]
      | @release id' _ rest _ _ registry _ held =>
          have other : id ≠ id' := by
            rintro rfl
            exact before ⟨number, session, known, _, .inl (held ▸ List.mem_cons_self)⟩
          rcases registry with same | ⟨filtered, _⟩
          · rw [same]
          · rw [filtered, lookup_forgotten_of_ne other]

/-- A row that nobody wants is registered if it was so before and nobody wanted it then, or if a session has just
been broken off that sought it. -/
theorem LocksInOrder.remembers_after?_iff (order : world.LocksInOrder)
    (happened : world.after? event = some after) (unwanted : ¬after.Wanted id) :
    after.Remembers id ↔ world.Remembers id ∧ ¬world.Wanted id ∨ world.CutsOff event id := by
  by_cases wanted : world.Wanted id
  · -- The event ends the last session that wanted the row, which makes the difference: a step gives up the
    -- lock, and to break off does not.
    have known := order.remembers wanted
    cases breaks : event.breaksOff with
    | some number =>
        have registry := (after?_breaksOff happened breaks).1
        have cuts := cutsOff_of_breaksOff happened breaks wanted unwanted
        exact ⟨fun _ => .inr cuts, fun _ => (remembers_congr (by rw [registry])).mpr known⟩
    | none =>
        have nobody : ¬world.CutsOff event id := by
          rintro ⟨number, _, _, breaks', _⟩
          rw [breaks] at breaks'
          cases breaks'
        have forgotten : ¬after.Remembers id := by
          cases event with
          | advanced number around => exact (order.after? happened).forgets happened wanted unwanted
          | called | ticked | armed =>
              obtain ⟨other, session, there, wants⟩ := wanted
              have still := session_of_not_turnOf there happened nofun
              exact absurd ⟨other, session, still, wants⟩ unwanted
          | expired | cancelled => cases breaks
        constructor
        · exact fun remembers => absurd remembers forgotten
        · rintro (⟨_, free⟩ | cuts)
          · exact absurd wanted free
          · exact absurd cuts nobody
  · rw [remembers_congr (lookup_of_not_wanted happened wanted unwanted)]
    constructor
    · exact fun remembers => .inl ⟨remembers, wanted⟩
    · rintro (⟨remembers, _⟩ | cuts)
      · exact remembers
      · exact absurd cuts.wanted wanted

/-! ### Rows that are left behind -/

/-- In a history a session was broken off that sought a row, and nobody has wanted the row since. -/
def LeftBehind (start : World ν α) (events : List (Event ν α)) (id : AccountId) : Prop :=
  ∃ earlier event rest before, events = earlier ++ event :: rest ∧
    start.run? earlier = some before ∧ before.CutsOff event id ∧
    ∀ later world, later <+: rest → before.run? (event :: later) = some world → ¬world.Wanted id

/-- Nobody wants a row that is left behind. -/
theorem LeftBehind.not_wanted {start : World ν α} {events : List (Event ν α)}
    (left : start.LeftBehind events id) (ran : start.run? events = some world) : ¬world.Wanted id := by
  obtain ⟨earlier, event, rest, before, rfl, ran', _, since⟩ := left
  rw [run?_append, ran', Option.bind_some] at ran
  exact since rest world (List.prefix_refl rest) ran

/-- A row is left behind by one more event, or it has been left behind before; in either case nobody wants it
now. -/
theorem leftBehind_snoc {start : World ν α} {events : List (Event ν α)}
    (ran : start.run? events = some world) (happened : world.after? event = some after) :
    start.LeftBehind (events ++ [event]) id ↔
      ¬after.Wanted id ∧ (start.LeftBehind events id ∨ world.CutsOff event id) := by
  have step : world.run? [event] = some after := by simp [run?, happened]
  have ran' : start.run? (events ++ [event]) = some after := by
    rw [run?_append, ran, Option.bind_some, step]
  constructor
  · intro left
    refine ⟨left.not_wanted ran', ?_⟩
    obtain ⟨earlier, first, rest, before, split, reached, cuts, since⟩ := left
    -- The session was broken off by the last event, or by an earlier one.
    rcases List.eq_nil_or_concat rest with rfl | ⟨rest', last, rfl⟩
    · obtain ⟨rfl, same⟩ := List.append_inj' split rfl
      cases same
      rw [ran] at reached
      cases reached
      exact .inr cuts
    · rw [List.concat_eq_append] at split since
      rw [← List.cons_append, ← List.append_assoc] at split
      obtain ⟨rfl, _⟩ := List.append_inj' split rfl
      refine .inl ⟨earlier, first, rest', before, rfl, reached, cuts, ?_⟩
      exact fun later world' within =>
        since later world' (within.trans (List.prefix_append rest' [last]))
  · rintro ⟨unwanted, ⟨earlier, first, rest, before, rfl, reached, cuts, since⟩ | cuts⟩
    · refine ⟨earlier, first, rest ++ [event], before, by simp, reached, cuts, ?_⟩
      intro later world' within reached'
      rcases List.prefix_concat_iff.mp within with rfl | within'
      · rw [List.append_assoc, run?_append, reached, Option.bind_some, List.cons_append, reached'] at ran'
        cases ran'
        exact unwanted
      · exact since later world' within' reached'
    · refine ⟨events, event, [], world, rfl, ran, cuts, ?_⟩
      intro later world' within reached'
      rw [List.prefix_nil.mp within, step] at reached'
      cases reached'
      exact unwanted

/-- A row is registered in a world that a new store has come to if it is wanted or left behind. -/
theorem remembers_iff {events : List (Event ν α)}
    (ran : World.empty.run? events = some world) :
    world.Remembers id ↔ world.Wanted id ∨ World.empty.LeftBehind events id := by
  induction leads_of_run? ran with
  | start =>
      constructor
      · exact fun remembers => absurd remembers (by simp [Remembers, empty])
      · rintro (⟨number, session, known, _⟩ | ⟨earlier, event, rest, _, nothing, _⟩)
        · cases known
        · simp at nothing
  | @snoc events before after event led happened inductionHypothesis =>
      have ran' := run?_eq led
      have order := (show before.Reachable from ⟨events, ran'⟩).locksInOrder
      by_cases wanted : after.Wanted id
      · exact iff_of_true ((order.after? happened).remembers wanted) (.inl wanted)
      · have known := inductionHypothesis ran'
        rw [order.remembers_after?_iff happened wanted, leftBehind_snoc ran' happened, known]
        constructor
        · rintro (⟨wanted' | left, free⟩ | cuts)
          · exact absurd wanted' free
          · exact .inr ⟨wanted, .inl left⟩
          · exact .inr ⟨wanted, .inr cuts⟩
        · rintro (wanted' | ⟨_, left | cuts⟩)
          · exact absurd wanted' wanted
          · exact .inl ⟨.inr left, left.not_wanted ran'⟩
          · exact .inr cuts

/-- Nobody wants a row when all sessions are over. -/
theorem InOrder.not_wanted (order : world.InOrder)
    (ended : ∀ session ∈ world.sessions, session.IsOver) : ¬world.Wanted id := by
  rintro ⟨number, session, known, lock, held | seeks⟩
  · have member := List.mem_of_getElem? known
    rw [(order.tidy session member (.inr (ended session member))).1] at held
    cases held
  · obtain ⟨outcome, phase⟩ := ended session (List.mem_of_getElem? known)
    rw [phase] at seeks
    exact absurd seeks (Phase.not_seeks rfl rfl)

theorem registry_eq_nil_iff : world.registry = [] ↔ ∀ id, ¬world.Remembers id := by
  constructor
  · intro nothing id
    simp [Remembers, nothing]
  · intro nobody
    cases registry : world.registry with
    | nil => rfl
    | cons first rest => exact absurd (by simp [Remembers, registry]) (nobody first.1)

/-- In every world that a new store can come to, whatever its sessions do and in whatever order, the rows that
the registry has lock objects for are those that some session has locked or seeks, and those that were left
behind: a session was broken off that sought the row, and nobody has wanted it since.  If all sessions are over,
nothing is registered unless some row is left behind. -/
theorem remembers_iff_wanted_or_leftBehind {events : List (Event ν α)}
    (ran : World.empty.run? events = some world) :
    (∀ id, world.Remembers id ↔ world.Wanted id ∨ World.empty.LeftBehind events id) ∧
    ((∀ session ∈ world.sessions, session.IsOver) →
      (world.registry = [] ↔ ∀ id, ¬World.empty.LeftBehind events id)) := by
  refine ⟨fun id => remembers_iff ran, fun ended => ?_⟩
  have order := (show world.Reachable from ⟨events, ran⟩).inOrder
  rw [registry_eq_nil_iff]
  refine forall_congr' fun id => not_congr ?_
  rw [remembers_iff ran, or_iff_right (order.not_wanted ended)]

/-! ### A row that is left behind -/

namespace HandOver

/-- The row of an account that there is not. -/
def row : AccountId := ⟨Uuid.ofNat 1⟩

/-- One session has locked a row and another waits for it.  The first comes to its end and its lock is given
to the other, which is cancelled before it goes on. -/
def events : List (Event Empty Unit) :=
  let around : Surroundings := ⟨⟨5, 0⟩, Uuid.ofNat 3, fun _ _ => .error .outOfRange⟩
  let close : Event Empty Unit :=
    .called (.ofUser ⟨Uuid.ofNat 2⟩) (Work.ask (.deleteAccount row))
  let steps (number count : Nat) : List (Event Empty Unit) :=
    List.replicate count (.advanced number around)
  close :: steps 0 4 ++ close :: steps 1 3 ++ steps 0 4 ++ [.cancelled 1, .advanced 1 around]

/-- Both sessions are over then, and the row is registered. -/
theorem exists_run : ∃ world, (World.empty : World Empty Unit).run? events = some world ∧
    world.Remembers row ∧ ∀ session ∈ world.sessions, session.IsOver := by
  have ends : ((World.empty : World Empty Unit).run? events).map (fun world =>
      ((world.registry.lookup row).isSome,
        world.sessions.all fun session => session.phase.ending.isSome)) = some (true, true) := by
    decide +kernel
  obtain ⟨world, ran, ends⟩ := Option.map_eq_some_iff.mp ends
  obtain ⟨remembers, ended⟩ := Prod.mk.inj ends
  refine ⟨world, ran, remembers, ?_⟩
  intro session member
  obtain ⟨outcome, ending⟩ := Option.isSome_iff_exists.mp (List.all_eq_true.mp ended session member)
  exact ⟨outcome, Phase.ending_eq_some_iff.mp ending⟩

end HandOver

/-- The row is left behind, since nobody wants it. -/
theorem remembers_iff_wanted_or_leftBehind_handOver :
    ∃ world, (World.empty : World Empty Unit).run? HandOver.events = some world ∧
      ¬world.Wanted HandOver.row ∧ World.empty.LeftBehind HandOver.events HandOver.row ∧
      world.registry ≠ [] := by
  obtain ⟨world, ran, remembers, ended⟩ := HandOver.exists_run
  obtain ⟨registered, nothing⟩ := remembers_iff_wanted_or_leftBehind ran
  have unwanted : ¬world.Wanted HandOver.row :=
    (show world.Reachable from ⟨_, ran⟩).inOrder.not_wanted ended
  have left := ((registered HandOver.row).mp remembers).resolve_left unwanted
  exact ⟨world, ran, unwanted, left, fun empty => (nothing ended).mp empty _ left⟩

/-- Not every row that is registered is wanted, and the registry is not always empty when all sessions are
over. -/
theorem not_forall_remembers_wanted :
    (¬∀ (events : List (Event Empty Unit)) (world : World Empty Unit),
      World.empty.run? events = some world → ∀ id, world.Remembers id → world.Wanted id) ∧
    ¬∀ (events : List (Event Empty Unit)) (world : World Empty Unit),
      World.empty.run? events = some world → (∀ session ∈ world.sessions, session.IsOver) →
        world.registry = [] := by
  obtain ⟨world, ran, remembers, ended⟩ := HandOver.exists_run
  have order := (show world.Reachable from ⟨_, ran⟩).inOrder
  constructor
  · intro wanted
    exact order.not_wanted ended (wanted _ world ran _ remembers)
  · intro nothing
    exact registry_eq_nil_iff.mp (nothing _ world ran ended) _ remembers

end World

end Passbook.Session
