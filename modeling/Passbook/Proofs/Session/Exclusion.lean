import Passbook.Proofs.Session.Registry
/-!
# Mutual exclusion

A lock is in the hands of the first of the sessions that have asked for it, all of which have found it in the
registry.  From this it follows that a row is locked by one session at a time, whatever the sessions do and in
whatever order they do it, and that nothing stays locked when all of them are over.
-/

namespace Passbook.Session

variable {ν α : Type}

namespace World

variable {world after : World ν α} {number : Nat} {session next : Session ν α}

/-! ### The lines -/

/-- A session of the world stands in line for a lock. -/
def InLine (world : World ν α) (number lock : Nat) : Prop :=
  ∃ session, world.sessions[number]? = some session ∧ session.InLine lock

/-- Who stands in line after a session has moved. -/
theorem inLine_after (known : world.sessions[number]? = some session)
    (sessions : after.sessions = world.sessions.set number next) (other lock : Nat) :
    after.InLine other lock ↔
      other = number ∧ next.InLine lock ∨ other ≠ number ∧ world.InLine other lock := by
  constructor
  · rintro ⟨found, here, it⟩
    rcases session_after sessions here with ⟨same, rfl⟩ | ⟨different, there⟩
    · exact .inl ⟨same, it⟩
    · exact .inr ⟨different, found, there, it⟩
  · obtain ⟨bound, _⟩ := List.getElem?_eq_some_iff.mp known
    rintro (⟨rfl, it⟩ | ⟨different, found, there, it⟩)
    · exact ⟨next, by rw [sessions, List.getElem?_set_self bound], it⟩
    · exact ⟨found, by rw [sessions, List.getElem?_set_ne (Ne.symm different), there], it⟩

theorem inLine_iff (known : world.sessions[number]? = some session) (lock : Nat) :
    world.InLine number lock ↔ session.InLine lock := by
  simp [InLine, known]

/-- Besides, every lock is in the hands of the first of the sessions that have asked for it. -/
structure LocksInOrder (world : World ν α) : Prop extends world.RegistryInOrder where
  orderly : ∀ {lock : Nat} {l : RowLock}, world.locks[lock]? = some l → l.Orderly
  inLine : ∀ {lock : Nat} {l : RowLock}, world.locks[lock]? = some l → ∀ number : Nat,
    (number ∈ l.line ↔ world.InLine number lock)
  given : ∀ {number : Nat} {session : Session ν α} {id : AccountId} {lock : Nat},
    world.sessions[number]? = some session → (id, lock) ∈ session.held →
      ∃ l, world.locks[lock]? = some l ∧ l.holder = some number

end World

/-- A session that waits for nothing is in line for what it has. -/
theorem Session.inLine_iff {session : Session ν α} (asked : session.phase.asked = none) (lock : Nat) :
    session.InLine lock ↔ ∃ id, (id, lock) ∈ session.held := by
  simp [InLine, asked]

namespace World

variable {world after : World ν α} {number : Nat} {session next : Session ν α}

namespace LocksInOrder

/-- A lock that a session refers to has been made. -/
theorem exists_lock (order : world.LocksInOrder) (known : world.sessions[number]? = some session)
    {id : AccountId} {lock : Nat} (refers : session.Refers id lock) :
    ∃ l, world.locks[lock]? = some l :=
  ⟨_, List.getElem?_eq_getElem (order.made (order.registered known refers))⟩

/-- A session has not got the lock that it seeks. -/
theorem not_mem_held (order : world.LocksInOrder) (known : world.sessions[number]? = some session)
    {id : AccountId} {lock : Nat} (seeks : session.phase.Seeks id lock) (other : AccountId) :
    (other, lock) ∉ session.held := by
  intro held
  have same : other = id := order.unique known (.inl held) known (.inr seeks)
  exact order.unlocked known seeks ⟨lock, same ▸ held⟩

/-- What has to be seen when a session moves and no lock changes. -/
theorem keep (order : world.LocksInOrder) (known : world.sessions[number]? = some session)
    (sessions : after.sessions = world.sessions.set number next) (registry : after.RegistryInOrder)
    (locks : after.locks = world.locks)
    (inLine : ∀ lock, next.InLine lock ↔ session.InLine lock)
    (given : ∀ {id : AccountId} {lock : Nat}, (id, lock) ∈ next.held →
      ∃ l, world.locks[lock]? = some l ∧ l.holder = some number) :
    after.LocksInOrder where
  toRegistryInOrder := registry
  orderly := by
    rw [locks]
    exact order.orderly
  inLine := by
    rw [locks]
    intro lock l here other
    rw [order.inLine here other, inLine_after known sessions, inLine]
    by_cases mine : other = number
    · subst mine
      simp [inLine_iff known]
    · simp [mine]
  given := by
    rw [locks]
    intro other found id lock here held
    rcases session_after sessions here with ⟨rfl, rfl⟩ | ⟨_, there⟩
    · exact given held
    · exact order.given there held

/-- What has to be seen when a session moves and one lock changes. -/
theorem change (order : world.LocksInOrder) (known : world.sessions[number]? = some session)
    (sessions : after.sessions = world.sessions.set number next) (registry : after.RegistryInOrder)
    {lock : Nat} {l : RowLock} {f : RowLock → RowLock} (here : world.locks[lock]? = some l)
    (locks : after.locks = world.locks.modify lock f) (orderly : (f l).Orderly)
    (others : ∀ other, other ≠ number → (other ∈ (f l).line ↔ other ∈ l.line))
    (own : number ∈ (f l).line ↔ next.InLine lock)
    (elsewhere : ∀ other, other ≠ lock → (next.InLine other ↔ session.InLine other))
    (stays : ∀ other, other ≠ number → l.holder = some other → (f l).holder = some other)
    (given : ∀ {id : AccountId} {other : Nat}, (id, other) ∈ next.held →
      other = lock ∧ (f l).holder = some number ∨ other ≠ lock ∧ (id, other) ∈ session.held) :
    after.LocksInOrder := by
  have changed : after.locks[lock]? = some (f l) := by
    simp [locks, here]
  have unchanged : ∀ other, other ≠ lock → after.locks[other]? = world.locks[other]? := by
    intro other different
    simp [locks, Ne.symm different]
  refine ⟨registry, ?_, ?_, ?_⟩
  · intro other l' found
    by_cases same : other = lock
    · rw [same, changed] at found
      exact Option.some.inj found ▸ orderly
    · rw [unchanged other same] at found
      exact order.orderly found
  · intro other l' found one
    rw [inLine_after known sessions]
    by_cases same : other = lock
    · subst same
      rw [changed] at found
      cases found
      by_cases mine : one = number
      · simp [mine, own]
      · simp [mine, others one mine, order.inLine here]
    · rw [unchanged other same] at found
      rw [order.inLine found]
      by_cases mine : one = number
      · subst mine
        simp [inLine_iff known, elsewhere other same]
      · simp [mine]
  · intro other found id other' at' held
    rcases session_after sessions at' with ⟨rfl, rfl⟩ | ⟨different, there⟩
    · rcases given held with ⟨rfl, holder⟩ | ⟨different, before⟩
      · exact ⟨f l, changed, holder⟩
      · obtain ⟨l', found', holder⟩ := order.given known before
        exact ⟨l', (unchanged _ different).trans found', holder⟩
    · obtain ⟨l', found', holder⟩ := order.given there held
      by_cases same : other' = lock
      · subst same
        rw [here] at found'
        cases found'
        exact ⟨f l, changed, stays other different holder⟩
      · exact ⟨l', (unchanged _ same).trans found', holder⟩

/-- A session that has got the lock of a row. -/
theorem holder_eq (order : world.LocksInOrder) (known : world.sessions[number]? = some session)
    {id : AccountId} {lock : Nat} {l : RowLock} (held : (id, lock) ∈ session.held)
    (here : world.locks[lock]? = some l) : l.holder = some number := by
  obtain ⟨l', found, holder⟩ := order.given known held
  rw [here] at found
  cases found
  exact holder

/-- Looking for a lock leaves the locks in order. -/
private theorem find (order : world.LocksInOrder) (known : world.sessions[number]? = some session)
    (sessions : after.sessions = world.sessions.set number next) (registry : after.RegistryInOrder)
    {id : AccountId} (locks : after.locks = (world.findLock id).2.locks)
    (held : next.held = session.held) (before : session.phase.asked = none)
    (asked : next.phase.asked = none) : after.LocksInOrder := by
  have inLine : ∀ lock, next.InLine lock ↔ session.InLine lock := by
    intro lock
    rw [Session.inLine_iff asked, Session.inLine_iff before, held]
  have given : ∀ {id : AccountId} {lock : Nat}, (id, lock) ∈ next.held →
      ∃ l, world.locks[lock]? = some l ∧ l.holder = some number := by
    rw [held]
    exact order.given known
  unfold findLock at locks
  split at locks
  · exact order.keep known sessions registry locks inLine given
  · -- The new lock has no line yet, since nobody refers to a lock that has not been made.
    have nobody : ∀ other, ¬world.InLine other world.locks.length := by
      rintro other ⟨found, there, id, refers⟩
      have known' : ∃ l, world.locks[world.locks.length]? = some l := by
        rcases refers with has | waits
        · exact order.exists_lock there (.inl has)
        · exact order.exists_lock there (.inr (.inr waits))
      obtain ⟨l, impossible⟩ := known'
      simp at impossible
    have line : ∀ other lock, after.InLine other lock ↔ world.InLine other lock := by
      intro other lock
      rw [inLine_after known sessions, inLine, ← inLine_iff known]
      by_cases mine : other = number <;> simp [mine]
    have cases' : ∀ {lock : Nat} {l : RowLock}, after.locks[lock]? = some l →
        world.locks[lock]? = some l ∨ lock = world.locks.length ∧ l = ⟨none, []⟩ := by
      intro lock l found
      rw [locks, List.getElem?_append, List.getElem?_singleton] at found
      split at found
      · exact .inl found
      · split at found
        · exact .inr ⟨by omega, (Option.some.inj found).symm⟩
        · cases found
    have old : ∀ {lock : Nat} {l : RowLock}, world.locks[lock]? = some l →
        after.locks[lock]? = some l := by
      intro lock l found
      rw [locks, List.getElem?_append_left (List.getElem?_eq_some_iff.mp found).1, found]
    refine ⟨registry, ?_, ?_, ?_⟩
    · intro lock l found
      rcases cases' found with before | ⟨_, rfl⟩
      · exact order.orderly before
      · exact .new
    · intro lock l found other
      rw [line]
      rcases cases' found with before | ⟨rfl, rfl⟩
      · exact order.inLine before other
      · exact iff_of_false (List.not_mem_nil) (nobody other)
    · intro other found id lock here has
      have before : ∃ l, world.locks[lock]? = some l ∧ l.holder = some other := by
        rcases session_after sessions here with ⟨rfl, rfl⟩ | ⟨_, there⟩
        · exact given has
        · exact order.given there has
      obtain ⟨l, found', holder⟩ := before
      exact ⟨l, old found', holder⟩

section Moves

variable (order : world.LocksInOrder) (known : world.sessions[number]? = some session)
  (sessions : after.sessions = world.sessions.set number next) (registry : after.RegistryInOrder)

include order known sessions registry

/-- So does taking a lock that is free. -/
private theorem take {id : AccountId} {lock : Nat} {queue : List Nat}
    (locks : after.locks = world.locks.modify lock fun l => { l with holder := some number })
    (held : next.held = (id, lock) :: session.held) (before : session.phase.found = some (id, lock))
    (free : world.locks[lock]? = some ⟨none, queue⟩) (asked : next.phase.asked = none) :
    after.LocksInOrder := by
  have seeks : session.phase.Seeks id lock := .inl before
  have unasked := Phase.asked_of_found before
  have empty : queue = [] := (order.orderly free).idle rfl
  subst empty
  apply order.change known sessions registry free locks
  · constructor
    · intro idle
      cases idle
    · simp [RowLock.line]
  · intro other different
    simp [RowLock.line, different]
  · rw [Session.inLine_iff asked, held]
    simp [RowLock.line]
  · intro other different
    rw [Session.inLine_iff asked, Session.inLine_iff unasked, held]
    simp [different]
  · intro other _ holder
    cases holder
  · intro id' other has
    rw [held] at has
    rcases List.mem_cons.mp has with same | old
    · cases same
      exact .inl ⟨rfl, rfl⟩
    · refine .inr ⟨?_, old⟩
      rintro rfl
      exact order.not_mem_held known seeks id' old

/-- So does asking for a lock that is taken. -/
private theorem ask {id : AccountId} {lock : Nat}
    (locks : after.locks = world.locks.modify lock fun l => { l with queue := l.queue ++ [number] })
    (held : next.held = session.held) (before : session.phase.found = some (id, lock))
    (taken : ∀ queue, world.locks[lock]? ≠ some ⟨none, queue⟩)
    (asked : next.phase.asked = some (id, lock)) : after.LocksInOrder := by
  have seeks : session.phase.Seeks id lock := .inl before
  have unasked := Phase.asked_of_found before
  obtain ⟨l, here⟩ := order.exists_lock known (.inr seeks)
  have out : number ∉ l.line := by
    rw [order.inLine here, inLine_iff known, Session.inLine_iff unasked]
    rintro ⟨other, has⟩
    exact order.not_mem_held known seeks other has
  have busy : l.holder ≠ none := by
    obtain ⟨holder, queue⟩ := l
    rintro rfl
    exact taken queue here
  refine order.change known sessions registry here locks ((order.orderly here).ask busy out) ?_ ?_
    ?_ (fun _ _ holder => holder) ?_
  · intro other different
    simp [RowLock.line, different]
  · have inLine : next.InLine lock := ⟨id, .inr asked⟩
    simp [RowLock.line, inLine]
  · intro other different
    have elsewhere : ∀ id', next.phase.asked ≠ some (id', other) := by
      intro id' waits
      rw [asked] at waits
      cases waits
      exact different rfl
    rw [Session.inLine_iff unasked, Session.InLine, held]
    simp [elsewhere]
  · intro id' other has
    rw [held] at has
    refine .inr ⟨?_, has⟩
    rintro rfl
    exact order.not_mem_held known seeks id' has

/-- So does receiving a lock that was waited for. -/
private theorem receive {id : AccountId} {lock : Nat} {queue : List Nat}
    (locks : after.locks = world.locks) (held : next.held = (id, lock) :: session.held)
    (before : session.phase.asked = some (id, lock))
    (given : world.locks[lock]? = some ⟨some number, queue⟩) (asked : next.phase.asked = none) :
    after.LocksInOrder := by
  apply order.keep known sessions registry locks
  · intro other
    rw [Session.inLine_iff asked, Session.InLine, held, before]
    simp only [List.mem_cons, Prod.mk.injEq, Option.some.injEq]
    constructor
    · rintro ⟨id', same | old⟩
      · exact ⟨id', .inr ⟨same.1.symm, same.2.symm⟩⟩
      · exact ⟨id', .inl old⟩
    · rintro ⟨id', old | same⟩
      · exact ⟨id', .inr old⟩
      · exact ⟨id', .inl ⟨same.1.symm, same.2.symm⟩⟩
  · intro id' other has
    rw [held] at has
    rcases List.mem_cons.mp has with same | old
    · cases same
      exact ⟨_, given, rfl⟩
    · exact order.given known old

/-- So does waiting no longer. -/
private theorem leave {id : AccountId} {lock : Nat}
    (locks : after.locks = world.locks.modify lock (·.leave number))
    (held : next.held = session.held) (before : session.phase.asked = some (id, lock))
    (asked : next.phase.asked = none) : after.LocksInOrder := by
  have seeks : session.phase.Seeks id lock := .inr before
  obtain ⟨l, here⟩ := order.exists_lock known (.inr seeks)
  have orderly := order.orderly here
  apply order.change known sessions registry here locks (orderly.leave number)
  · intro other different
    rw [RowLock.line_leave orderly, List.mem_erase_of_ne different]
  · rw [RowLock.line_leave orderly, Session.inLine_iff asked, held]
    apply iff_of_false
    · rw [orderly.nodup.mem_erase_iff]
      exact fun it => it.1 rfl
    · rintro ⟨id', has⟩
      exact order.not_mem_held known seeks id' has
  · intro other different
    have elsewhere : ∀ id', session.phase.asked ≠ some (id', other) := by
      intro id' waits
      rw [before] at waits
      cases waits
      exact different rfl
    rw [Session.inLine_iff asked, held, Session.InLine]
    simp [elsewhere]
  · intro other different holder
    have notMine : ¬l.holder = some number := by
      rw [holder]
      exact fun same => different (Option.some.inj same)
    rw [RowLock.leave, if_neg notMine]
    exact holder
  · intro id' other has
    rw [held] at has
    refine .inr ⟨?_, has⟩
    rintro rfl
    exact order.not_mem_held known seeks id' has

/-- So does giving up a lock. -/
private theorem release {id : AccountId} {lock : Nat} {rest : List (AccountId × Nat)}
    (locks : after.locks = world.locks.modify lock RowLock.passOn)
    (before : session.held = (id, lock) :: rest) (held : next.held = rest)
    (idle : session.phase.asked = none) (asked : next.phase.asked = none) : after.LocksInOrder := by
  have first : (id, lock) ∈ session.held := by simp [before]
  obtain ⟨l, here⟩ := order.exists_lock known (.inl first)
  have holder := order.holder_eq known first here
  have orderly := order.orderly here
  have once := order.once known
  rw [before, List.map_cons, List.nodup_cons] at once
  have given : ∀ {id' : AccountId}, (id', lock) ∉ rest := by
    intro id' has
    have has' : (id', lock) ∈ session.held := by
      rw [before]
      exact List.mem_cons_of_mem _ has
    have same : id' = id := order.unique known (.inl has') known (.inl first)
    exact once.1 (List.mem_map.mpr ⟨_, has, same⟩)
  have line : l.line = number :: l.queue := by simp [RowLock.line, holder]
  have behind : number ∉ l.queue := by
    have nodup := orderly.nodup
    rw [line, List.nodup_cons] at nodup
    exact nodup.1
  apply order.change known sessions registry here locks orderly.passOn
  · intro other different
    simp [RowLock.line_passOn orderly, line, different]
  · rw [RowLock.line_passOn orderly, line, Session.inLine_iff asked, held]
    apply iff_of_false behind
    rintro ⟨id', has⟩
    exact given has
  · intro other different
    rw [Session.inLine_iff asked, Session.inLine_iff idle, held, before]
    simp [different]
  · intro other different other'
    rw [holder] at other'
    exact absurd (Option.some.inj other').symm different
  · intro id' other has
    rw [held] at has
    refine .inr ⟨?_, ?_⟩
    · rintro rfl
      exact given has
    · rw [before]
      exact List.mem_cons_of_mem _ has

end Moves

/-- A turn of a session leaves the locks in order. -/
theorem move (order : world.LocksInOrder) (known : world.sessions[number]? = some session)
    (sessions : after.sessions = world.sessions.set number next)
    (move : LockMove world number session next after) : after.LocksInOrder := by
  have registry := order.toRegistryInOrder.move known sessions move
  cases move with
  | quiet _ locks held before found asked =>
      apply order.keep known sessions registry locks
      · intro lock
        rw [Session.inLine_iff asked, Session.inLine_iff before, held]
      · rw [held]
        exact order.given known
  | find _ locks held before _ _ asked =>
      exact order.find known sessions registry locks held before asked
  | take _ locks held before free _ asked =>
      exact order.take known sessions registry locks held before free asked
  | ask _ locks held before taken _ asked =>
      exact order.ask known sessions registry locks held before taken asked
  | receive _ locks held before given _ asked =>
      exact order.receive known sessions registry locks held before given asked
  | leave _ locks held before _ asked =>
      exact order.leave known sessions registry locks held before asked
  | release _ locks before held idle _ asked =>
      exact order.release known sessions registry locks before held idle asked

/-- A new session that has nothing to do with locks yet leaves them in order. -/
theorem add (order : world.LocksInOrder) (sessions : after.sessions = world.sessions ++ [session])
    (registry : after.registry = world.registry) (locks : after.locks = world.locks)
    (held : session.held = []) (rests : ∀ id lock, ¬session.phase.Seeks id lock) :
    after.LocksInOrder := by
  have idle : ∀ lock, ¬session.InLine lock := by
    rintro lock ⟨id, has | waits⟩
    · rw [held] at has
      cases has
    · exact rests id lock (.inr waits)
  refine ⟨⟨?_, ?_, ?_, ?_, ?_⟩, ?_, ?_, ?_⟩
  · rw [registry]
    exact order.apart
  · rw [registry, locks]
    exact order.made
  · intro other found id lock here refers
    rw [registry]
    rcases session_added sessions here with there | ⟨_, rfl⟩
    · exact order.registered there refers
    · rcases refers with has | seeks
      · rw [held] at has
        cases has
      · exact absurd seeks (rests id lock)
  · intro other found here
    rcases session_added sessions here with there | ⟨_, rfl⟩
    · exact order.once there
    · rw [held]
      exact List.nodup_nil
  · intro other found id lock here seeks
    rcases session_added sessions here with there | ⟨_, rfl⟩
    · exact order.unlocked there seeks
    · exact absurd seeks (rests id lock)
  · rw [locks]
    exact order.orderly
  · rw [locks]
    intro lock l here other
    rw [order.inLine here]
    constructor
    · rintro ⟨found, there, it⟩
      exact ⟨found, session_kept sessions there, it⟩
    · rintro ⟨found, here', it⟩
      rcases session_added sessions here' with there | ⟨_, rfl⟩
      · exact ⟨found, there, it⟩
      · exact absurd it (idle lock)
  · rw [locks]
    intro other found id lock here has
    rcases session_added sessions here with there | ⟨_, rfl⟩
    · exact order.given there has
    · rw [held] at has
      cases has

/-- Every event leaves the locks in order. -/
theorem after? (order : world.LocksInOrder) {event : Event ν α}
    (happened : world.after? event = some after) : after.LocksInOrder := by
  cases after?_happens happened with
  | called context work _ eq =>
      subst eq
      exact order.add rfl rfl rfl rfl fun _ _ => Phase.not_seeks rfl rfl
  | turned number found sessions _ move _ => exact order.move found sessions move
  | aside sessions _ registry locks _ =>
      refine ⟨⟨?_, ?_, ?_, ?_, ?_⟩, ?_, ?_, ?_⟩
      · rw [registry]
        exact order.apart
      · rw [registry, locks]
        exact order.made
      · rw [registry, sessions]
        exact order.registered
      · rw [sessions]
        exact order.once
      · rw [sessions]
        exact order.unlocked
      · rw [locks]
        exact order.orderly
      · rw [locks]
        simp only [InLine, sessions]
        exact order.inLine
      · rw [locks, sessions]
        exact order.given

/-- So does every history of events. -/
theorem run? (order : world.LocksInOrder) {events : List (Event ν α)}
    (ran : world.run? events = some after) : after.LocksInOrder :=
  run?_induction order (fun order happened => order.after? happened) ran

/-- The locks are in order where there are neither locks nor sessions. -/
theorem of_none (registry : world.registry = []) (locks : world.locks = [])
    (sessions : world.sessions = []) : world.LocksInOrder := by
  refine ⟨⟨?_, ?_, ?_, ?_, ?_⟩, ?_, ?_, ?_⟩ <;> simp [registry, locks, sessions]

/-- A row is locked by one session at a time. -/
theorem exclusive (order : world.LocksInOrder) {other : Nat} {session' : Session ν α}
    (known : world.sessions[number]? = some session) (known' : world.sessions[other]? = some session')
    {id : AccountId} (holds : session.Holds id) (holds' : session'.Holds id) : number = other := by
  obtain ⟨lock, held⟩ := holds
  obtain ⟨lock', held'⟩ := holds'
  have same : lock' = lock := by
    have registered := order.registered known (.inl held)
    rw [order.registered known' (.inl held')] at registered
    exact Option.some.inj registered
  subst same
  obtain ⟨l, here⟩ := order.exists_lock known (.inl held)
  have holder := order.holder_eq known held here
  rw [order.holder_eq known' held' here] at holder
  exact (Option.some.inj holder).symm

/-- A lock that no session is in line for is free. -/
theorem free (order : world.LocksInOrder)
    (idle : ∀ session ∈ world.sessions, ∀ lock, ¬session.InLine lock) :
    ∀ l ∈ world.locks, l = ⟨none, []⟩ := by
  intro l member
  obtain ⟨lock, here⟩ := List.getElem?_of_mem member
  have empty : l.line = [] := by
    rw [List.eq_nil_iff_forall_not_mem]
    intro number it
    obtain ⟨session, there, inLine⟩ := (order.inLine here number).mp it
    exact idle session (List.mem_of_getElem? there) lock inLine
  obtain ⟨holder, queue⟩ := l
  cases holder with
  | none => simpa [RowLock.line] using empty
  | some number => simp [RowLock.line] at empty

end LocksInOrder

/-- The locks are in order in every world that a new store can come to. -/
theorem Reachable.locksInOrder (reachable : world.Reachable) : world.LocksInOrder := by
  obtain ⟨events, ran⟩ := reachable
  exact (LocksInOrder.of_none rfl rfl rfl).run? ran

end World

end Passbook.Session
