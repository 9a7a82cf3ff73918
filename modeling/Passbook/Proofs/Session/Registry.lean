import Passbook.Proofs.Session.Events
/-!
# The registry of row locks

All sessions find a lock by way of the registry, so that nobody who refers to a lock is ever left with
another one than those who come later, whatever the sessions do and in whatever order they do it.
-/

namespace Passbook.Session

variable {ν α : Type}

/-- The lock of a row is found after another row was forgotten. -/
theorem lookup_forgotten_of_ne {registry : List (AccountId × Nat)} {id other : AccountId}
    (different : other ≠ id) :
    (registry.filter (·.1 ≠ id)).lookup other = registry.lookup other := by
  induction registry with
  | nil => rfl
  | cons head rest inductionHypothesis =>
      obtain ⟨row, lock⟩ := head
      by_cases forgotten : row = id
      · have passed : (other == row) = false := by simpa [forgotten] using different
        rw [List.filter_cons_of_neg (by simpa using forgotten), List.lookup_cons, passed]
        exact inductionHypothesis
      · rw [List.filter_cons_of_pos (by simpa using forgotten), List.lookup_cons, List.lookup_cons,
          inductionHypothesis]

/-- The row that was forgotten has no lock. -/
theorem lookup_forgotten_self (registry : List (AccountId × Nat)) (id : AccountId) :
    (registry.filter (·.1 ≠ id)).lookup id = none := by
  rw [List.lookup_eq_none_iff]
  intro known member
  have different : known.1 ≠ id := by simpa using (List.mem_filter.mp member).2
  simpa using different.symm

namespace World

variable {world after : World ν α} {number : Nat} {session next : Session ν α}

/-- All sessions find the locks they refer to in the registry. -/
structure RegistryInOrder (world : World ν α) : Prop where
  /-- No two rows have one lock. -/
  apart : ∀ {id other : AccountId} {lock : Nat}, world.registry.lookup id = some lock →
    world.registry.lookup other = some lock → id = other
  /-- Every lock in the registry has been made. -/
  made : ∀ {id : AccountId} {lock : Nat}, world.registry.lookup id = some lock →
    lock < world.locks.length
  registered : ∀ {number : Nat} {session : Session ν α} {id : AccountId} {lock : Nat},
    world.sessions[number]? = some session → session.Refers id lock →
      world.registry.lookup id = some lock
  /-- No session locks a row twice. -/
  once : ∀ {number : Nat} {session : Session ν α}, world.sessions[number]? = some session →
    (session.held.map (·.1)).Nodup
  /-- No session seeks the lock of a row that it has locked. -/
  unlocked : ∀ {number : Nat} {session : Session ν α} {id : AccountId} {lock : Nat},
    world.sessions[number]? = some session → session.phase.Seeks id lock → ¬session.Holds id

namespace RegistryInOrder

/-- A session that refers to a lock refers to it for one row. -/
theorem unique (order : world.RegistryInOrder) {other : Nat} {otherSession : Session ν α}
    {id id' : AccountId} {lock : Nat} (known : world.sessions[number]? = some session)
    (refers : session.Refers id lock) (known' : world.sessions[other]? = some otherSession)
    (refers' : otherSession.Refers id' lock) : id = id' :=
  order.apart (order.registered known refers) (order.registered known' refers')

/-- What has to be seen when a session moves. -/
theorem step (order : world.RegistryInOrder)
    (sessions : after.sessions = world.sessions.set number next)
    (apart : ∀ {id other : AccountId} {lock : Nat}, after.registry.lookup id = some lock →
      after.registry.lookup other = some lock → id = other)
    (made : ∀ {id : AccountId} {lock : Nat}, after.registry.lookup id = some lock →
      lock < after.locks.length)
    (stays : ∀ {other : Nat} {found : Session ν α} {id : AccountId} {lock : Nat},
      after.sessions[other]? = some found → found.Refers id lock →
        world.registry.lookup id = some lock → after.registry.lookup id = some lock)
    (refers : ∀ {id : AccountId} {lock : Nat}, next.Refers id lock →
      after.registry.lookup id = some lock)
    (once : (next.held.map (·.1)).Nodup)
    (unlocked : ∀ {id : AccountId} {lock : Nat}, next.phase.Seeks id lock → ¬next.Holds id) :
    after.RegistryInOrder where
  apart := apart
  made := made
  registered := by
    intro other found id lock here refersHere
    rcases session_after sessions here with ⟨_, rfl⟩ | ⟨_, there⟩
    · exact refers refersHere
    · exact stays here refersHere (order.registered there refersHere)
  once := by
    intro other found here
    rcases session_after sessions here with ⟨_, rfl⟩ | ⟨_, there⟩
    · exact once
    · exact order.once there
  unlocked := by
    intro other found id lock here seeks
    rcases session_after sessions here with ⟨_, rfl⟩ | ⟨_, there⟩
    · exact unlocked seeks
    · exact order.unlocked there seeks

/-- What has to be seen when a session moves and the registry stays what it is. -/
theorem keep (order : world.RegistryInOrder)
    (sessions : after.sessions = world.sessions.set number next)
    (registry : after.registry = world.registry) (length : after.locks.length = world.locks.length)
    (refers : ∀ {id : AccountId} {lock : Nat}, next.Refers id lock →
      world.registry.lookup id = some lock)
    (once : (next.held.map (·.1)).Nodup)
    (unlocked : ∀ {id : AccountId} {lock : Nat}, next.phase.Seeks id lock → ¬next.Holds id) :
    after.RegistryInOrder := by
  refine order.step sessions ?_ ?_ ?_ ?_ once unlocked
  · rw [registry]
    exact order.apart
  · rw [registry, length]
    exact order.made
  · intro _ _ _ _ _ _ before
    rwa [registry]
  · rw [registry]
    exact refers

/-- A session that has taken the lock it has sought. -/
theorem got (order : world.RegistryInOrder) (known : world.sessions[number]? = some session)
    (sessions : after.sessions = world.sessions.set number next)
    (registry : after.registry = world.registry) (length : after.locks.length = world.locks.length)
    {id : AccountId} {lock : Nat} (before : session.phase.Seeks id lock)
    (held : next.held = (id, lock) :: session.held)
    (rests : ∀ {id : AccountId} {lock : Nat}, ¬next.phase.Seeks id lock) :
    after.RegistryInOrder := by
  refine order.keep sessions registry length ?_ ?_ (fun seeks => absurd seeks rests)
  · rintro id' lock' (has | seeks)
    · rw [held] at has
      rcases List.mem_cons.mp has with same | old
      · cases same
        exact order.registered known (.inr before)
      · exact order.registered known (.inl old)
    · exact absurd seeks rests
  · rw [held, List.map_cons, List.nodup_cons]
    refine ⟨?_, order.once known⟩
    intro member
    obtain ⟨⟨row, lock'⟩, has, same⟩ := List.mem_map.mp member
    cases same
    exact order.unlocked known before ⟨lock', has⟩

/-- A session that refers to nothing but what it has already. -/
theorem rest (order : world.RegistryInOrder) (known : world.sessions[number]? = some session)
    (sessions : after.sessions = world.sessions.set number next)
    (registry : after.registry = world.registry) (length : after.locks.length = world.locks.length)
    (held : next.held = session.held)
    (rests : ∀ {id : AccountId} {lock : Nat}, ¬next.phase.Seeks id lock) :
    after.RegistryInOrder := by
  refine order.keep sessions registry length ?_ ?_ (fun seeks => absurd seeks rests)
  · rintro id lock (has | seeks)
    · exact order.registered known (.inl (held ▸ has))
    · exact absurd seeks rests
  · rw [held]
    exact order.once known

/-- A lock that has been made for a row is registered for this row alone. -/
theorem register (order : world.RegistryInOrder) (known : world.sessions[number]? = some session)
    (sessions : after.sessions = world.sessions.set number next) {id : AccountId}
    (unregistered : world.registry.lookup id = none)
    (registry : after.registry = (id, world.locks.length) :: world.registry)
    (locks : after.locks = world.locks ++ [⟨none, []⟩])
    (held : next.held = session.held)
    (seeks : ∀ {other : AccountId} {lock : Nat}, next.phase.Seeks other lock →
      other = id ∧ lock = world.locks.length)
    (unlocked : ∀ {id : AccountId} {lock : Nat}, next.phase.Seeks id lock → ¬next.Holds id) :
    after.RegistryInOrder := by
  have here : after.registry.lookup id = some world.locks.length := by
    rw [registry, List.lookup_cons_self]
  have others : ∀ other, other ≠ id → after.registry.lookup other = world.registry.lookup other := by
    intro other different
    have passed : (other == id) = false := by simpa using different
    rw [registry, List.lookup_cons, passed]
  have old : ∀ {other lock}, world.registry.lookup other = some lock →
      after.registry.lookup other = some lock := by
    intro other lock before
    have different : other ≠ id := by
      rintro rfl
      rw [unregistered] at before
      cases before
    rw [others other different, before]
  have cases' : ∀ {other lock}, after.registry.lookup other = some lock →
      other = id ∧ lock = world.locks.length ∨ world.registry.lookup other = some lock := by
    intro other lock found
    by_cases same : other = id
    · rw [same, here] at found
      exact .inl ⟨same, (Option.some.inj found).symm⟩
    · rw [others other same] at found
      exact .inr found
  refine order.step sessions ?_ ?_ (fun _ _ before => old before) ?_ (held ▸ order.once known) unlocked
  · intro id₁ id₂ lock found₁ found₂
    rcases cases' found₁ with ⟨rfl, rfl⟩ | before₁
    · rcases cases' found₂ with ⟨rfl, _⟩ | before₂
      · rfl
      · exact absurd (order.made before₂) (Nat.lt_irrefl _)
    · rcases cases' found₂ with ⟨rfl, rfl⟩ | before₂
      · exact absurd (order.made before₁) (Nat.lt_irrefl _)
      · exact order.apart before₁ before₂
  · intro other lock found
    rw [locks, List.length_append, List.length_singleton]
    rcases cases' found with ⟨_, rfl⟩ | before
    · exact Nat.lt_succ_self _
    · exact Nat.lt_succ_of_lt (order.made before)
  · rintro other lock (has | sought)
    · exact old (order.registered known (.inl (held ▸ has)))
    · obtain ⟨rfl, rfl⟩ := seeks sought
      exact here

/-- The registry forgets a row only if nobody refers to its lock. -/
theorem forget (order : world.RegistryInOrder) (known : world.sessions[number]? = some session)
    (sessions : after.sessions = world.sessions.set number next) {id : AccountId}
    (registry : after.registry = world.registry ∨
      after.registry = world.registry.filter (·.1 ≠ id) ∧
        ∃ lock, world.registry.lookup id = some lock ∧
          ∀ session ∈ after.sessions, session.refersTo lock = false)
    (length : after.locks.length = world.locks.length)
    (refers : ∀ {id : AccountId} {lock : Nat}, next.Refers id lock → session.Refers id lock)
    (once : (next.held.map (·.1)).Nodup)
    (unlocked : ∀ {id : AccountId} {lock : Nat}, next.phase.Seeks id lock → ¬next.Holds id) :
    after.RegistryInOrder := by
  rcases registry with same | ⟨filtered, unused, registered, free⟩
  · exact order.keep sessions same length (fun it => order.registered known (refers it)) once unlocked
  · have old : ∀ {other lock}, after.registry.lookup other = some lock →
        world.registry.lookup other = some lock := by
      intro other lock found
      by_cases same : other = id
      · rw [same, filtered, lookup_forgotten_self] at found
        cases found
      · rwa [filtered, lookup_forgotten_of_ne same] at found
    have stays : ∀ {other : Nat} {found : Session ν α} {id' : AccountId} {lock : Nat},
        after.sessions[other]? = some found → found.Refers id' lock →
          world.registry.lookup id' = some lock → after.registry.lookup id' = some lock := by
      intro other found id' lock here it before
      have different : id' ≠ id := by
        rintro rfl
        rw [registered] at before
        cases before
        have used := Session.refersTo_of_refers it
        rw [free found (List.mem_of_getElem? here)] at used
        cases used
      rwa [filtered, lookup_forgotten_of_ne different]
    have here : after.sessions[number]? = some next := by
      obtain ⟨bound, _⟩ := List.getElem?_eq_some_iff.mp known
      rw [sessions, List.getElem?_set_self bound]
    refine order.step sessions ?_ ?_ stays ?_ once unlocked
    · exact fun found₁ found₂ => order.apart (old found₁) (old found₂)
    · rw [length]
      exact fun found => order.made (old found)
    · exact fun it => stays here it (order.registered known (refers it))

/-- A turn of a session leaves the registry in order. -/
theorem move (order : world.RegistryInOrder) (known : world.sessions[number]? = some session)
    (sessions : after.sessions = world.sessions.set number next)
    (move : LockMove world number session next after) : after.RegistryInOrder := by
  cases move with
  | quiet registry locks held before found asked =>
      exact order.rest known sessions registry (by rw [locks]) held (Phase.not_seeks found asked)
  | @find id next after registry locks held before free found asked =>
      have seeks : ∀ {other lock}, next.phase.Seeks other lock →
          other = id ∧ lock = (world.findLock id).1 := by
        rintro other lock (seeks | seeks)
        · rw [found] at seeks
          cases seeks
          exact ⟨rfl, rfl⟩
        · rw [asked] at seeks
          cases seeks
      have unlocked : ∀ {other lock}, next.phase.Seeks other lock → ¬next.Holds other := by
        intro other lock sought
        rw [(seeks sought).1, Session.Holds, held]
        exact free
      have once : (next.held.map (·.1)).Nodup := held ▸ order.once known
      unfold findLock at registry locks seeks
      split at registry
      · rename_i lock registered
        simp only [registered] at locks seeks
        refine order.keep sessions registry (by rw [locks]) ?_ once unlocked
        rintro other lock' (has | sought)
        · exact order.registered known (.inl (held ▸ has))
        · obtain ⟨rfl, rfl⟩ := seeks sought
          exact registered
      · rename_i unregistered
        simp only [unregistered] at locks seeks
        exact order.register known sessions unregistered registry locks held seeks unlocked
  | take registry locks held before free found asked =>
      exact order.got known sessions registry (by simp [locks]) (.inl before) held
        (Phase.not_seeks found asked)
  | @ask id lock next after registry locks held before taken found asked =>
      have seeks : ∀ {other lock'}, next.phase.Seeks other lock' → other = id ∧ lock' = lock := by
        rintro other lock' (seeks | seeks)
        · rw [found] at seeks
          cases seeks
        · rw [asked] at seeks
          cases seeks
          exact ⟨rfl, rfl⟩
      refine order.keep sessions registry (by simp [locks]) ?_ (held ▸ order.once known) ?_
      · rintro other lock' (has | sought)
        · exact order.registered known (.inl (held ▸ has))
        · obtain ⟨rfl, rfl⟩ := seeks sought
          exact order.registered known (.inr (.inl before))
      · intro other lock' sought
        rw [(seeks sought).1, Session.Holds, held]
        exact order.unlocked known (.inl before)
  | receive registry locks held before given found asked =>
      exact order.got known sessions registry (by rw [locks]) (.inr before) held
        (Phase.not_seeks found asked)
  | leave registry locks held before found asked =>
      exact order.rest known sessions registry (by simp [locks]) held (Phase.not_seeks found asked)
  | @release id lock rest next after registry locks before held idle found asked =>
      refine order.forget known sessions registry (by simp [locks]) ?_ ?_
        (fun seeks => absurd seeks (Phase.not_seeks found asked))
      · rintro other lock' (has | seeks)
        · left
          rw [before, ← held]
          exact List.mem_cons_of_mem _ has
        · exact absurd seeks (Phase.not_seeks found asked)
      · have once := order.once known
        rw [before, List.map_cons, List.nodup_cons] at once
        rw [held]
        exact once.2

end RegistryInOrder

end World

end Passbook.Session
