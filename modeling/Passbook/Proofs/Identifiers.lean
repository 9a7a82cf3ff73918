import Passbook.Uuid.Basic
/-!
# Fresh identifiers

A source of identifiers never gives one out twice, as long as its milliseconds fit into the bits that an
identifier has for them.
-/

namespace Passbook.Uuid

-- Powers are those of natural numbers and integers, whatever else is in scope.
attribute [local instance (2000)] instPowNat

/-- The parts of an identifier do not overlap. -/
private theorem value_timeOrdered {millis counter : Nat} (fits : millis < weight 48)
    (small : counter < weight 74) :
    (timeOrdered millis counter).value =
      millis * weight 80 + 7 * weight 76 + counter / weight 62 * weight 64 + 2 * weight 62
        + counter % weight 62 := by
  have high : counter / weight 62 < weight 12 := Nat.div_lt_of_lt_mul small
  have low : counter % weight 62 < weight 62 := Nat.mod_lt _ (by decide)
  rw [timeOrdered, Nat.mod_eq_of_lt fits, Nat.mod_eq_of_lt high]
  apply Nat.mod_eq_of_lt
  generalize counter / weight 62 = front at high ⊢
  generalize counter % weight 62 = rest at low ⊢
  simp only [weight] at *
  omega

/-- From an identifier its millisecond and its counter can be told. -/
theorem timeOrdered_inj {millis counter millis' counter' : Nat} (fits : millis < weight 48)
    (fits' : millis' < weight 48) (small : counter < weight 74) (small' : counter' < weight 74)
    (same : timeOrdered millis counter = timeOrdered millis' counter') :
    millis = millis' ∧ counter = counter' := by
  have values := congrArg Uuid.value same
  rw [value_timeOrdered fits small, value_timeOrdered fits' small'] at values
  simp only [weight] at *
  omega

namespace Source

variable {source : Source} {id : Uuid} {clock count : Nat}

/-- An identifier is not after the last one of a source. -/
def IsPast (source : Source) (id : Uuid) : Prop :=
  ∃ millis counter, id = timeOrdered millis counter ∧ counter < weight 74 ∧
    (millis < source.millis ∨ millis = source.millis ∧ counter ≤ source.counter)

/-- What comes next. -/
theorem next_cases (source : Source) (clock : Nat) :
    ∃ millis counter, source.next clock = (timeOrdered millis counter, ⟨millis, counter⟩) ∧
      counter < weight 74 ∧ millis ≤ max source.millis clock + 1 ∧
        (source.millis < millis ∨ source.millis = millis ∧ source.counter < counter) := by
  have positive : 0 < weight 74 := by decide
  unfold next
  dsimp only
  split
  · exact ⟨clock, 0, rfl, positive, by omega, .inl (by assumption)⟩
  · split
    · exact ⟨source.millis, _, rfl, by assumption, by omega, .inr ⟨rfl, Nat.lt_succ_self _⟩⟩
    · exact ⟨source.millis + 1, 0, rfl, positive, by omega, .inl (Nat.lt_succ_self _)⟩

theorem isPast_next (source : Source) (clock : Nat) : (source.next clock).2.IsPast (source.next clock).1 := by
  obtain ⟨millis, counter, next, small, _, _⟩ := source.next_cases clock
  rw [next]
  exact ⟨millis, counter, rfl, small, .inr ⟨rfl, Nat.le_refl counter⟩⟩

theorem IsPast.next (isPast : source.IsPast id) (clock : Nat) : (source.next clock).2.IsPast id := by
  obtain ⟨millis, counter, rfl, small, before⟩ := isPast
  obtain ⟨millis', counter', next, _, _, later⟩ := source.next_cases clock
  rw [next]
  refine ⟨millis, counter, rfl, small, ?_⟩
  dsimp only
  omega

/-- The next identifier is none that was given out before. -/
theorem not_isPast_next (fits : (source.next clock).2.millis < weight 48) :
    ¬source.IsPast (source.next clock).1 := by
  obtain ⟨millis', counter', next, small', _, later⟩ := source.next_cases clock
  rw [next] at fits ⊢
  rintro ⟨millis, counter, same, small, before⟩
  dsimp only at fits same
  obtain ⟨rfl, rfl⟩ := timeOrdered_inj fits (by omega) small' small same
  omega

/-! ### Several identifiers -/

theorem IsPast.take (isPast : source.IsPast id) (clock count : Nat) :
    (source.take clock count).2.IsPast id := by
  induction count generalizing source with
  | zero => exact isPast
  | succ count inductionHypothesis => exact inductionHypothesis (isPast.next clock)

theorem isPast_of_mem_take (given : id ∈ (source.take clock count).1) :
    (source.take clock count).2.IsPast id := by
  induction count generalizing source with
  | zero => cases given
  | succ count inductionHypothesis =>
      rcases List.mem_cons.mp given with rfl | later
      · exact (source.isPast_next clock).take clock count
      · exact inductionHypothesis later

/-- Each identifier takes a source no further than a millisecond. -/
theorem max_millis_take_le (source : Source) (clock count : Nat) :
    max (source.take clock count).2.millis clock ≤ max source.millis clock + count := by
  induction count generalizing source with
  | zero => exact Nat.le_refl _
  | succ count inductionHypothesis =>
      obtain ⟨millis, counter, next, _, near, _⟩ := source.next_cases clock
      have onward := inductionHypothesis (source.next clock).2
      rw [next] at onward
      show max ((source.next clock).2.take clock count).2.millis clock ≤ _
      rw [next]
      dsimp only at onward ⊢
      omega

/-- None of the identifiers to come was given out before. -/
theorem not_isPast_of_mem_take (fits : max source.millis clock + count < weight 48)
    (given : id ∈ (source.take clock count).1) : ¬source.IsPast id := by
  induction count generalizing source with
  | zero => cases given
  | succ count inductionHypothesis =>
      obtain ⟨millis, counter, next, _, near, _⟩ := source.next_cases clock
      have millis_eq : (source.next clock).2.millis = millis := by rw [next]
      rcases List.mem_cons.mp given with rfl | later
      · exact not_isPast_next (by rw [millis_eq]; omega)
      · have fits' : max (source.next clock).2.millis clock + count < weight 48 := by
          rw [millis_eq]
          omega
        exact fun isPast => inductionHypothesis fits' later (isPast.next clock)

end Source

end Passbook.Uuid
