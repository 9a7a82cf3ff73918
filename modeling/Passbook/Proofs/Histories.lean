/-!
# Histories

A system moves by events, each of which may or may not be possible.  A list of events is followed from its
beginning when it is carried out, but what it has led to is best read off from its end.
-/

namespace Passbook

variable {σ ε : Type}

/-- A history of events leads from one state to another. -/
inductive Leads (step : σ → ε → Option σ) (start : σ) : List ε → σ → Prop where
  | start : Leads step start [] start
  | snoc {events : List ε} {state next : σ} {event : ε} (led : Leads step start events state)
      (happened : step state event = some next) : Leads step start (events ++ [event]) next

namespace Leads

variable {step : σ → ε → Option σ} {start state finish : σ} {events later : List ε}

theorem foldlM_append (events later : List ε) :
    (events ++ later).foldlM step start = (events.foldlM step start).bind (later.foldlM step ·) := by
  simp

/-- A history that can be carried out leads to where it ends. -/
theorem of_foldlM (ran : events.foldlM step start = some finish) : Leads step start events finish := by
  suffices general : ∀ {earlier state}, Leads step start earlier state →
      ∀ {later}, later.foldlM step state = some finish → Leads step start (earlier ++ later) finish by
    exact general .start ran
  intro earlier state led later
  induction later generalizing earlier state with
  | nil =>
      intro same
      cases same
      rw [List.append_nil]
      exact led
  | cons event rest inductionHypothesis =>
      intro ran
      obtain ⟨next, happened, ran⟩ := Option.bind_eq_some_iff.mp ran
      have led' := inductionHypothesis (led.snoc happened) ran
      rwa [List.append_assoc] at led'

theorem foldlM_eq (led : Leads step start events finish) :
    events.foldlM step start = some finish := by
  induction led with
  | start => rfl
  | snoc _ happened inductionHypothesis =>
      rw [foldlM_append, inductionHypothesis]
      simp [happened]

/-- What holds at first and is kept by every event holds after every history. -/
theorem invariant {motive : σ → Prop} (led : Leads step start events finish) (first : motive start)
    (keeps : ∀ {state next : σ} {event : ε}, motive state → step state event = some next →
      motive next) : motive finish := by
  induction led with
  | start => exact first
  | snoc _ happened inductionHypothesis => exact keeps inductionHypothesis happened

end Leads

end Passbook
