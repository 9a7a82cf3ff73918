import Passbook.Proofs.Service.Log
/-!
# Linearization

Operations that are carried out side by side come to the same answers, and leave the same tables, as if they
had been carried out one after the other: in an order in which whoever has returned before another was called
comes before it.  Operations that were given up, or hit by a fault, are not in this order and have left
nothing behind.
-/

namespace Passbook.Service

open Session (Reading Outcome World)
open Store (Tables)

namespace Chronicle

variable {chronicle after : Chronicle} {start : Tables} {log : List (Nat × Outcome Answer)} {number : Nat}

/-! ### Who is in the log -/

namespace Logged

/-- Whoever has an answer is in the log with it. -/
theorem mem_of_answers (logged : Logged start chronicle log) {outcome : Outcome Answer}
    (answers : chronicle.Answers number outcome) : (number, outcome) ∈ log := by
  obtain ⟨session, known, decided, answer⟩ := answers
  cases logged.stands number session known with
  | underway _ _ _ underway =>
      rw [underway.undecided] at decided
      cases decided
  | void _ decided' noAnswer =>
      rw [decided] at decided'
      cases decided'
      exact absurd answer noAnswer
  | settled member called settled =>
      obtain ⟨outcome', here⟩ := exists_of_mem_numbers member
      cases settled outcome' here with
      | decided decided' =>
          rw [decided] at decided'
          cases decided'
          exact here
      | looked _ remaining =>
          rw [Session.Phase.outcome_eq_none_of_remaining remaining] at decided
          cases decided
      | dropped _ decided' noAnswer =>
          rw [decided] at decided'
          cases decided'
          exact absurd answer noAnswer

/-- Whoever is in the log either has this answer or changes nothing. -/
theorem answers_or_idle (logged : Logged start chronicle log) {outcome : Outcome Answer}
    (member : (number, outcome) ∈ log) :
    chronicle.Answers number outcome ∨
      ∀ {tables tables' : Tables} {other : Outcome Answer},
        chronicle.carryOut number tables = some (other, tables') → tables' = tables := by
  have bound := logged.known number (mem_numbers member)
  rw [logged.length] at bound
  have known : chronicle.world.sessions[number]? = some _ := List.getElem?_eq_getElem bound
  cases logged.stands number _ known with
  | underway unlogged | void unlogged => exact absurd (mem_numbers member) unlogged
  | settled _ called settled =>
      cases settled outcome member with
      | decided decided answer => exact .inl ⟨_, known, decided, answer⟩
      | looked looks | dropped looks =>
          refine .inr fun carried => ?_
          rw [carryOut, called, Option.bind_some] at carried
          exact Operation.tables_of_looks looks carried

end Logged

/-! ### Linearizability -/

/-- Whatever happens to the service on a store with any tables, there is an order of the operations that have
answered in which they could have been carried out one after the other.

1. Exactly the operations that have come to an answer of their own are in the order, each once and with its
   answer.
2. Carried out one after the other in this order, each with the times, the fresh identifiers and the
   conversions that it was told, they come to these answers and leave the tables that are committed.
3. An operation that had returned before another was called comes before it. -/
theorem linearizable {defaultCurrency : Currency} {tables : Tables} {events : List Event}
    {finish : Chronicle} (ran : (Chronicle.start defaultCurrency tables).run? events = some finish)
    (distinct : finish.freshIds.Nodup) :
    ∃ order : List (Nat × Outcome Answer),
      ((numbers order).Nodup ∧
        ∀ number outcome, (number, outcome) ∈ order ↔ finish.Answers number outcome) ∧
      finish.Serially tables order finish.world.tables ∧
      ∀ earlier later mid, events = earlier ++ later →
        (Chronicle.start defaultCurrency tables).run? earlier = some mid →
          ∀ one other, mid.Returned one → mid.calls.length ≤ other → one ∈ numbers order →
            other ∈ numbers order → [one, other].Sublist (numbers order) := by
  classical
  obtain ⟨log, logged, goesOn⟩ := exists_logged ran distinct
  let keep (entry : Nat × Outcome Answer) : Bool := decide (finish.Answers entry.1 entry.2)
  have mem_order : ∀ {part : List (Nat × Outcome Answer)} {number : Nat} {outcome : Outcome Answer},
      (number, outcome) ∈ part.filter keep ↔
        (number, outcome) ∈ part ∧ finish.Answers number outcome := by
    intro part number outcome
    rw [List.mem_filter, decide_eq_true_iff]
  refine ⟨log.filter keep, ⟨?_, ?_⟩, ?_, ?_⟩
  · exact logged.distinct.sublist (List.filter_sublist.map _)
  · intro number outcome
    rw [mem_order]
    exact ⟨And.right, fun answers => ⟨logged.mem_of_answers answers, answers⟩⟩
  · apply logged.serially.filter keep
    rintro ⟨number, outcome⟩ member dropped
    exact (logged.answers_or_idle member).resolve_left (of_decide_eq_false dropped)
  · rintro earlier later mid rfl reached one other ⟨session, known, ended⟩ called first second
    obtain ⟨before, more, rfl, loggedBefore⟩ := goesOn earlier later mid rfl reached
    obtain ⟨outcome, inOrder⟩ := exists_of_mem_numbers first
    obtain ⟨outcome', inOrder'⟩ := exists_of_mem_numbers second
    obtain ⟨_, answers⟩ := mem_order.mp inOrder
    obtain ⟨member', answers'⟩ := mem_order.mp inOrder'
    -- Whoever has returned is in the log by then, and whoever is called later is not.
    have early : (one, outcome) ∈ before.filter keep := by
      rw [mem_order]
      refine ⟨loggedBefore.mem_of_answers ?_, answers⟩
      have ran' : mid.run? later = some finish := by
        rwa [run?, Leads.foldlM_append, ← run?, reached] at ran
      obtain ⟨session', known', decided, answer⟩ := answers
      rw [run?_of_isOver known ended ran'] at known'
      cases known'
      exact ⟨session, known, decided, answer⟩
    have late : (other, outcome') ∈ more.filter keep := by
      rw [mem_order]
      refine ⟨(List.mem_append.mp member').resolve_left fun old => ?_, answers'⟩
      exact absurd (loggedBefore.known other (mem_numbers old)) (Nat.not_lt.mpr called)
    rw [List.filter_append, numbers_append]
    exact (List.singleton_sublist.mpr (mem_numbers early)).append
      (List.singleton_sublist.mpr (mem_numbers late))

/-- An account is opened, and then two deposits are made to it side by side. -/
def deposits : List Event :=
  let context := RequestContext.ofUser ⟨Uuid.ofNat 1⟩
  let ten : Money := ⟨10, .eur, by decide, by decide⟩
  let deposit : Operation := .move .credit (.internal ⟨Uuid.ofNat 2⟩ (.exact ten))
  let step (number : Nat) : Event :=
    .advanced number ⟨⟨0, 0⟩, Uuid.ofNat (number + 2), fun _ _ => .error .outOfRange⟩
  [.called context (.openAccount none)] ++ List.replicate 13 (step 0) ++
    [.called context deposit, .called context deposit] ++ List.replicate 5 (step 1) ++
      List.replicate 3 (step 2) ++ List.replicate 14 (step 1) ++ List.replicate 17 (step 2)

/-- The deposits are in an order, behind the opening of the account. -/
theorem linearizable_deposits :
    ∃ finish, (Chronicle.start .eur .empty).run? deposits = some finish ∧ finish.freshIds.Nodup ∧
      ∃ order, [0, 1].Sublist (numbers order) ∧ [0, 2].Sublist (numbers order) ∧
        finish.Serially .empty order finish.world.tables ∧
          finish.world.tables.entries.map (·.balance.amount) = [10, 20] := by
  have ids : ((Chronicle.start .eur .empty).run? deposits).map (·.freshIds) =
      some [Uuid.ofNat 2, Uuid.ofNat 3, Uuid.ofNat 4] := by
    decide +kernel
  obtain ⟨finish, ran, drawn⟩ := Option.map_eq_some_iff.mp ids
  have balances : ((Chronicle.start .eur .empty).run? deposits).map
      (·.world.tables.entries.map (·.balance.amount)) = some [10, 20] := by
    decide +kernel
  have completed : ∀ number < 3, (((Chronicle.start .eur .empty).run? deposits).bind
      (·.world.sessions[number]?)).map (fun session =>
        (session.phase.approved.isSome, session.phase.ending.isSome)) = some (true, true) := by
    decide +kernel
  have first : ((Chronicle.start .eur .empty).run? (deposits.take 14)).map (fun mid =>
      (mid.calls.length, (mid.world.sessions[0]?.bind (·.phase.ending)).isSome)) = some (1, true) := by
    decide +kernel
  obtain ⟨mid, reached, earlier⟩ := Option.map_eq_some_iff.mp first
  have ended : mid.Returned 0 := by
    obtain ⟨outcome, ending⟩ := Option.isSome_iff_exists.mp (Prod.mk.inj earlier).2
    obtain ⟨session, known, ending⟩ := Option.bind_eq_some_iff.mp ending
    exact ⟨session, known, outcome, Session.Phase.ending_eq_some_iff.mp ending⟩
  obtain ⟨order, ⟨_, mem_order⟩, serially, precedes⟩ := linearizable ran (drawn ▸ by decide)
  have inOrder : ∀ number < 3, number ∈ numbers order := by
    intro number small
    obtain ⟨session, known, ends⟩ := Option.map_eq_some_iff.mp (completed number small)
    rw [ran, Option.bind_some] at known
    obtain ⟨approved, ending⟩ := Prod.mk.inj ends
    obtain ⟨outcome, ending⟩ := Option.isSome_iff_exists.mp ending
    have decided := Session.Phase.ending_eq_some_iff.mp ending
    have answer : IsAnswer outcome := by
      rw [decided] at approved
      cases outcome with
      | completed => trivial
      | _ => cases approved
    have decided' : session.phase.outcome = some outcome := by rw [decided]; rfl
    exact mem_numbers ((mem_order number outcome).mpr ⟨session, known, decided', answer⟩)
  have called : ∀ {number : Nat}, 0 < number → mid.calls.length ≤ number := by
    intro number later
    rw [(Prod.mk.inj earlier).1]
    exact later
  have before : ∀ number, 0 < number → number < 3 → [0, number].Sublist (numbers order) := by
    intro number later small
    exact precedes _ _ mid (List.take_append_drop 14 deposits).symm reached 0 number ended (called later)
      (inOrder 0 (by decide)) (inOrder number small)
  refine ⟨finish, ran, drawn ▸ by decide, order, before 1 (by decide) (by decide),
    before 2 (by decide) (by decide), serially, ?_⟩
  rw [ran] at balances
  exact Option.some.inj balances

end Chronicle

end Passbook.Service
