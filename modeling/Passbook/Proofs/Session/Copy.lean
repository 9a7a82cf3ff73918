import Passbook.Proofs.Session.Execution
import Passbook.Proofs.Session.Exchanges
import Passbook.Proofs.Store.Direct
import Passbook.Proofs.Store.Rows
/-!
# Work on a copy

The plainest way to run a unit of work: it gets a copy of the tables for its own, every call is answered from
the copy, and every write that succeeds is applied to it at once.  What such a run makes of a work is a
function of the tables and of what the work is told.  Work that is carried out as a task, on committed tables
and with its writes kept apart, comes to the same.
-/

namespace Passbook.Session

open Store (Tables Call)

variable {ν α : Type}

/-! ### Running on a copy -/

/-- What has become of a run: the notes it has made, and, if it has come to its end, how it has ended and with
which tables. -/
structure Report (ν α : Type) where
  notes : List ν
  ending : Option (Outcome α × Tables)

/-- A run that has not been told what it asks for. -/
def Report.unheard : Report ν α := ⟨[], none⟩

/-- The same run, but with a note made before. -/
def Report.after (note : ν) (report : Report ν α) : Report ν α :=
  { report with notes := note :: report.notes }

/-- The time that a call asks for, and what there is to be told after it.  Only the closing of an account that
is there asks for the time; to any other call it does not matter. -/
def timeFor (copy : Tables) : Call → List Reading → Option (Timestamp × List Reading)
  | .deleteAccount id, readings =>
      match copy.openAccount? id, readings with
      | none, readings => some (⟨0, 0⟩, readings)
      | some _, .now time :: rest => some (time, rest)
      | some _, _ => none
  | _, readings => some (⟨0, 0⟩, readings)

/-- Run a unit of work on a copy of the tables, and note every exchange between the notes that the work makes.
It has to be told what it asks for and nothing more. -/
def Work.onCopy : Work ν α → Tables → List Reading → Report (ν ⊕ Exchange) α
  | .done result, copy, [] => ⟨[], some (.ofResult result, copy)⟩
  | .panic text, copy, [] => ⟨[], some (.panicked text, copy)⟩
  | .call query next, copy, readings =>
      match timeFor copy query readings with
      | some (time, rest) =>
          ((next (query.direct copy time).1).onCopy (query.direct copy time).2 rest).after
            (.inr ⟨query, (query.direct copy time).1⟩)
      | none => .unheard
  | .now next, copy, .now time :: readings => (next time).onCopy copy readings
  | .newId next, copy, .newId id :: readings => (next id).onCopy copy readings
  | .convert _ _ next, copy, .converted answer :: readings => (next answer).onCopy copy readings
  | .sleep _ next, copy, readings => next.onCopy copy readings
  | .note entry next, copy, readings => (next.onCopy copy readings).after (.inl entry)
  | _, _, _ => .unheard

/-! ### Notes of a task -/

/-- The notes that a task makes when it is carried out on committed tables, given what it has written already
and what it is told from now on. -/
def Task.transcript (committed : Tables) : Task ν α → Tables → List Reading → List ν
  | .lockRow _ next, staged, readings => next.transcript committed staged readings
  | .readAccount id next, staged, readings =>
      (next (Tables.visibleAccount? committed staged id)).transcript committed staged readings
  | .readEntry id next, staged, readings =>
      (next (Tables.visibleEntry? committed staged id)).transcript committed staged readings
  | .readHistory user account next, staged, readings =>
      (next (Tables.visibleHistory committed staged user account)).transcript committed staged readings
  | .takeInsertFault next, staged, .insertFault armed :: readings =>
      (next armed).transcript committed staged readings
  | .putAccount account next, staged, readings =>
      next.transcript committed (staged.putAccount account) readings
  | .addEntry entry next, staged, readings =>
      next.transcript committed (staged.addEntry entry) readings
  | .now next, staged, .now time :: readings => (next time).transcript committed staged readings
  | .newId next, staged, .newId id :: readings => (next id).transcript committed staged readings
  | .convert _ _ next, staged, .converted answer :: readings =>
      (next answer).transcript committed staged readings
  | .sleep _ next, staged, readings => next.transcript committed staged readings
  | .note entry next, staged, readings => entry :: next.transcript committed staged readings
  | _, _, _ => []

/-- The notes are made an access at a time. -/
theorem Access.transcript_eq {committed staged written : Tables} {task next : Task ν α}
    {learned : List Reading} (access : Access committed task staged learned next written)
    (readings : List Reading) :
    task.transcript committed staged (learned ++ readings) =
      task.noting [] ++ next.transcript committed written readings := by
  cases access <;> simp [Task.transcript, Task.noting]

/-! ### The same work -/

/-- What there is to be told but for the faults. -/
def Reading.isTold : Reading → Bool
  | .insertFault _ => false
  | _ => true

/-- No entry is to fail. -/
def Unfailing (readings : List Reading) : Prop := ∀ reading ∈ readings, reading ≠ .insertFault true

theorem Unfailing.tail {reading : Reading} {readings : List Reading}
    (unfailing : Unfailing (reading :: readings)) : Unfailing readings :=
  fun other member => unfailing other (List.mem_cons_of_mem _ member)

/-- A task that has been carried out so far, and maybe to its end, has done as a run on a copy does. -/
structure Follows (committed : Tables) (notes : List ν) (ending : Option (Outcome α × Tables))
    (report : Report ν α) : Prop where
  sofar : notes <+: report.notes
  ended : ∀ outcome written, ending = some (outcome, written) →
    notes = report.notes ∧ report.ending = some (outcome, committed.extend written)

namespace Follows

variable {committed staged : Tables} {notes : List ν} {ending : Option (Outcome α × Tables)}
  {report : Report ν α} {readings : List Reading}

/-- Nothing has been done yet. -/
theorem unbegun (report : Report ν α) : Follows committed [] none report where
  sofar := List.nil_prefix
  ended := by
    intro outcome written ended
    cases ended

theorem ending_here (outcome : Outcome α) (staged : Tables) :
    Follows committed ([] : List ν) (some (outcome, staged)) ⟨[], some (outcome, committed.extend staged)⟩ where
  sofar := List.nil_prefix
  ended := by
    rintro _ _ ⟨⟩
    exact ⟨rfl, rfl⟩

theorem after (follows : Follows committed notes ending report) (note : ν) :
    Follows committed (note :: notes) ending (report.after note) where
  sofar := List.cons_prefix_cons.mpr ⟨rfl, follows.sofar⟩
  ended := by
    intro outcome written ended
    obtain ⟨same, ending⟩ := follows.ended outcome written ended
    exact ⟨by rw [same, Report.after], ending⟩

/-- Whatever is answered and staged, what remains of a task does as what remains of the run. -/
private def Onward (committed : Tables) {β : Type} (next : β → Task ν α)
    (rest : β → Tables → List Reading → Report ν α) : Prop :=
  ∀ answer staged readings, staged.DistinctRows → Tables.Apart committed staged → Unfailing readings →
    Follows committed ((next answer).transcript committed staged readings)
      ((next answer).execute committed staged readings)
      (rest answer (committed.extend staged) (readings.filter Reading.isTold))

section Calls

variable (distinct : staged.DistinctRows) (apart : Tables.Apart committed staged)
  (unfailing : Unfailing readings)

include distinct apart unfailing

private theorem write {next : Except LedgerError Unit → Task ν α}
    {rest : Except LedgerError Unit → Tables → List Reading → Report ν α}
    (onward : Onward committed next rest) (row : Except LedgerError Account) :
    Follows committed ((perform.write row next).transcript committed staged readings)
      ((perform.write row next).execute committed staged readings)
      (rest ((committed.extend staged).applied (row.map (committed.extend staged).putAccount)).1
        ((committed.extend staged).applied (row.map (committed.extend staged).putAccount)).2
        (readings.filter Reading.isTold)) := by
  cases row with
  | error e => exact onward _ _ _ distinct apart unfailing
  | ok account =>
      have written := onward (.ok ()) _ readings (distinct.putAccount account) apart unfailing
      rw [Tables.extend_putAccount distinct] at written
      exact written

/-- A call is answered as it is answered from the copy. -/
private theorem call (query : Call) {next : Except LedgerError query.Answer → Task ν α}
    {rest : Except LedgerError query.Answer → Tables → List Reading → Report ν α}
    (onward : Onward committed next rest) :
    Follows committed ((perform query next).transcript committed staged readings)
      ((perform query next).execute committed staged readings)
      (match timeFor (committed.extend staged) query (readings.filter Reading.isTold) with
      | some (time, readings) =>
          rest (query.direct (committed.extend staged) time).1
            (query.direct (committed.extend staged) time).2 readings
      | none => .unheard) := by
  cases query with
  | account id | accountIncludingClosed id | accountForUpdate id =>
      simp only [perform, Task.transcript, Task.execute, timeFor, Tables.visibleAccount?_eq_extend distinct,
        Call.direct_account, Call.direct_accountIncludingClosed, Call.direct_accountForUpdate]
      exact onward _ _ _ distinct apart unfailing
  | createAccount account | updateAccount account =>
      simp only [perform, Task.transcript, Task.execute, timeFor, Tables.visibleAccount?_eq_extend distinct,
        Call.direct_createAccount, Call.direct_updateAccount]
      exact write distinct apart unfailing onward _
  | deleteAccount id =>
      simp only [perform, Task.transcript, Task.execute, Tables.visibleAccount?_eq_extend distinct]
      cases found : (committed.extend staged).openAccount? id with
      | none =>
          have live : Store.requireLive id ((committed.extend staged).account? id) =
              .error (Store.missingAccount id) := by
            rw [Store.requireLive, ← Tables.openAccount?_eq, found]
            rfl
          simp only [timeFor, live, found, Call.direct]
          exact onward _ _ _ distinct apart unfailing
      | some account =>
          have live : Store.requireLive id ((committed.extend staged).account? id) = .ok account := by
            rw [Store.requireLive, ← Tables.openAccount?_eq, found]
            rfl
          simp only [live]
          rcases readings with _ | ⟨reading, readings⟩
          · exact .unbegun _
          · cases reading with
            | now time =>
                have told : (Reading.now time :: readings).filter Reading.isTold =
                    .now time :: readings.filter Reading.isTold := rfl
                simp only [told, timeFor, found, Call.direct_deleteAccount]
                exact write distinct apart unfailing.tail onward _
            | _ => exact .unbegun _
  | createEntry entry =>
      rcases readings with _ | ⟨reading, readings⟩
      · exact .unbegun _
      · cases reading with
        | insertFault armed =>
            cases armed with
            | true => exact absurd rfl (unfailing _ (List.mem_cons_self ..))
            | false =>
                have told : (Reading.insertFault false :: readings).filter Reading.isTold =
                    readings.filter Reading.isTold := rfl
                simp only [perform, Task.transcript, Task.execute, Bool.false_eq_true, if_false, told,
                  timeFor, Tables.visibleAccount?_eq_extend distinct, Call.direct_createEntry]
                cases reference : Store.requireReference entry
                    ((committed.extend staged).account? entry.account) with
                | error e => exact onward _ _ _ distinct apart unfailing.tail
                | ok =>
                    simp only [Task.transcript, Task.execute, Tables.visibleEntry?_eq_extend apart]
                    cases fresh : Store.requireFresh entry
                        (Tables.entry? (committed.extend staged) entry.id) with
                    | error e => exact onward _ _ _ distinct apart unfailing.tail
                    | ok =>
                        have unseen : Tables.visibleEntry? committed staged entry.id = none := by
                          rw [Tables.visibleEntry?_eq_extend apart]
                          exact Store.requireFresh_eq_ok fresh
                        have added := onward (.ok ()) _ readings (distinct.addEntry entry)
                          (apart.addEntry unseen) unfailing.tail
                        rw [Tables.extend_addEntry] at added
                        exact added
        | _ => exact .unbegun _
  | entry id =>
      simp only [perform, Task.transcript, Task.execute, timeFor, Tables.visibleEntry?_eq_extend apart,
        Call.direct_entry]
      exact onward _ _ _ distinct apart unfailing
  | history user account => exact onward _ _ _ distinct apart unfailing

end Calls

/-- Work that is carried out does as it does on a copy. -/
theorem onCopy (work : Work ν α) :
    ∀ staged readings, staged.DistinctRows → Tables.Apart committed staged → Unfailing readings →
      Follows committed (work.recorded.task.transcript committed staged readings)
        (work.recorded.task.execute committed staged readings)
        (work.onCopy (committed.extend staged) (readings.filter Reading.isTold)) := by
  induction work with
  | done result | panic text =>
      intro staged readings _ _ _
      cases readings with
      | nil => exact .ending_here _ _
      | cons => exact .unbegun _
  | call query next inductionHypothesis =>
      intro staged readings distinct apart unfailing
      have onward : Onward committed
          (fun answer => .note (.inr ⟨query, answer⟩) (next answer).recorded.task)
          (fun answer copy readings => ((next answer).onCopy copy readings).after (.inr ⟨query, answer⟩)) := by
        intro answer staged readings distinct apart unfailing
        exact (inductionHypothesis answer staged readings distinct apart unfailing).after _
      have done := call distinct apart unfailing query onward
      simp only [Work.recorded, Work.task, Work.onCopy]
      exact done
  | now next inductionHypothesis =>
      intro staged readings distinct apart unfailing
      rcases readings with _ | ⟨reading, readings⟩
      · exact .unbegun _
      · cases reading with
        | now time => exact inductionHypothesis time staged readings distinct apart unfailing.tail
        | _ => exact .unbegun _
  | newId next inductionHypothesis =>
      intro staged readings distinct apart unfailing
      rcases readings with _ | ⟨reading, readings⟩
      · exact .unbegun _
      · cases reading with
        | newId id => exact inductionHypothesis id staged readings distinct apart unfailing.tail
        | _ => exact .unbegun _
  | convert amount target next inductionHypothesis =>
      intro staged readings distinct apart unfailing
      rcases readings with _ | ⟨reading, readings⟩
      · exact .unbegun _
      · cases reading with
        | converted answer =>
            exact inductionHypothesis answer staged readings distinct apart unfailing.tail
        | _ => exact .unbegun _
  | sleep millis next inductionHypothesis =>
      intro staged readings distinct apart unfailing
      exact inductionHypothesis staged readings distinct apart unfailing
  | note entry next inductionHypothesis =>
      intro staged readings distinct apart unfailing
      exact (inductionHypothesis staged readings distinct apart unfailing).after _

end Follows

end Passbook.Session
