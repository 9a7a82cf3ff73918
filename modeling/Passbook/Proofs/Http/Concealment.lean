import Mathlib.Data.List.Forall2
import Passbook.Http.Server
import Passbook.Proofs.Entry.Masking
import Passbook.Proofs.Service.Chronicle
/-!
# Concealment

Of the external target of a movement nothing counts but its masked form.  Two targets with the same masked form
lead over the same channel, so that they are accepted and refused alike; the work of the movement is the same
for both; and whatever happens before it, meanwhile and later, the store, the answers and the replies are
the same to the last character.
-/

namespace Passbook

/-! ### Targets -/

namespace ExternalTarget

/-- The masked form begins with the kind of the target. -/
theorem head?_masked (target : ExternalTarget) :
    target.masked.toList.head? = some (if target.source = .externalBank then 'b' else 'w') := by
  cases target with
  | bank account routing =>
      cases routing with
      | none =>
          show ("bank " ++ Text.maskSuffix account).toList.head? = some 'b'
          simp
      | some routing =>
          show ("bank " ++ Text.maskSuffix account ++ " routing " ++
            Text.maskSuffix routing).toList.head? = some 'b'
          simp
  | wallet address =>
      show ("wallet " ++ Text.maskSuffix address).toList.head? = some 'w'
      simp

/-- Targets with the same masked form lead over the same channel. -/
theorem source_eq_of_masked_eq {one other : ExternalTarget} (same : one.masked = other.masked) :
    one.source = other.source := by
  have heads := head?_masked one
  rw [same, head?_masked other] at heads
  cases one <;> cases other <;> first | rfl | simp [source] at heads

end ExternalTarget

/-- A channel fits both of two targets with the same masked form, or it is refused for both with the same
text. -/
theorem MoneySource.ensureCompatible_eq {one other : Option ExternalTarget}
    (same : one.map (·.masked) = other.map (·.masked)) (source : MoneySource) :
    source.ensureCompatible one = source.ensureCompatible other := by
  cases one with
  | none =>
      cases other with
      | none => rfl
      | some other => cases same
  | some one =>
      cases other with
      | none => cases same
      | some other =>
          have sources := ExternalTarget.source_eq_of_masked_eq (Option.some.inj same)
          simp only [ensureCompatible, sources]

namespace Service

/-! ### Operations -/

/-- Two operations are the same, or they are movements that differ in their targets only, and these have the
same masked form. -/
inductive Operation.MaskedAlike : Operation → Operation → Prop where
  | same (operation : Operation) : MaskedAlike operation operation
  | moves (direction : Direction) (request : MovementRequest) {one other : Option ExternalTarget}
      (same : one.map (·.masked) = other.map (·.masked)) :
      MaskedAlike (.move direction { request with target := one })
        (.move direction { request with target := other })

namespace Operation.MaskedAlike

variable {one other : Operation}

theorem check_eq (alike : one.MaskedAlike other) : one.check = other.check := by
  cases alike with
  | same => rfl
  | moves direction request same => simp only [check, MoneySource.ensureCompatible_eq same]

/-- The raw target does not come into the work. -/
theorem work_eq (alike : one.MaskedAlike other) (defaultCurrency : Currency) (user : UserId) {ν : Type} :
    (one.work defaultCurrency user : Session.Work ν Answer) = other.work defaultCurrency user := by
  cases alike with
  | same => rfl
  | moves direction request same => simp only [work, moveWork, same]

end Operation.MaskedAlike

/-! ### Side by side -/

/-- Two events are the same, or they are calls of operations that differ in raw targets only. -/
inductive Event.MaskedAlike : Event → Event → Prop where
  | same (event : Event) : MaskedAlike event event
  | called (context : RequestContext) {one other : Operation} (alike : one.MaskedAlike other) :
      MaskedAlike (.called context one) (.called context other)

namespace Chronicle

/-- A chronicle without what was asked for: the store, its sessions with their answers, and what was told. -/
def unasked (chronicle : Chronicle) : Chronicle := { chronicle with calls := [] }

/-- What was asked for before does not count for what happens. -/
theorem unasked_after? (chronicle : Chronicle) (event : Event) :
    (chronicle.after? event).map unasked = (chronicle.unasked.after? event).map unasked := by
  cases event with
  | called context operation => rfl
  | _ =>
      simp only [after?, follow, Option.map_map]
      rfl

/-- Events that differ in raw targets only do the same. -/
theorem unasked_after?_eq {event event' : Event} (alike : event.MaskedAlike event') (chronicle : Chronicle) :
    (chronicle.after? event).map unasked = (chronicle.after? event').map unasked := by
  cases alike with
  | same => rfl
  | called context alike => simp only [after?, call, Option.map_some, unasked, alike.check_eq, alike.work_eq]

/-- So do histories of such events. -/
theorem unasked_run?_eq {events events' : List Event} (alike : List.Forall₂ Event.MaskedAlike events events')
    {one other : Chronicle} (same : one.unasked = other.unasked) :
    (one.run? events).map unasked = (other.run? events').map unasked := by
  induction alike generalizing one other with
  | nil => exact congrArg some same
  | @cons event event' rest rest' first _ inductionHypothesis =>
      have stepped : (one.after? event).map unasked = (other.after? event').map unasked := by
        rw [unasked_after? one, same, ← unasked_after? other, unasked_after?_eq first]
      simp only [run?, List.foldlM_cons] at inductionHypothesis ⊢
      cases happens : one.after? event with
      | none =>
          rw [happens, Option.map_none, eq_comm, Option.map_eq_none_iff] at stepped
          rw [stepped]
          rfl
      | some next =>
          rw [happens, Option.map_some, eq_comm, Option.map_eq_some_iff] at stepped
          obtain ⟨next', happens', same'⟩ := stepped
          rw [happens']
          exact inductionHypothesis same'.symm

end Chronicle

/-! ### One after the other -/

/-- Calls of operations that differ in raw targets only come to the same and leave the same ledger. -/
theorem Ledger.perform_eq {one other : Operation} (alike : one.MaskedAlike other) (ledger : Ledger)
    (call : Call) :
    ledger.perform { call with operation := one } = ledger.perform { call with operation := other } := by
  have work := alike.work_eq ledger.defaultCurrency call.user (ν := Empty)
  simp only [perform, performAll, List.filter_cons, List.filter_nil, alike.check_eq, collect]
  cases other.check.isOk <;> simp [callOf, work]

end Service

namespace Http

open Service (Answer Chronicle Direction Event Operation)

/-- The replies to them are the same too. -/
theorem Server.carryOut_eq {one other : Operation} (alike : one.MaskedAlike other) (server : Server)
    (user : UserId) : server.carryOut (.perform user one) = server.carryOut (.perform user other) := by
  have performed := Service.Ledger.perform_eq alike server.ledger
    { user := user, operation := one, timeout := some server.operationTimeout }
  have replies : ∀ outcome, replyToOutcome one outcome = replyToOutcome other outcome := by
    intro outcome
    cases alike with
    | same => rfl
    | moves =>
        cases outcome with
        | none => rfl
        | some outcome =>
            cases outcome with
            | completed answer => cases answer <;> rfl
            | failed | panicked | cancelled => rfl
  simp only [carryOut, replies]
  rw [show server.ledger.perform _ = _ from performed]

/-! ### All that is left of a target -/

/-- The masked forms of two accepted targets are the same if and only if the targets are of one kind, both with
a routing number or both without, and the same is shown of their identifiers; of every identifier at least half
is hidden.  Where a movement to or from one target is asked for, another with the same masked form could
stand in its place: whatever the service has come to and whatever happens to it later, the sessions, their
answers and the committed tables are the same, and so are the reply to a client and the text in diagnostics. -/
theorem targets_leave_only_their_masks :
    (∀ {written written' : TargetText} {one other : ExternalTarget}, written.read = .ok one →
      written'.read = .ok other → (one.masked = other.masked ↔ written.ShowsSame written')) ∧
    (∀ text : String, ∃ hidden shown, cleaned text = hidden ++ shown ∧ IsShown shown (cleaned text) ∧
      shown.length ≤ hidden.length) ∧
    ∀ {one other : ExternalTarget}, one.masked = other.masked → one.debugText = other.debugText ∧
      ∀ (direction : Direction) (request : MovementRequest),
        let moving := Operation.move direction { request with target := some one }
        let moving' := Operation.move direction { request with target := some other }
        (∀ (chronicle : Chronicle) (context : RequestContext) (later : List Event),
          (chronicle.run? (.called context moving :: later)).map Chronicle.unasked =
            (chronicle.run? (.called context moving' :: later)).map Chronicle.unasked) ∧
        ∀ (server : Server) (user : UserId),
          server.carryOut (.perform user moving) = server.carryOut (.perform user moving') := by
  refine ⟨ExternalTarget.masked_eq_iff, fun text => exists_hidden (cleaned text), ?_⟩
  intro one other same
  refine ⟨congrArg (fun text => s!"ExternalTarget(\"{text}\")") same, ?_⟩
  intro direction request moving moving'
  have alike : moving.MaskedAlike moving' := .moves direction request (congrArg some same)
  refine ⟨?_, fun server user => server.carryOut_eq alike user⟩
  intro chronicle context later
  refine Chronicle.unasked_run?_eq (.cons (.called context alike) ?_) rfl
  exact List.forall₂_same.mpr fun event _ => .same event

/-- Eight is put into an account from a bank account that ends in 2345, and it does not matter from which. -/
theorem targets_leave_only_their_masks_deposit :
    let written := TargetText.bank "1111-2345" none
    let written' := TargetText.bank "9876 2345" none
    let context := RequestContext.ofUser ⟨Uuid.ofNat 1⟩
    let step (number : Nat) : Event :=
      .advanced number ⟨⟨0, 0⟩, Uuid.ofNat (number + 2), fun _ _ => .error .outOfRange⟩
    let opening : List Event := .called context (.openAccount none) :: List.replicate 13 (step 0)
    let request : MovementRequest :=
      ⟨⟨Uuid.ofNat 2⟩, .exact ⟨8, .eur, by decide, by decide⟩, .externalBank, none⟩
    let deposit (target : ExternalTarget) : List Event :=
      .called context (.move .credit { request with target := some target }) ::
        List.replicate 19 (step 1)
    ∃ one other, written.read = .ok one ∧ written'.read = .ok other ∧ one ≠ other ∧
      written.ShowsSame written' ∧
      ∃ mid finish finish', (Chronicle.start .eur .empty).run? opening = some mid ∧
        mid.run? (deposit one) = some finish ∧ mid.run? (deposit other) = some finish' ∧
        finish.unasked = finish'.unasked ∧
        finish.world.tables.entries.map (·.maskedTarget) = [some "bank ****2345"] := by
  intro written written' context step opening request deposit
  let one := ExternalTarget.bank "11112345" none
  let other := ExternalTarget.bank "98762345" none
  have read : written.read = .ok one := by decide +kernel
  have read' : written'.read = .ok other := by decide +kernel
  have same : one.masked = other.masked := by decide +kernel
  obtain ⟨shows, _, conceals⟩ := targets_leave_only_their_masks
  have recorded : ((Chronicle.start .eur .empty).run? opening).bind (fun mid =>
      (mid.run? (deposit one)).map (·.world.tables.entries.map (·.maskedTarget))) =
        some [some "bank ****2345"] := by
    decide +kernel
  obtain ⟨mid, opened, recorded⟩ := Option.bind_eq_some_iff.mp recorded
  obtain ⟨finish, ran, recorded⟩ := Option.map_eq_some_iff.mp recorded
  have concealed : (mid.run? (deposit one)).map Chronicle.unasked =
      (mid.run? (deposit other)).map Chronicle.unasked :=
    ((conceals same).2 .credit request).1 mid context _
  have there := concealed.symm.trans (congrArg (Option.map Chronicle.unasked) ran)
  obtain ⟨finish', ran', unasked⟩ := Option.map_eq_some_iff.mp there
  exact ⟨one, other, read, read', by decide, (shows read read').mp same, mid, finish, finish', opened, ran,
    ran', unasked.symm, recorded⟩

end Http

end Passbook
