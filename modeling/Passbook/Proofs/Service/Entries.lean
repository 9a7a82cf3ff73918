import Passbook.Proofs.Service.Publication
/-!
# Committed entries

Every entry that is committed is well formed: it records that something was moved, in the currency of its
account and for its owner, it notes a conversion just where there was one, and its target fits the channel.
Whatever a converter answers, nothing else comes to be committed.
-/

namespace Passbook

/-! ### Requests -/

def RequestedAmount.currency? : RequestedAmount → Option Currency
  | exact money => some money.currency
  | accountCurrency _ => none

/-- A requested amount is resolved to the amount that it names, or to one in the account's currency. -/
theorem RequestedAmount.resolve_eq_ok {amount : RequestedAmount} {currency : Currency} {money : Money}
    (resolved : amount.resolve currency = .ok money) :
    amount = .exact money ∨ amount.currency? = none ∧ money.currency = currency := by
  cases amount with
  | exact named =>
      cases resolved
      exact .inl rfl
  | accountCurrency value => exact .inr ⟨rfl, Money.ofMajor_eq_ok resolved⟩

/-- The masked form of a target begins with what leads to it, and that is the channel. -/
def Masks (source : MoneySource) (text : String) : Prop :=
  (source = .externalBank ∧ ∃ rest, text = "bank " ++ rest) ∨
    (source = .externalWallet ∧ ∃ rest, text = "wallet " ++ rest)

theorem ExternalTarget.masks (target : ExternalTarget) : Masks target.source target.masked := by
  cases target with
  | bank account routing =>
      cases routing with
      | none => exact .inl ⟨rfl, _, rfl⟩
      | some routing =>
          refine .inl ⟨rfl, Text.maskSuffix account ++ " routing " ++ Text.maskSuffix routing, ?_⟩
          simp [masked, String.append_assoc]
          rfl
  | wallet address => exact .inr ⟨rfl, _, rfl⟩

/-- A channel that fits a target leads to it. -/
theorem MoneySource.masks_of_ensureCompatible {source : MoneySource} {target : Option ExternalTarget}
    (compatible : source.ensureCompatible target = .ok ()) {text : String}
    (masked : target.map (·.masked) = some text) : Masks source text := by
  cases target with
  | none => cases masked
  | some target =>
      cases masked
      unfold ensureCompatible at compatible
      dsimp only at compatible
      split at compatible
      · cases compatible
      · split at compatible
        · rename_i same
          exact same ▸ target.masks
        · cases compatible

namespace Service

open Store (Tables)

/-! ### Well-formed entries -/

/-- An entry of an account as it should be. -/
structure WellFormed (account : Account) (entry : LedgerEntry) : Prop where
  something : entry.amount.amount ≠ 0
  amountCurrency : entry.amount.currency = account.currency
  balanceCurrency : entry.balance.currency = account.currency
  user : entry.user = account.owner
  /-- What was converted was more than nothing, of another currency, and at a rate greater than zero. -/
  conversion : ∀ info, entry.conversion = some info →
    info.rate.isPositive = true ∧ 0 < info.stated.amount ∧ info.stated.currency ≠ account.currency
  /-- A target is named only where the channel leads to one of its kind. -/
  target : ∀ text, entry.maskedTarget = some text → Masks entry.source text

/-- Well-formed entries stay so when their account goes on. -/
theorem WellFormed.of_goesOnAs {account later : Account} {entry : LedgerEntry}
    (wellFormed : WellFormed account entry) (goesOn : Store.GoesOnAs account later) :
    WellFormed later entry := by
  obtain ⟨something, amountCurrency, balanceCurrency, user, conversion, target⟩ := wellFormed
  rw [← goesOn.currency] at amountCurrency balanceCurrency conversion
  rw [← goesOn.owner] at user
  exact ⟨something, amountCurrency, balanceCurrency, user, conversion, target⟩

/-- A movement that has passed its check moves more than nothing, over a channel that leads to its target. -/
theorem Operation.check_move_eq_ok {direction : Direction} {request : MovementRequest}
    (checked : (Operation.move direction request).check = .ok ()) :
    request.amount.isPositive = true ∧ request.source.ensureCompatible request.target = .ok () := by
  unfold check at checked
  dsimp only at checked
  split at checked
  · rename_i positive
    exact ⟨positive, checked⟩
  · cases checked

/-- A conversion is noted just if the request names a currency other than the account's. -/
def NotesConversion (currency : Currency) (amount : RequestedAmount) (conversion : Option ConversionInfo) :
    Prop :=
  conversion.isSome = true ↔ ∃ named, amount.currency? = some named ∧ named ≠ currency

namespace Movement

variable {user : UserId} {request : MovementRequest} {account moved : Account} {entry : LedgerEntry}

theorem notesConversion (movement : Movement user request account moved entry) :
    NotesConversion account.currency request.amount entry.conversion := by
  obtain ⟨amount, resolved, converts⟩ := movement.conversion
  unfold NotesConversion
  rcases RequestedAmount.resolve_eq_ok resolved with same | ⟨unnamed, currency⟩
  · rw [same]
    cases conversion : entry.conversion with
    | none =>
        rw [conversion] at converts
        simp only [Option.isSome_none, Bool.false_eq_true, false_iff]
        rintro ⟨named, same, different⟩
        cases same
        exact different converts
    | some info =>
        rw [conversion] at converts
        exact ⟨fun _ => ⟨amount.currency, rfl, converts.1⟩, fun _ => rfl⟩
  · rw [unnamed]
    cases conversion : entry.conversion with
    | none => simp
    | some info =>
        rw [conversion] at converts
        exact absurd currency converts.1

/-- What is recorded of a movement that has passed its check is well formed. -/
theorem wellFormed {direction : Direction} (movement : Movement user request account moved entry)
    (checked : (Operation.move direction request).check = .ok ()) : WellFormed moved entry := by
  obtain ⟨positive, compatible⟩ := Operation.check_move_eq_ok checked
  obtain ⟨amount, resolved, converts⟩ := movement.conversion
  refine ⟨movement.something, ?_, ?_, ?_, ?_, ?_⟩
  · rw [movement.entryCurrency, movement.currency]
  · rw [movement.entryBalance]
    rfl
  · rw [movement.entryUser, movement.owner]
  · intro info noted
    rw [noted] at converts
    obtain ⟨different, rfl, rate⟩ := converts
    rcases RequestedAmount.resolve_eq_ok resolved with same | ⟨_, currency⟩
    · rw [same] at positive
      exact ⟨rate, by simpa [RequestedAmount.isPositive, Money.isPositive] using positive,
        movement.currency ▸ different⟩
    · exact absurd currency different
  · intro text masked
    rw [movement.target] at masked
    rw [movement.source]
    exact MoneySource.masks_of_ensureCompatible compatible masked

end Movement

namespace Chronicle

variable {chronicle after : Chronicle} {event : Event}

/-! ### Entries and their movements -/

/-- An entry was committed by a movement on its account that its user has called, and it notes a conversion
just if the movement was requested in a currency other than the account's. -/
def Recorded (chronicle : Chronicle) (account : Account) (entry : LedgerEntry) : Prop :=
  ∃ number direction request,
    chronicle.calls[number]? = some (entry.user, .move direction request) ∧
      request.account = entry.account ∧ chronicle.Completed number (.entry entry) ∧
        NotesConversion account.currency request.amount entry.conversion

/-- Every entry is that of an account, is well formed and was committed by a movement. -/
def Attested (chronicle : Chronicle) : Prop :=
  ∀ entry ∈ chronicle.world.tables.entries, ∃ account,
    chronicle.world.tables.account? entry.account = some account ∧ WellFormed account entry ∧
      chronicle.Recorded account entry

/-- Every event leaves all entries attested. -/
theorem Attested.after? (attested : chronicle.Attested) (regular : chronicle.Regular)
    (happened : chronicle.after? event = some after) : after.Attested := by
  have old : ∀ entry ∈ chronicle.world.tables.entries, ∃ account,
      after.world.tables.account? entry.account = some account ∧ WellFormed account entry ∧
        after.Recorded account entry := by
    intro entry member
    obtain ⟨account, found, wellFormed, number, direction, request, called, same, completed, notes⟩ :=
      attested entry member
    obtain ⟨later, found', goesOn⟩ := (regular.evolves happened).rows entry.account account found
    exact ⟨later, found', wellFormed.of_goesOnAs goesOn, number, direction, request,
      called_after? happened called, same, regular.completed_after? happened completed,
      goesOn.currency ▸ notes⟩
  intro entry member
  cases regular.publishes happened with
  | nothing tables =>
      rw [tables] at member
      exact old entry member
  | operation _ called checked _ yields tables completed =>
      rw [tables, Tables.entries_extend] at member
      rcases List.mem_append.mp member with before | new
      · exact old entry before
      cases yields with
      | opens | closes | account | balance | history | transaction => cases new
      | @moves direction request account moved _ found movement =>
          rw [Tables.entries_addEntry, Tables.entries_putAccount, List.mem_append,
            List.mem_singleton] at new
          rcases new with none' | rfl
          · cases none'
          have written : after.world.tables.account? entry.account = some moved := by
            rw [tables, Tables.account?_extend (.addEntry (.putAccount .empty moved) entry),
              movement.entryAccount, ← movement.id]
            simp
          refine ⟨moved, written, movement.wellFormed checked, _, direction, request, ?_, ?_,
            (completed _ _).mpr (.inl ⟨rfl, rfl⟩), movement.currency ▸ movement.notesConversion⟩
          · rw [movement.entryUser, movement.owned]
            exact called_after? happened called
          · rw [movement.entryAccount, Tables.id_of_account? found]

/-- On a store that has begun empty all entries are attested, whatever happens. -/
theorem attested_of_run? {defaultCurrency : Currency} {events : List Event}
    (ran : (Chronicle.start defaultCurrency .empty).run? events = some after) : after.Attested := by
  have both := (Leads.of_foldlM ran).invariant
    (motive := fun chronicle => chronicle.Regular ∧ chronicle.Attested)
    ⟨.start defaultCurrency .empty, fun _ member => nomatch member⟩
    fun ⟨regular, attested⟩ happened => ⟨regular.after? happened, attested.after? regular happened⟩
  exact both.2

/-- Every entry that is committed on a store that has begun empty, whatever happens to the service and whatever
converters answer:

* is one of an account that is there, of its owner and in its currency, and records that something was moved;
* notes a conversion only of more than nothing, from another currency and at a rate greater than zero, and
  just if the movement that has committed it was requested in a currency other than the account's;
* names a target only if the channel leads to one of its kind. -/
theorem entries_wellFormed {defaultCurrency : Currency} {events : List Event} {finish : Chronicle}
    (ran : (Chronicle.start defaultCurrency .empty).run? events = some finish) :
    ∀ entry ∈ finish.world.tables.entries, ∃ account,
      finish.world.tables.account? entry.account = some account ∧ WellFormed account entry ∧
        finish.Recorded account entry :=
  attested_of_run? ran

/-- An account is opened, and two deposits of dollars from a bank account are made side by side.  The converter
answers one of them in euros and the other in dollars. -/
def remittances : List Event :=
  let context := RequestContext.ofUser ⟨Uuid.ofNat 1⟩
  let dollars : Money := ⟨11, .usd, by decide, by decide⟩
  let deposit : Operation :=
    .move .credit (.external ⟨Uuid.ofNat 2⟩ (.exact dollars) (.bank "12345678" none))
  let step (number : Nat) (converted : Money) : Event :=
    .advanced number ⟨⟨0, 0⟩, Uuid.ofNat (number + 2), fun _ _ => .ok ⟨converted, .ofUInt64 2⟩⟩
  let euros : Money := ⟨9, .eur, by decide, by decide⟩
  [.called context (.openAccount none)] ++ List.replicate 13 (step 0 euros) ++
    [.called context deposit, .called context deposit] ++ List.replicate 5 (step 1 euros) ++
      List.replicate 3 (step 2 dollars) ++ List.replicate 15 (step 1 euros) ++
        List.replicate 8 (step 2 dollars)

/-- The one is committed with its conversion, and the other is not. -/
theorem entries_wellFormed_remittances :
    ∃ finish, (Chronicle.start .eur .empty).run? remittances = some finish ∧
      ∃ entry account, finish.world.tables.entries = [entry] ∧ entry.amount.amount = 9 ∧
        WellFormed account entry ∧ finish.Recorded account entry ∧
          (∃ info, entry.conversion = some info ∧ 0 < info.stated.amount) ∧
            Masks entry.source "bank ****5678" := by
  have entries : ((Chronicle.start .eur .empty).run? remittances).map (fun finish =>
      finish.world.tables.entries.map fun entry =>
        (entry.amount.amount, entry.conversion.isSome, entry.maskedTarget)) =
          some [(9, true, some "bank ****5678")] := by
    decide +kernel
  obtain ⟨finish, ran, entries⟩ := Option.map_eq_some_iff.mp entries
  obtain ⟨entry, single, noted⟩ := List.map_eq_singleton_iff.mp entries
  obtain ⟨amount, noted⟩ := Prod.mk.inj noted
  obtain ⟨converted, masked⟩ := Prod.mk.inj noted
  have member : entry ∈ finish.world.tables.entries := single ▸ List.mem_singleton.mpr rfl
  obtain ⟨account, _, wellFormed, recorded⟩ := entries_wellFormed ran entry member
  obtain ⟨info, conversion⟩ := Option.isSome_iff_exists.mp converted
  exact ⟨finish, ran, entry, account, single, amount, wellFormed, recorded,
    ⟨info, conversion, (wellFormed.conversion info conversion).2.1⟩, wellFormed.target _ masked⟩

end Chronicle

end Service

end Passbook
