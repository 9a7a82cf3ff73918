import Passbook.Proofs.Service.Log
import Passbook.Proofs.Service.Yields
/-!
# What operations do to the tables

An operation that is carried out by itself does one of four things to the committed tables: nothing, or it
opens an account, or it moves funds and records the movement, or it closes an account that holds nothing.
-/

namespace Passbook.Service

open Session (Work Reading Outcome)
open Store (Tables GoesOnAs)

/-- What an operation does to the tables when the identifiers that it is handed out are fresh. -/
inductive Effect (fresh : Uuid → Prop) (tables : Tables) : Tables → Prop where
  | nothing : Effect fresh tables tables
  /-- An account that holds nothing is written under a fresh identifier that no account has. -/
  | opens (account : Account) (isFresh : fresh account.id.uuid) (absent : tables.account? account.id = none)
      (holdsNothing : account.balance.amount = 0) :
      Effect fresh tables (tables.extend (Tables.empty.putAccount account))
  /-- An account is written with another balance, and the movement is recorded under an identifier that no
  entry has. -/
  | moves (account moved : Account) (entry : LedgerEntry)
      (found : tables.account? account.id = some account) (records : Records account moved entry)
      (unused : tables.entry? entry.id = none) :
      Effect fresh tables (tables.extend ((Tables.empty.putAccount moved).addEntry entry))
  /-- An account that holds nothing is written as closed. -/
  | closes (account closed : Account) (found : tables.account? account.id = some account)
      (holdsNothing : account.balance.amount = 0) (goesOn : GoesOnAs account closed)
      (balance : closed.balance = account.balance) :
      Effect fresh tables (tables.extend (Tables.empty.putAccount closed))

/-- What an operation yields on the very tables that it has seen has one of these effects. -/
theorem Operation.Yields.effect {fresh : Uuid → Prop} {tables staged : Tables} {defaultCurrency : Currency}
    {user : UserId} {operation : Operation} {answer : Answer}
    (yields : operation.Yields (· = tables) fresh defaultCurrency user tables (.ok answer) staged) :
    Effect fresh tables (tables.extend staged) := by
  cases yields with
  | opens isFresh absent => exact .opens _ isFresh absent rfl
  | moves found movement unused =>
      obtain ⟨seen, rfl, unused⟩ := unused
      have key := Tables.id_of_account? found
      exact .moves _ _ _ (key ▸ found) movement.toRecords unused
  | closes found live _ holdsNothing =>
      have key := Tables.id_of_account? found
      refine .closes _ _ (key ▸ found) holdsNothing ⟨rfl, rfl, rfl, rfl, fun closed => ?_⟩ rfl
      rw [live] at closed
      cases closed
  | account | balance | history | transaction =>
      rw [Tables.extend_empty]
      exact .nothing

/-- Whatever an operation is, it has one of these effects when it is carried out by itself. -/
theorem Operation.carryOut_effect {defaultCurrency : Currency} {user : UserId} {operation : Operation}
    {tables after : Tables} {readings : List Reading} {outcome : Outcome Answer}
    {fresh : Uuid → Prop} (handedOut : ∀ id, .newId id ∈ readings → fresh id)
    (carried : operation.carryOut defaultCurrency user tables readings = some (outcome, after)) :
    Effect fresh tables after := by
  cases checked : operation.check with
  | error e =>
      cases readings with
      | nil =>
          rw [carryOut_of_refused checked] at carried
          cases carried
          exact .nothing
      | cons =>
          unfold carryOut at carried
          simp only [checked] at carried
          cases carried
  | ok _ =>
      rw [carryOut_of_checked checked] at carried
      obtain ⟨⟨outcome', written⟩, executed, published⟩ := Option.map_eq_some_iff.mp carried
      cases published
      have assures : Work.Assures fresh _ (operation.work defaultCurrency user) (· = tables) .empty :=
        operation.work_assures defaultCurrency user fun _ same => same
      obtain ⟨result, expects, rfl, expected, settles⟩ := assures.task.execute rfl handedOut executed
      cases result with
      | ok answer => exact (settles tables expected).effect
      | error e => exact .nothing

/-- A new account stands under a fresh identifier. -/
theorem Effect.account?_eq_none {fresh : Uuid → Prop} {tables after : Tables} {id : AccountId}
    (effect : Effect fresh tables after) (stale : ¬fresh id.uuid) (absent : tables.account? id = none) :
    after.account? id = none := by
  have unwritten : ∀ {account : Account}, account.id ≠ id →
      (Tables.empty.putAccount account).account? id = none := fun different => by
    rw [Tables.account?_putAccount, if_neg different, Tables.account?_empty]
  have other : ∀ {account : Account}, tables.account? account.id = some account → account.id ≠ id := by
    rintro account found rfl
    rw [absent] at found
    cases found
  cases effect with
  | nothing => exact absent
  | opens account isFresh =>
      have different : account.id ≠ id := by
        rintro rfl
        exact stale isFresh
      rw [Tables.account?_extend_of_none (.putAccount .empty account) (unwritten different), absent]
  | moves account moved entry found records =>
      have different : moved.id ≠ id := records.id ▸ other found
      rw [Tables.account?_extend_of_none (.addEntry (.putAccount .empty moved) entry) (unwritten different),
        absent]
  | closes account closed found _ goesOn =>
      have different : closed.id ≠ id := goesOn.id ▸ other found
      rw [Tables.account?_extend_of_none (.putAccount .empty closed) (unwritten different), absent]

/-- No effect records two entries under one identifier. -/
theorem Effect.entryIds_nodup {fresh : Uuid → Prop} {tables after : Tables}
    (effect : Effect fresh tables after)
    (distinct : tables.entryIds.Nodup) : after.entryIds.Nodup := by
  cases effect with
  | nothing => exact distinct
  | opens | closes =>
      rw [Tables.entryIds_extend]
      exact (List.append_nil _).symm ▸ distinct
  | moves account moved entry _ _ unused =>
      rw [Tables.entryIds_extend]
      refine List.nodup_append.mpr ⟨distinct, List.nodup_cons.mpr ⟨List.not_mem_nil, List.nodup_nil⟩, ?_⟩
      rintro id old _ new rfl
      rw [List.mem_singleton.mp new] at old
      exact Tables.entry?_eq_none_iff.mp unused old

end Passbook.Service
