import Passbook.Error
/-!
# Classifying failures

A failure of the layers below becomes a refusal if any error in its chain has a meaning for the ledger;
the first one that has decides.  Everything else is passed on unchanged.
-/

namespace Passbook

/-- What a store failure means for the ledger. -/
def StoreFailure.refusal? : StoreFailure → Option Refusal
  | .recordNotFound what | .missingReference what => some (.notFound what)
  | .duplicateKey what => some (.alreadyExists what)
  | .constraintViolated what => some (.invalid what)
  | .corrupt _ | .lockPoisoned | .injectedFault _ => none

/-- What a database failure means for the ledger. -/
def DatabaseFailure.refusal? : DatabaseFailure → Option Refusal
  | .rowNotFound => some (.notFound "row not found")
  | .poolTimedOut => some .timeout
  | .rejected .unique reason => some (.alreadyExists reason)
  | .rejected .foreignKey reason => some (.notFound reason)
  | .rejected .check reason | .rejected .notNull reason => some (.invalid reason)
  | _ => none

namespace Fault

/-- What an error means for the ledger by itself, its source left aside.  A failure that was passed on
means nothing by itself. -/
def refusal? : Fault → Option Refusal
  | .refusal reason => some reason
  | .store failure => failure.refusal?
  | .database failure => failure.refusal?
  | _ => none

/-- The next error in the chain.  Errors that show another one have the other one's source. -/
def source? : Fault → Option Fault
  | .unknown cause => cause.source?
  | .operation _ source => some source
  | .configuration source => some source
  | .decode source => some source
  | .ioShowing shown => shown.source?
  | .foreignOver _ source => some source
  | _ => none

/-- A source is smaller than the error it belongs to. -/
theorem sizeOf_source?_lt {fault source : Fault} (h : fault.source? = some source) :
    sizeOf source < sizeOf fault := by
  induction fault with
  | unknown cause ih => have := ih h; simp; omega
  | ioShowing shown ih => have := ih h; simp; omega
  | _ => simp_all +arith [source?]

/-- The refusal an error stands for: that of the first error in its chain that means one.  The inside
of a failure that was passed on is looked through before its source. -/
def classify (fault : Fault) : Option Refusal :=
  let own :=
    match fault with
    | .unknown cause => cause.classify
    | other => other.refusal?
  match own with
  | some reason => some reason
  | none =>
    match _h : fault.source? with
    | some source => source.classify
    | none => none
termination_by sizeOf fault
decreasing_by
  · simp
  · exact sizeOf_source?_lt ‹_›

end Fault

/-- A failure of the layers below as an error of the ledger.  The ledger's own errors stay what they
are. -/
def LedgerError.ofFault : Fault → LedgerError
  | .refusal reason => .refused reason
  | .unknown cause => .unknown cause
  | fault =>
    match fault.classify with
    | some reason => .refused reason
    | none => .unknown fault

def LedgerError.ofStore (failure : StoreFailure) : LedgerError := ofFault (.store failure)

end Passbook
