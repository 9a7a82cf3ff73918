import Passbook.Identifier
/-!
# The context of a request

Who is acting, and until when.  The clock is a count of milliseconds; a deadline has passed as soon as
the clock shows it.
-/

namespace Passbook

/-- The acting user and the deadline, if there is one. -/
structure RequestContext where
  user : UserId
  deadline : Option Nat
deriving DecidableEq, Repr

namespace RequestContext

def ofUser (user : UserId) : RequestContext := ⟨user, none⟩

/-- The context with a deadline in place of an earlier one. -/
def withDeadline (context : RequestContext) (deadline : Nat) : RequestContext :=
  { context with deadline := some deadline }

/-- The context with a deadline some time after the present one. -/
def withTimeout (context : RequestContext) (now timeout : Nat) : RequestContext :=
  context.withDeadline (now + timeout)

def isExpired (context : RequestContext) (now : Nat) : Bool :=
  context.deadline.any (· ≤ now)

theorem isExpired_eq_false_iff {context : RequestContext} {now : Nat} :
    context.isExpired now = false ↔ ∀ deadline, context.deadline = some deadline → now < deadline := by
  obtain ⟨user, deadline⟩ := context
  cases deadline <;> simp [isExpired]

end RequestContext

end Passbook
