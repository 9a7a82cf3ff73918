/-!
# Rounding a quotient

The one place where a quotient of natural numbers becomes a natural number.  A quotient that lies
halfway between two neighbours is settled by a `Tie`.
-/

namespace Passbook.Decimal

/-- Which neighbour a quotient halfway between two goes to. -/
inductive Tie where
  /-- The one with the larger magnitude. -/
  | away
  /-- The even one. -/
  | even
deriving DecidableEq, Repr

/-- The natural number nearest to `n / d`, for `0 < d`. -/
def roundDiv (tie : Tie) (n d : Nat) : Nat :=
  let quotient := n / d
  let remainder := n % d
  if 2 * remainder < d then quotient
  else if d < 2 * remainder then quotient + 1
  else
    match tie with
    | .away => quotient + 1
    | .even => if quotient % 2 = 0 then quotient else quotient + 1

/-- Rounding moves up by at most one from the quotient rounded down. -/
theorem roundDiv_floor_or_succ (tie : Tie) (n d : Nat) :
    roundDiv tie n d = n / d ∨ roundDiv tie n d = n / d + 1 := by
  unfold roundDiv
  cases tie <;> grind

example : (roundDiv .even 25 10, roundDiv .even 35 10, roundDiv .away 25 10) = (2, 4, 3) := by decide

end Passbook.Decimal
