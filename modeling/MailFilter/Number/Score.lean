/-
Scores: the numbers that checks report and verdicts add up.

The rules of scoring are stated for any type with the operations below. The filter runs them on
binary floating-point numbers; on exact rationals the same rules obey the laws of arithmetic.
-/
namespace MailFilter

/-- What the rules of scoring need of a type of numbers. -/
class Score (ρ : Type) where
  zero : ρ
  /-- The sum of no scores at all. -/
  noSum : ρ
  add : ρ → ρ → ρ
  mul : ρ → ρ → ρ
  div : ρ → ρ → ρ
  le : ρ → ρ → Bool
  /-- Whether the score is a number: no infinity, and not undefined. -/
  isFinite : ρ → Bool

namespace Score

variable {ρ : Type} [Score ρ]

/-- Whether `a` is smaller than `b`. -/
def lt (a b : ρ) : Bool :=
  le a b && !le b a

/-- Whether a score is positive, by `lt`. -/
def isPositive (a : ρ) : Bool :=
  lt zero a

/-- Whether a score is zero. -/
def isZero (a : ρ) : Bool :=
  le a zero && le zero a

/-- The sum of a list of scores, from the first to the last, beginning with `noSum`. -/
def sum (scores : List ρ) : ρ :=
  scores.foldl add noSum

end Score

/-- Floating-point scores. The sum of none, `noSum`, is the negative zero, the neutral element of their
addition. -/
instance : Score Float where
  zero := 0.0
  noSum := -0.0
  add a b := a + b
  mul a b := a * b
  div a b := a / b
  le a b := a ≤ b
  isFinite := Float.isFinite

/-- Exact scores. -/
instance : Score Rat where
  zero := 0
  noSum := 0
  add a b := a + b
  mul a b := a * b
  div a b := a / b
  le a b := a ≤ b
  isFinite _ := true

end MailFilter
