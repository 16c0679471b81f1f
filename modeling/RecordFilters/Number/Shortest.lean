import RecordFilters.Number.Decimal

/-! # The fewest digits that read back

A magnitude is written with the fewest decimal digits from which it is read back, and of these with
the ones nearest to it. Halfway between two decimals a `Tie` says which of them it is. -/

namespace RecordFilters.Number

open Text

/-- Which of two equally near decimals is written. -/
inductive Tie
  /-- The one with an even last digit. -/
  | even
  /-- The greater one. -/
  | up
  deriving DecidableEq

/-- The rank nearest to `coefficient · 10 ^ place`. -/
def rankOfDecimal (coefficient : Nat) (place : Int) : Nat :=
  if 0 ≤ place then nearestRank (coefficient * Nat.pow 10 place.toNat) 1
  else nearestRank coefficient (Nat.pow 10 (-place).toNat)

/-- Whether the integer below `num / den` is nearer to it than the one above. -/
def isNearerBelow (tie : Tie) (num den : Nat) : Bool :=
  2 * (num % den) < den || (2 * (num % den) = den && tie = .even && num / den % 2 = 0)

/-- The multiple of `10 ^ place` that is read back as the given rank: of the two neighbours of the
magnitude, the nearer one that is. -/
def onGrid? (tie : Tie) (rank : Nat) (place : Int) : Option Nat :=
  let num := units rank * Nat.pow 10 (-place).toNat
  let den := one * Nat.pow 10 place.toNat
  let below := num / den
  let candidates := if isNearerBelow tie num den then [below, below + 1] else [below + 1, below]
  candidates.find? fun c => rankOfDecimal c place = rank

/-- How many decimal places the magnitude has before the point; counted negatively, how many zeros
follow it. -/
def magnitudePlaces (rank : Nat) : Int :=
  (digits (units rank * Nat.pow 10 400 / one)).length - 400

/-- A coefficient and the place of its last digit: the shortest decimal that reads back. Seventeen
digits are always enough; the exact expansion stands behind them. -/
def shortest (tie : Tie) (rank : Nat) : Nat × Int :=
  let places := magnitudePlaces rank
  ((List.range 17).findSome? fun (n : Nat) =>
    (onGrid? tie rank (places - (n + 1))).map fun c => (c, places - (n + 1))).getD
    (units rank * Nat.pow 5 1074, -1074)

/-- The digits of the shortest decimal, without trailing zeros, and how many of them stand before
the point. -/
def shortestDigits (tie : Tie) (rank : Nat) : List Char × Int :=
  let decimal := shortest tie rank
  let ds := digits decimal.1
  ((ds.reverse.dropWhile (· = '0')).reverse, decimal.2 + ds.length)

end RecordFilters.Number
