import RecordFilters.Index

/-! # Numbers

The numbers that fields and conditions hold: the values of 64-bit binary floating point, with one
undefined number. A finite magnitude is given by its *rank*, its place among all of them in order
of size; the magnitude itself is a count of *units*, the least positive magnitude being one unit
and the number one being `2 ^ 1074` of them.

* `Number.ofRatio` is the number nearest to a ratio; halfway, the one of even rank.
* `Number.level?` places the defined numbers on one line, so that comparing numbers is comparing
  integers, and zero has one place whatever its sign.
* `Number.whole?` is the integer that a number is, if it is one. -/

namespace RecordFilters

namespace Number

/-- How many ranks go by before the step from one rank to the next doubles. -/
def octave : Nat := Nat.pow 2 52

/-- The rank that stands for the infinite magnitude, above all finite ones. -/
def infinityRank : Nat := 2047 * octave

end Number

/-- A 64-bit floating point number. -/
inductive Number
  | nan
  | infinite (negative : Bool)
  | finite (negative : Bool) (rank : Nat) (inRange : rank < Number.infinityRank)
  deriving DecidableEq

namespace Number

/-- How many units make the number one. -/
def one : Nat := Nat.pow 2 1074

/-- The least integer of 64 bits. -/
def leastWhole : Int := -9223372036854775808

/-- The greatest integer of 64 bits. -/
def greatestWhole : Int := 9223372036854775807

/-- The magnitude of a rank in units: the ranks of the first two octaves count units, and from there
on the step from one rank to the next doubles with every octave. -/
def units (rank : Nat) : Nat :=
  if rank < octave then rank
  else (octave + rank % octave) * Nat.pow 2 (rank / octave - 1)

/-- The quotient rounded to the nearest integer, halfway to the even one. -/
def divNearest (a b : Nat) : Nat :=
  if b < 2 * (a % b) ∨ (2 * (a % b) = b ∧ a / b % 2 = 1) then a / b + 1 else a / b

/-- The rank nearest to the magnitude `num / den`. -/
def nearestRank (num den : Nat) : Nat :=
  let step := (num * one / den).log2 - 52
  step * octave + divNearest (num * one) (den * Nat.pow 2 step)

/-- The number of a given sign and rank; ranks past the finite ones are infinite. -/
def ofRank (negative : Bool) (rank : Nat) : Number :=
  if h : rank < infinityRank then .finite negative rank h else .infinite negative

/-- The number nearest to `num / den`, with a sign. -/
def ofRatio (negative : Bool) (num den : Nat) : Number := ofRank negative (nearestRank num den)

/-- The number nearest to an integer. -/
def ofInt (n : Int) : Number := ofRatio (n < 0) n.natAbs 1

instance : Inhabited Number := ⟨ofInt 0⟩

def isFinite : Number → Bool
  | .finite .. => true
  | _ => false

/-- The place of a defined number on the line of all numbers. -/
def level? : Number → Option Int
  | .nan => none
  | .infinite negative => some (if negative then -infinityRank else infinityRank)
  | .finite negative rank _ => some (if negative then -rank else rank)

/-- How two defined numbers compare. -/
def compare? (a b : Number) : Option Ordering :=
  match a.level?, b.level? with
  | some x, some y => some (compare x y)
  | _, _ => none

/-- Whether two numbers are defined and the same; the two zeros are the same number. -/
def same (a b : Number) : Bool := a.compare? b = some .eq

def isZero (n : Number) : Bool := n.same (ofInt 0)

def isOne (n : Number) : Bool := n.same (ofInt 1)

/-- The integer that a number is. -/
def whole? : Number → Option Int
  | .finite negative rank _ =>
    if units rank % one = 0 then
      some (if negative then -(units rank / one : Nat) else (units rank / one : Nat))
    else none
  | _ => none

end Number

end RecordFilters
