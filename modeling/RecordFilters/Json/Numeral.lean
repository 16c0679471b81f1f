import RecordFilters.Json.Basic
import RecordFilters.Number.Decimal

/-! # JSON numerals

An integer between `-2 ^ 63` and `2 ^ 64 - 1` is exact. Any other numeral stands for a floating
point number that is found in rounded steps: the leading digits that fit into 64 bits make one
number, the power of ten is another, and their product or quotient is the result. With up to fifteen
digits and a power of ten up to `10 ^ 22` this is the nearest number; beyond, the last place may
differ. A numeral whose number would be infinite stands for nothing. -/

namespace RecordFilters.Json

open Text Decimal Number

/-- The rank of a power of ten as a number. -/
def powerRank (power : Nat) : Nat := nearestRank (Nat.pow 10 power) 1

/-- A magnitude times a power of ten, by rank. -/
def scaleUp (rank power : Nat) : Nat :=
  nearestRank (units rank * units (powerRank power)) (one * one)

/-- A magnitude divided by a power of ten, by rank. -/
def scaleDown (rank power : Nat) : Nat := nearestRank (units rank) (units (powerRank power))

/-- The rank of a coefficient of at most 64 bits times a power of ten. The greatest power of ten
among the numbers is `10 ^ 308`, so smaller magnitudes take two divisions; after two divisions by it
nothing is left. -/
def scaledRank (coefficient : Nat) (exponent : Int) : Nat :=
  let rank := nearestRank coefficient 1
  if coefficient = 0 ∨ exponent < -616 then 0
  else if 308 < exponent then infinityRank
  else if 0 ≤ exponent then scaleUp rank exponent.toNat
  else if -308 ≤ exponent then scaleDown rank (-exponent).toNat
  else scaleDown (scaleDown rank 308) (-exponent - 308).toNat

/-- A coefficient continued by digits as long as it fits into 64 bits, and the digits left over. -/
def continueDigits (coefficient : Nat) : List Char → Nat × List Char
  | [] => (coefficient, [])
  | c :: r =>
    let next := 10 * coefficient + (c.toNat - 48)
    if next < UInt64.size then continueDigits next r else (coefficient, c :: r)

/-- The number of a numeral with the given digits on both sides of the point, if it is finite. -/
def floating? (negative : Bool) (whole fraction : List Char) (exponent : Int) : Option Json :=
  let (coefficient, left) := continueDigits 0 whole
  let (coefficient, unused) := continueDigits coefficient fraction
  let places : Int := left.length + unused.length - fraction.length
  let n := ofRank negative (scaledRank coefficient (exponent + places))
  if n.isFinite then some (.real n) else none

/-- What a numeral stands for, if it is one. The zero with a sign is no integer. -/
def readNumeral (cs : List Char) : Option (Option Json) :=
  let (negative, cs) := match cs with
    | '-' :: r => (true, r)
    | r => (false, r)
  let (ds, r) := spanDigits cs
  match ds, r with
  | [], _ => none
  | '0' :: _ :: _, _ => none
  | _, [] =>
    let n := digitsValue ds
    if negative ∧ n ≠ 0 ∧ leastWhole ≤ -n then some (some (.whole (-n)))
    else if !negative ∧ n < UInt64.size then some (some (.whole n))
    else some (floating? negative ds [] 0)
  | _, '.' :: r =>
    let (fraction, r) := spanDigits r
    if fraction.isEmpty then none
    else match readExponent r with
      | some (exponent, []) => some (floating? negative ds fraction exponent)
      | _ => none
  | _, r =>
    match readExponent r with
    | some (exponent, []) => some (floating? negative ds [] exponent)
    | _ => none

/-- Characters of which numerals consist. -/
def isNumeralChar (c : Char) : Bool :=
  c.isDigit || c = '-' || c = '+' || c = '.' || c = 'e' || c = 'E'

end RecordFilters.Json
