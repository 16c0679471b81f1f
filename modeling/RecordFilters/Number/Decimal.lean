import RecordFilters.Number.Basic
import RecordFilters.Text.Digits

/-! # Numbers from decimal numerals

A decimal is a coefficient times a power of ten; a numeral stands for the number nearest to its
decimal. `Number.ofText?` reads the numerals in which condition values may be written. -/

namespace RecordFilters

/-- The decimal `± coefficient · 10 ^ exponent`. -/
structure Decimal where
  negative : Bool
  coefficient : Nat
  exponent : Int

namespace Decimal

open Text

/-- The decimal with the given digits on both sides of the point and a further power of ten. -/
def ofParts (negative : Bool) (whole fraction : List Char) (exponent : Int) : Decimal :=
  ⟨negative, digitsValue (whole ++ fraction), exponent - fraction.length⟩

/-- The nearest number. Decimals whose leading digit lies hundreds of places beyond the largest or
the smallest number are settled without computing their power of ten. -/
def toNumber (d : Decimal) : Number :=
  let places := d.exponent + (digits d.coefficient).length
  if d.coefficient = 0 then .ofRatio d.negative 0 1
  else if 400 < places then .infinite d.negative
  else if places < -400 then .ofRatio d.negative 0 1
  else if 0 ≤ d.exponent then .ofRatio d.negative (d.coefficient * Nat.pow 10 d.exponent.toNat) 1
  else .ofRatio d.negative d.coefficient (Nat.pow 10 (-d.exponent).toNat)

/-- An optional sign at the front. -/
def spanSign : List Char → Bool × List Char
  | '-' :: r => (true, r)
  | '+' :: r => (false, r)
  | r => (false, r)

/-- An optional power of ten, `e` or `E` followed by a signed integer. -/
def readExponent (cs : List Char) : Option (Int × List Char) :=
  match cs with
  | c :: r =>
    if c = 'e' ∨ c = 'E' then
      let (negative, r) := spanSign r
      let (ds, r) := spanDigits r
      if ds.isEmpty then none
      else some (if negative then -(digitsValue ds : Int) else digitsValue ds, r)
    else some (0, cs)
  | [] => some (0, [])

end Decimal

open Text Decimal in
/-- A number in the free grammar: a sign, then digits with a point anywhere and a power of ten, or
one of the words `inf`, `infinity` and `nan` in any case. -/
def Number.ofText? (s : String) : Option Number :=
  let (negative, cs) := spanSign s.toList
  let word := cs.map Char.toLower
  if word = "inf".toList ∨ word = "infinity".toList then some (.infinite negative)
  else if word = "nan".toList then some .nan
  else
    let (whole, r) := spanDigits cs
    let (fraction, r) := match r with
      | '.' :: r => spanDigits r
      | r => ([], r)
    if whole.isEmpty && fraction.isEmpty then none
    else match readExponent r with
      | some (exponent, []) => some (ofParts negative whole fraction exponent).toNumber
      | _ => none

end RecordFilters
