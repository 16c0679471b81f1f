/-! # Decimal digits

Reading and writing of the digits `0` to `9`, on lists of characters. -/

namespace RecordFilters.Text

/-- The number that digits spell; a character that is no digit has no rule of its own. -/
def digitsValue (cs : List Char) : Nat := cs.foldl (fun n c => 10 * n + (c.toNat - 48)) 0

/-- The digits at the front, and the rest. -/
def spanDigits (cs : List Char) : List Char × List Char :=
  (cs.takeWhile Char.isDigit, cs.dropWhile Char.isDigit)

/-- The digits of a number, without leading zeros. -/
def digits (n : Nat) : List Char := Nat.toDigits 10 n

/-- The digits of a number, with leading zeros up to `width` digits. -/
def paddedDigits (width n : Nat) : List Char :=
  List.replicate (width - (digits n).length) '0' ++ digits n

/-- The decimal numeral of an integer. -/
def numeral (n : Int) : List Char :=
  if n < 0 then '-' :: digits n.natAbs else digits n.natAbs

/-- The decimal numeral of an integer, as a text. -/
def ofInt (n : Int) : String := String.ofList (numeral n)

/-- The decimal numeral of a natural number, as a text. -/
def ofNat (n : Nat) : String := String.ofList (digits n)

end RecordFilters.Text
