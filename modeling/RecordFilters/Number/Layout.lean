import RecordFilters.Number.Shortest

/-! # Printed numbers

One layout for each place where numbers are written: stored documents, error texts and the text
form of a value. All of them write the fewest digits that read back; halfway between two decimals,
stored documents take the even one and texts for people the greater one. -/

namespace RecordFilters

/-- How the digits of a number are laid out. -/
structure NumberLayout where
  /-- Whether a magnitude with this many places before the point is written without an exponent. -/
  positional : Int → Bool
  /-- Whether a whole number still shows a point and a zero. -/
  pointed : Bool
  /-- Whether a positive exponent shows its sign. -/
  signedExponent : Bool
  /-- Which of two equally near decimals is written. -/
  tie : Number.Tie

namespace NumberLayout

open Text

/-- Stored documents: positional from `0.00001` up to sixteen digits. -/
def stored : NumberLayout := ⟨fun p => -5 < p ∧ p ≤ 16, true, true, .even⟩

/-- Error texts: positional from `0.0001` up to sixteen digits. -/
def quoted : NumberLayout := ⟨fun p => -4 < p ∧ p ≤ 16, true, false, .up⟩

/-- Text forms: always positional. -/
def plain : NumberLayout := ⟨fun _ => true, false, false, .up⟩

/-- Digits of which `places` stand before the point, without an exponent. -/
def writePositional (pointed : Bool) (ds : List Char) (places : Int) : List Char :=
  if places ≤ 0 then '0' :: '.' :: (List.replicate (-places).toNat '0' ++ ds)
  else if ds.length ≤ places.toNat then
    ds ++ List.replicate (places.toNat - ds.length) '0' ++ if pointed then ['.', '0'] else []
  else ds.take places.toNat ++ '.' :: ds.drop places.toNat

/-- Digits of which `places` stand before the point, with one digit before the point and an
exponent. -/
def writeExponential (signed : Bool) (ds : List Char) (places : Int) : List Char :=
  let exponent := places - 1
  ds.take 1 ++ (if ds.length ≤ 1 then [] else '.' :: ds.drop 1) ++
    'e' :: ((if signed ∧ 0 ≤ exponent then ['+'] else []) ++ numeral exponent)

def writeMagnitude (layout : NumberLayout) (rank : Nat) : List Char :=
  if rank = 0 then if layout.pointed then ['0', '.', '0'] else ['0']
  else
    let (ds, places) := Number.shortestDigits layout.tie rank
    if layout.positional places then writePositional layout.pointed ds places
    else writeExponential layout.signedExponent ds places

/-- A number in a layout; the words for the others are `inf` and `NaN`. -/
def write (layout : NumberLayout) : Number → String
  | .nan => "NaN"
  | .infinite negative => if negative then "-inf" else "inf"
  | .finite negative rank _ =>
    String.ofList ((if negative then ['-'] else []) ++ layout.writeMagnitude rank)

end NumberLayout

/-- The text form of a number: a whole number is written as an integer, held within the 64-bit
integers; any other in its plain layout. -/
def Number.toText (n : Number) : String :=
  match n.whole? with
  | some i => Text.ofInt (max leastWhole (min i greatestWhole))
  | none => NumberLayout.plain.write n

end RecordFilters
