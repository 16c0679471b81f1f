import RecordFilters.Index

/-! # Stable identities

Identities of 128 bits, written as 32 hexadecimal digits in groups of 8, 4, 4, 4 and 12. A text may
also leave the dashes out, put braces around the groups or the word `urn:uuid:` in front of them.
The case of letters does not matter. -/

namespace RecordFilters

structure Uuid where
  bits : BitVec 128
  deriving DecidableEq

namespace Uuid

instance : KeyOrder Uuid := KeyOrder.lift (fun u : Uuid => u.bits.toNat) fun a b h => by
  cases a; cases b; exact congrArg Uuid.mk (BitVec.eq_of_toNat_eq h)

/-- The value of a hexadecimal digit in either case. -/
def hexDigit? (c : Char) : Option Nat :=
  if c.isDigit then some (c.toNat - 48)
  else if 'a' ≤ c ∧ c ≤ 'f' then some (c.toNat - 87)
  else if 'A' ≤ c ∧ c ≤ 'F' then some (c.toNat - 55)
  else none

/-- The identity that 32 hexadecimal digits spell. -/
def ofDigits? (cs : List Char) : Option Uuid :=
  if cs.length = 32 then
    (cs.mapM hexDigit?).map fun ds => ⟨.ofNat 128 (ds.foldl (fun n d => 16 * n + d) 0)⟩
  else none

/-- The identity written in dashed groups. -/
def ofGroups? (cs : List Char) : Option Uuid :=
  if cs.length = 36 ∧ cs[8]? = some '-' ∧ cs[13]? = some '-' ∧ cs[18]? = some '-' ∧
      cs[23]? = some '-' then
    ofDigits? (cs.take 8 ++ (cs.drop 9).take 4 ++ (cs.drop 14).take 4 ++ (cs.drop 19).take 4 ++
      cs.drop 24)
  else none

/-- The identity that a text names. -/
def ofText? (s : String) : Option Uuid :=
  let cs := s.toList
  match cs.length with
  | 32 => ofDigits? cs
  | 36 => ofGroups? cs
  | 38 => if cs.head? = some '\x7b' ∧ cs.getLast? = some '\x7d' then
      ofGroups? ((cs.drop 1).take 36)
    else none
  | 45 => if (cs.take 9).map Char.toLower = "urn:uuid:".toList then ofGroups? (cs.drop 9) else none
  | _ => none

/-- The dashed groups, in small letters. -/
def toText (u : Uuid) : String :=
  let digits := Nat.toDigits 16 u.bits.toNat
  let cs := List.replicate (32 - digits.length) '0' ++ digits
  String.ofList (cs.take 8 ++ '-' :: (cs.drop 8).take 4 ++ '-' :: (cs.drop 12).take 4 ++
    '-' :: (cs.drop 16).take 4 ++ '-' :: cs.drop 20)

end Uuid

end RecordFilters
