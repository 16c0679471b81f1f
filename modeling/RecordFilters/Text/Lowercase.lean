import RecordFilters.Text.Lowercase.Cased
import RecordFilters.Text.Lowercase.Mapping

/-! # Lower case

Full Unicode lowering of a text. Every character goes to its small partner, but for two: the dotted
capital `İ` becomes an `i` with a combining dot, and a capital sigma becomes `ς` at the end of a
word and `σ` elsewhere. -/

namespace RecordFilters.Text

/-- Whether the nearest character that is not passed over has a case. -/
def nextIsCased (cs : List Char) : Bool :=
  match cs.dropWhile isCaseIgnorable with
  | c :: _ => isCased c
  | [] => false

/-- Lowers a list of characters that stands after `before`, which is given in reverse. -/
def lowerAfter (before : List Char) : List Char → List Char
  | [] => []
  | c :: r =>
    (if c = 'Σ' then
      if nextIsCased before && !nextIsCased r then ['ς'] else ['σ']
    else if c = 'İ' then ['i', '\u0307']
    else [lowerPartner c]) ++ lowerAfter (c :: before) r

/-- A text in lower case. -/
def lowercase (s : String) : String := String.ofList (lowerAfter [] s.toList)

set_option maxRecDepth 4000 in
example : lowercase "ΟΔΟΣ ΣΑΣ" = "οδος σας" := by rfl

end RecordFilters.Text
