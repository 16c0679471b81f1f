/-! # Blanks

The characters that count as white space in Unicode, and texts without blanks at their ends. -/

namespace RecordFilters.Text

/-- Unicode white space. -/
def isBlank (c : Char) : Bool :=
  let n := c.toNat
  (0x9 ≤ n && n ≤ 0xD) || n = 0x20 || n = 0x85 || n = 0xA0 || n = 0x1680 ||
    (0x2000 ≤ n && n ≤ 0x200A) || n = 0x2028 || n = 0x2029 || n = 0x202F || n = 0x205F || n = 0x3000

/-- A list of characters without the blanks at its front. -/
def dropBlanks (cs : List Char) : List Char := cs.dropWhile isBlank

/-- A list of characters without the blanks at both ends. -/
def trimBlanks (cs : List Char) : List Char := (dropBlanks (dropBlanks cs).reverse).reverse

/-- A text without the blanks at both ends. -/
def trim (s : String) : String := String.ofList (trimBlanks s.toList)

/-- Whether a text holds nothing but blanks. -/
def isBlankText (s : String) : Bool := s.toList.all isBlank

end RecordFilters.Text
