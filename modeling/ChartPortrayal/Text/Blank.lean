/-!
Blank characters and trimming. A character is blank when it has the Unicode property `White_Space`; the
byte order mark and the zero-width space do not have it.
-/

namespace ChartPortrayal.Text

/-- The ranges of code points with the property `White_Space`, first and last of each. -/
def blankRanges : List (Nat × Nat) :=
  [(0x09, 0x0D), (0x20, 0x20), (0x85, 0x85), (0xA0, 0xA0), (0x1680, 0x1680), (0x2000, 0x200A),
   (0x2028, 0x2029), (0x202F, 0x202F), (0x205F, 0x205F), (0x3000, 0x3000)]

def isBlank (char : Char) : Bool :=
  blankRanges.any (fun range => range.1 ≤ char.toNat && char.toNat ≤ range.2)

def trimChars (chars : List Char) : List Char :=
  ((chars.dropWhile isBlank).reverse.dropWhile isBlank).reverse

def trim (text : String) : String := String.ofList (trimChars text.toList)

end ChartPortrayal.Text
