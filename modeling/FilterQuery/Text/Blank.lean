/-!
# Blank characters

White space in the sense of the Unicode property `White_Space`, and what it means for a text to be
trimmed or to hold nothing else.

* `isBlank`: the property itself, twenty-five code points;
* `dropBlanks`, `trim`: a text without its leading blanks, or without those at either end;
* `allBlank`: a text of blanks only, the empty text included.
-/

namespace FilterQuery.Text

/-- The Unicode property `White_Space`. -/
def isBlank (c : Char) : Bool :=
  let n := c.toNat
  (9 ≤ n && n ≤ 13) || n == 0x20 || n == 0x85 || n == 0xA0 || n == 0x1680 ||
    (0x2000 ≤ n && n ≤ 0x200A) || n == 0x2028 || n == 0x2029 || n == 0x202F || n == 0x205F ||
    n == 0x3000

/-- The characters from the first that is not blank. -/
def dropBlanks (cs : List Char) : List Char := cs.dropWhile isBlank

/-- A text without the blanks at its two ends. -/
def trim (s : String) : String :=
  String.ofList (dropBlanks (dropBlanks s.toList).reverse).reverse

/-- Every character is blank. -/
def allBlank (s : String) : Bool := s.toList.all isBlank

end FilterQuery.Text
