import FilterQuery.Text.CaseTable

/-!
# Lower case

Full lower-casing of texts by the Unicode rules that hold in every language. A character maps on its
own, with one exception: a capital sigma that ends a word becomes the final form of the letter.

* `lowercase`: a whole text;
* `asciiLowercase`, `asciiUppercase`: only the letters `A` to `Z` change;
* `endsWord`: the condition for the final sigma, read off the characters on either side.
-/

namespace FilterQuery.Text

/-- A code point lies in one of the ranges. -/
def inRanges (ranges : List (Nat × Nat)) (n : Nat) : Bool :=
  ranges.any fun (lo, hi) => lo ≤ n && n ≤ hi

def isCased (c : Char) : Bool := inRanges casedRanges c.toNat

def isCaseIgnorable (c : Char) : Bool := inRanges caseIgnorableRanges c.toNat

/-- The run of the table that lists a code point. -/
def caseRun? (n : Nat) : Option CaseRun :=
  caseRuns.find? fun r => r.first ≤ n && n ≤ r.last && (n - r.first) % r.stride == 0

/-- The lower-case form of a character that stands alone. The dotted capital I is the only one to
become two characters. -/
def lowerChar (c : Char) : List Char :=
  let n := c.toNat
  if n < 0x80 then [c.toLower]
  else if n = 0x130 then ['i', '\u0307']
  else match caseRun? n with
    | some r => [Char.ofNat ((n : Int) + r.shift).toNat]
    | none => [c]

/-- The nearest character that is not case-ignorable is a letter with case. -/
def nextIsCased (cs : List Char) : Bool :=
  match cs.dropWhile isCaseIgnorable with
  | [] => false
  | c :: _ => isCased c

/-- A sigma with `before` (nearest first) and `after` around it ends a word. -/
def endsWord (before after : List Char) : Bool := nextIsCased before && !nextIsCased after

/-- Lower-case the rest of a text whose characters so far were `before`, nearest first. -/
def lowercaseFrom (before : List Char) : List Char → List Char
  | [] => []
  | c :: cs =>
    let form := if c = 'Σ' then [if endsWord before cs then 'ς' else 'σ'] else lowerChar c
    form ++ lowercaseFrom (c :: before) cs

/-- A text in lower case. -/
def lowercase (s : String) : String := String.ofList (lowercaseFrom [] s.toList)

/-- A text with `A` to `Z` in lower case. -/
def asciiLowercase (s : String) : String := s.map Char.toLower

/-- A text with `a` to `z` in upper case. -/
def asciiUppercase (s : String) : String := s.map Char.toUpper

end FilterQuery.Text
