/-!
# Texts cut at a separator

* `pieces`: the parts of a list of characters between the occurrences of a separator, the first
  apart from the others, since there is always one;
* `joined`: texts written one after the other with a separator between them.
-/

namespace FilterQuery.Text

/-- The part before the first separator, and the parts after it. -/
def pieces (sep : Char) : List Char → List Char × List (List Char)
  | [] => ([], [])
  | c :: cs =>
    let (first, rest) := pieces sep cs
    if c = sep then ([], first :: rest) else (c :: first, rest)

@[simp] theorem pieces_nil (sep : Char) : pieces sep [] = ([], []) := rfl

theorem pieces_cons_self (sep : Char) (cs : List Char) :
    pieces sep (sep :: cs) = ([], (pieces sep cs).1 :: (pieces sep cs).2) := by
  simp [pieces]

theorem pieces_cons_of_ne {sep c : Char} (h : c ≠ sep) (cs : List Char) :
    pieces sep (c :: cs) = (c :: (pieces sep cs).1, (pieces sep cs).2) := by
  simp [pieces, h]

/-- The texts in order, with `sep` between each two. -/
def joined (sep : String) : List String → String
  | [] => ""
  | [s] => s
  | s :: t :: rest => s ++ sep ++ joined sep (t :: rest)

end FilterQuery.Text
