/-!
# Cutting text into pieces

A text is cut at separators: `pieces` cuts at every one of them, `cut` at the first.  Between two
neighbouring separators lies an empty piece.
-/

namespace FluxCorpus.Text

/-- The pieces of a text between its separators; there is always at least one. -/
def pieces (isSeparator : Char → Bool) : List Char → List (List Char)
  | [] => [[]]
  | c :: cs =>
    if isSeparator c then [] :: pieces isSeparator cs
    else match pieces isSeparator cs with
      | p :: ps => (c :: p) :: ps
      | [] => [[c]]

/-- The text before the first separator, and the text behind it if there is one. -/
def cut (separator : Char) : List Char → List Char × Option (List Char)
  | [] => ([], none)
  | c :: cs =>
    if c = separator then ([], some cs)
    else
      let (before, behind) := cut separator cs
      (c :: before, behind)

/-- A text without the characters of a class at either end. -/
def trim (isBlank : Char → Bool) (cs : List Char) : List Char :=
  ((cs.dropWhile isBlank).reverse.dropWhile isBlank).reverse

/-- The pieces put together again with a separator between them. -/
def join (separator : List Char) : List (List Char) → List Char
  | [] => []
  | [p] => p
  | p :: ps => p ++ separator ++ join separator ps

theorem pieces_ne_nil (isSeparator : Char → Bool) (cs : List Char) :
    pieces isSeparator cs ≠ [] := by
  fun_cases pieces isSeparator cs <;> simp

end FluxCorpus.Text
