/-! Cutting a text at separators, and cutting its end off. -/

namespace JobWatch.Text

/-- The parts of a text between the separators. There is one more part than separators. -/
def split (isSeparator : Char → Bool) : List Char → List (List Char)
  | [] => [[]]
  | c :: rest =>
    if isSeparator c then [] :: split isSeparator rest
    else
      match split isSeparator rest with
      | [] => [[c]]
      | part :: parts => (c :: part) :: parts

/-- A list up to its last item that fails the test. -/
def dropTrailing (test : α → Bool) (items : List α) : List α :=
  (items.reverse.dropWhile test).reverse

end JobWatch.Text
