/-
This file splits a text at a separator.
-/

namespace BenchmarkReport.Text

/-- A character joins the first of the pieces after it. -/
def joinFirst (symbol : Char) : List (List Char) → List (List Char)
  | [] => [[symbol]]
  | first :: others => (symbol :: first) :: others

/-- The pieces stand between the separators of a text. -/
def split (separator : Char) (text : List Char) : List (List Char) :=
  text.foldr
    (fun symbol later => if symbol = separator then [] :: later else joinFirst symbol later) [[]]

theorem split_nil (separator : Char) : split separator [] = [[]] := rfl

theorem split_cons (separator symbol : Char) (rest : List Char) :
    split separator (symbol :: rest) =
      if symbol = separator then [] :: split separator rest
      else joinFirst symbol (split separator rest) := rfl

theorem joinFirst_ne_nil (symbol : Char) (pieces : List (List Char)) :
    joinFirst symbol pieces ≠ [] := by
  cases pieces <;> simp [joinFirst]

theorem split_ne_nil (separator : Char) (text : List Char) : split separator text ≠ [] := by
  cases text with
  | nil => simp [split_nil]
  | cons symbol rest =>
      rw [split_cons]
      split
      · simp
      · exact joinFirst_ne_nil symbol (split separator rest)

end BenchmarkReport.Text
