/-!
Splitting text at a character. The parts are what stands between its occurrences, so there is one
part more than occurrences (`length_splitOn`).
-/
namespace Enrolment.Text

def growFirst (d : Char) : List (List Char) → List (List Char)
  | part :: parts => (d :: part) :: parts
  | [] => [[d]]

def splitOn (c : Char) (s : List Char) : List (List Char) :=
  s.foldr (fun d parts => if d = c then [] :: parts else growFirst d parts) [[]]

theorem splitOn_nil (c : Char) : splitOn c [] = [[]] := rfl

theorem splitOn_cons (c d : Char) (rest : List Char) :
    splitOn c (d :: rest) = if d = c then [] :: splitOn c rest else growFirst d (splitOn c rest) := rfl

theorem length_growFirst (d : Char) {parts : List (List Char)} (some : parts ≠ []) :
    (growFirst d parts).length = parts.length := by
  cases parts with
  | nil => exact absurd rfl some
  | cons part parts => rfl

theorem length_splitOn (c : Char) (s : List Char) : (splitOn c s).length = s.count c + 1 := by
  induction s with
  | nil => rfl
  | cons d rest ih =>
    rw [splitOn_cons]
    split
    · rename_i same
      simp [same, ih]
    · rename_i different
      rw [List.count_cons_of_ne (fun h => different h), length_growFirst, ih]
      intro none
      simp [none] at ih

end Enrolment.Text
