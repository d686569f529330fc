import Enrolment.Json.Printer
/-!
The text of a JSON document for people: each item and member on a line of its own, indented by two
blanks for every bracket around it.
-/
namespace Enrolment.Json

def newLine (depth : Nat) : List Char := '\n' :: List.replicate (2 * depth) ' '

mutual

def indentedChars (depth : Nat) : Json → List Char
  | .arr (item :: rest) =>
    '[' :: (newLine (depth + 1) ++ indentedChars (depth + 1) item ++ indentedItems (depth + 1) rest ++
      newLine depth ++ [']'])
  | .obj ((name, value) :: rest) =>
    '\x7b' :: (newLine (depth + 1) ++ stringChars name ++ ':' :: ' ' :: indentedChars (depth + 1) value ++
      indentedMembers (depth + 1) rest ++ newLine depth ++ ['\x7d'])
  | j => j.toChars

def indentedItems (depth : Nat) : List Json → List Char
  | [] => []
  | item :: rest => ',' :: (newLine depth ++ indentedChars depth item ++ indentedItems depth rest)

def indentedMembers (depth : Nat) : List (String × Json) → List Char
  | [] => []
  | (name, value) :: rest =>
    ',' :: (newLine depth ++ stringChars name ++ ':' :: ' ' :: indentedChars depth value ++
      indentedMembers depth rest)

end

def renderIndented (j : Json) : String := String.ofList (j.indentedChars 0)

end Enrolment.Json
