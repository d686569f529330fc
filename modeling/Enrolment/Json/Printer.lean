import Enrolment.Json.Basic
import Enrolment.Text.Digits
/-!
The compact text of a JSON document: no blanks, members in order, and only those characters escaped
that must be.
-/
namespace Enrolment.Json

def escaped (c : Char) : List Char :=
  if c = '"' then ['\\', '"']
  else if c = '\\' then ['\\', '\\']
  else if c = '\n' then ['\\', 'n']
  else if c = '\r' then ['\\', 'r']
  else if c = '\t' then ['\\', 't']
  else if c.toNat = 8 then ['\\', 'b']
  else if c.toNat = 12 then ['\\', 'f']
  else if c.toNat < 32 then '\\' :: 'u' :: Text.hexFixed 4 c.toNat
  else [c]

def stringChars (s : String) : List Char := '"' :: (s.toList.flatMap escaped ++ ['"'])

def integerChars : Int → List Char
  | .ofNat n => Text.decimal n
  | .negSucc n => '-' :: Text.decimal (n + 1)

def realChars (negative : Bool) (digits : Nat) (exponent : Int) : List Char :=
  let body :=
    match exponent with
    | .ofNat e => Text.decimal (digits * Nat.pow 10 e) ++ ['.', '0']
    | .negSucc e =>
      Text.decimal (digits / Nat.pow 10 (e + 1)) ++ '.' :: Text.decimalFixed (e + 1) digits
  if negative then '-' :: body else body

mutual

def toChars : Json → List Char
  | .null => ['n', 'u', 'l', 'l']
  | .bool true => ['t', 'r', 'u', 'e']
  | .bool false => ['f', 'a', 'l', 's', 'e']
  | .int n => integerChars n
  | .real s d e => realChars s d e
  | .str s => stringChars s
  | .void => ['n', 'u', 'l', 'l']
  | .arr [] => ['[', ']']
  | .arr (item :: rest) => '[' :: (toChars item ++ itemsTail rest)
  | .obj [] => ['\x7b', '\x7d']
  | .obj ((name, value) :: rest) =>
    '\x7b' :: (stringChars name ++ ':' :: (toChars value ++ membersTail rest))

/-- What follows an item: the rest of the items and the closing bracket. -/
def itemsTail : List Json → List Char
  | [] => [']']
  | item :: rest => ',' :: (toChars item ++ itemsTail rest)

def membersTail : List (String × Json) → List Char
  | [] => ['\x7d']
  | (name, value) :: rest => ',' :: (stringChars name ++ ':' :: (toChars value ++ membersTail rest))

end

def render (j : Json) : String := String.ofList j.toChars

end Enrolment.Json
