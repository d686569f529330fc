import Enrolment.Text.Magnitude
import Enrolment.Text.Utf8
/-!
Cells of database tables. A cell can hold a value of any kind; its column prefers one kind, and turns
what is written into it where nothing is lost by that (`Affinity.store`). What a cell holds is read as
it is: a number is no text, and bytes are no text either, but text can be read as bytes.
-/
namespace Enrolment.Store

inductive Cell where
  | null
  | text (s : String)
  | blob (bytes : Bytes)
  | integer (n : Int64)
  /-- A number that is not one of these integers. -/
  | real
  deriving DecidableEq, Inhabited

/-- The kind of value that a column prefers; a column of bytes takes all as it comes. -/
inductive Affinity where
  | text
  | integer
  | bytes
  deriving DecidableEq, Inhabited

/-! ## Numerals in cells -/

namespace Cell

def isSpace (c : Char) : Bool := c = ' ' || (9 ≤ c.toNat && c.toNat ≤ 13)

/-- Powers of ten beyond this are all alike. -/
def exponentLimit : Nat := 10000

def exponent? : List Char → Option Int
  | [] => some 0
  | 'e' :: rest | 'E' :: rest =>
    match rest with
    | '-' :: digits => (Text.natural? digits).map fun n => -(min n exponentLimit : Nat)
    | '+' :: digits => (Text.natural? digits).map fun n => (min n exponentLimit : Nat)
    | digits => (Text.natural? digits).map fun n => (min n exponentLimit : Nat)
  | _ => none

def ofInt (n : Int) : Cell :=
  if Int64.minValue.toInt ≤ n && n ≤ Int64.maxValue.toInt then integer (Int64.ofInt n) else real

/-- A number that is written with a point or an exponent: an integer if the nearest double is one, the
outermost integers left out. -/
def ofDecimal (negative : Bool) (digits : Nat) (exponent : Int) : Cell :=
  let double := match exponent with
    | .ofNat e => if digits = 0 then some 0 else if 20 < e then none else Text.wholeDouble? (digits * Nat.pow 10 e) 1
    | .negSucc e => Text.wholeDouble? digits (Nat.pow 10 (e + 1))
  match double with
  | some n => if n < Nat.pow 2 63 then integer (Int64.ofInt (if negative then -n else n)) else real
  | none => real

/-- The number that a text is, if it is one; blanks around it do not matter. -/
def ofNumeral? (s : List Char) : Option Cell :=
  let s := ((s.dropWhile isSpace).reverse.dropWhile isSpace).reverse
  let (negative, s) := match s with
    | '-' :: rest => (true, rest)
    | '+' :: rest => (false, rest)
    | rest => (false, rest)
  let whole := s.takeWhile Text.isDigit
  match s.dropWhile Text.isDigit with
  | [] =>
    (Text.natural? whole).map fun n => ofInt (if negative then -(n : Int) else n)
  | '.' :: rest =>
    let fraction := rest.takeWhile Text.isDigit
    if (whole ++ fraction).isEmpty then none
    else
      (exponent? (rest.dropWhile Text.isDigit)).map fun e =>
        ofDecimal negative (Text.ofDigits (whole ++ fraction)) (e - fraction.length)
  | rest =>
    if whole.isEmpty then none else (exponent? rest).map (ofDecimal negative (Text.ofDigits whole))

end Cell

def Affinity.store : Affinity → Cell → Cell
  | text, .integer n => .text (Text.integerText n.toInt)
  | integer, .text s => (Cell.ofNumeral? s.toList).getD (.text s)
  | _, cell => cell

/-! ## Reading -/

namespace Cell

def text? : Cell → Option String
  | text s => some s
  | _ => none

def bytes? : Cell → Option Bytes
  | blob bytes => some bytes
  | text s => some (Text.utf8 s)
  | _ => none

def integer? : Cell → Option Int64
  | integer n => some n
  | _ => none

def optional? {α : Type} (read : Cell → Option α) : Cell → Option (Option α)
  | null => some none
  | cell => (read cell).map some

end Cell
end Enrolment.Store
