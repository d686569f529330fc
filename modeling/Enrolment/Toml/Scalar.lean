import Enrolment.Text.Magnitude
import Enrolment.Timestamp
import Enrolment.Toml.Basic
/-!
Values that are one word: integers, reals, truth values, dates and times.
-/
namespace Enrolment.Toml

/-- Digits with single underscores between them. -/
def joined? (isDigit : Char → Bool) : List Char → Option (List Char)
  | [] => none
  | [c] => if isDigit c then some [c] else none
  | c :: '_' :: rest => if isDigit c then (joined? isDigit rest).map (c :: ·) else none
  | c :: rest => if isDigit c then (joined? isDigit rest).map (c :: ·) else none

def inBase (base : Nat) (digits : List Char) : Nat :=
  digits.foldl (fun n c => base * n + (Text.hexValue? c).getD 0) 0

def isDigitOf (base : Nat) (c : Char) : Bool := (Text.hexValue? c).any (· < base)

def splitSign : List Char → Bool × List Char
  | '-' :: rest => (true, rest)
  | '+' :: rest => (false, rest)
  | s => (false, s)

/-- A decimal numeral. No numeral but zero starts with the digit zero. -/
def whole? (s : List Char) : Option (List Char) :=
  match joined? Text.isDigit s with
  | some ('0' :: _ :: _) => none
  | digits => digits

/-- Integers have 64 bits. -/
def integer? (word : List Char) : Option Int :=
  let n? : Option Int := match word with
    | '0' :: 'x' :: rest => (joined? (isDigitOf 16) rest).map fun digits => inBase 16 digits
    | '0' :: 'o' :: rest => (joined? (isDigitOf 8) rest).map fun digits => inBase 8 digits
    | '0' :: 'b' :: rest => (joined? (isDigitOf 2) rest).map fun digits => inBase 2 digits
    | _ =>
      let (negative, rest) := splitSign word
      (whole? rest).map fun digits => if negative then -(Text.ofDigits digits : Int) else Text.ofDigits digits
  n?.filter fun n => Int64.minValue.toInt ≤ n && n ≤ Int64.maxValue.toInt

private def exponent? : List Char → Option Int
  | [] => some 0
  | _ :: s =>
    let (negative, rest) := splitSign s
    (joined? Text.isDigit rest).map fun digits =>
      if negative then -(Text.ofDigits digits : Int) else Text.ofDigits digits

/-- A number with a fraction, an exponent or both. One above the largest double is refused, and one
below the smallest is not. -/
def isReal (word : List Char) : Bool :=
  let (negative, s) := splitSign word
  if s = "inf".toList || s = "nan".toList then true
  else
    let mantissa := s.takeWhile fun c => c ≠ 'e' && c ≠ 'E'
    let scale := s.drop mantissa.length
    let front := mantissa.takeWhile (· ≠ '.')
    let fraction? := match mantissa.drop front.length with
      | [] => if scale.isEmpty then none else some []
      | _ :: digits => joined? Text.isDigit digits
    match whole? front, fraction?, exponent? scale with
    | some whole, some fraction, some exponent =>
      negative || Text.fitsDouble (Text.ofDigits (whole ++ fraction)) (exponent - fraction.length)
    | _, _, _ => false

/-! ## Dates and times -/

def readField (width low high : Nat) (s : List Char) : Option (Nat × List Char) :=
  match Text.natural? (s.take width) with
  | some n =>
    if (s.take width).length = width && low ≤ n && n ≤ high then some (n, s.drop width) else none
  | none => none

def expect (c : Char) : List Char → Option (List Char)
  | d :: rest => if d = c then some rest else none
  | [] => none

def readDate (s : List Char) : Option (List Char) := do
  let (year, s) ← readField 4 0 9999 s
  let (month, s) ← readField 2 1 12 (← expect '-' s)
  let (_, s) ← readField 2 1 (daysInMonth year month) (← expect '-' s)
  return s

/-- Seconds go to sixty, for leap seconds. -/
def readClock (s : List Char) : Option (List Char) := do
  let (_, s) ← readField 2 0 23 s
  let (_, s) ← readField 2 0 59 (← expect ':' s)
  let (_, s) ← readField 2 0 60 (← expect ':' s)
  match s with
  | '.' :: rest =>
    let fraction := rest.takeWhile Text.isDigit
    if fraction.isEmpty then none else some (rest.drop fraction.length)
  | _ => some s

def isOffset (s : List Char) : Bool :=
  match s with
  | [] => true
  | ['Z'] => true
  | ['z'] => true
  | sign :: s =>
    (sign = '+' || sign = '-') &&
      ((do let (_, s) ← readField 2 0 23 s
           let (_, s) ← readField 2 0 59 (← expect ':' s)
           return s) : Option (List Char)) = some []

def isTime (word : List Char) : Bool :=
  match readDate word with
  | some [] => true
  | some (c :: rest) => (c = 'T' || c = 't' || c = ' ') && (readClock rest).any isOffset
  | none => readClock word = some []

/-! ## Words -/

def isWordChar (c : Char) : Bool := c.isAlphanum || c = '_' || c = '+' || c = '-' || c = '.' || c = ':'

/-- The word in front. A blank and a digit behind a date go on with the time of day. -/
def readWord (s : List Char) : List Char × List Char :=
  let word := s.takeWhile isWordChar
  match s.drop word.length with
  | ' ' :: d :: more =>
    if Text.isDigit d && readDate word = some [] then
      let clock := (d :: more).takeWhile isWordChar
      (word ++ ' ' :: clock, (d :: more).drop clock.length)
    else (word, ' ' :: d :: more)
  | rest => (word, rest)

def scalar? (word : List Char) : Option Value :=
  if word = "true".toList then some (.boolean true)
  else if word = "false".toList then some (.boolean false)
  else
    match integer? word with
    | some n => some (.integer n)
    | none =>
      if isReal word then some (.real (String.ofList word))
      else if isTime word then some (.time (String.ofList word))
      else none

end Enrolment.Toml
