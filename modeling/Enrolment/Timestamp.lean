import Enrolment.Text.Blank
import Enrolment.Text.Digits
/-!
Moments of Coordinated Universal Time to the nanosecond, and their text.

A leap second has no number of its own: it goes on counting the nanoseconds of the second before it,
from `10 ^ 9` on. That may be any second, though a clock only ever shows a leap second as the sixtieth of
its minute.

A moment is written as RFC 3339 asks, with `Z` and as many fraction digits as it needs out of 0, 3, 6
and 9. Reading is more lenient: short and signed years, blanks between the parts, any offset, and
the sixtieth second of a minute.
-/
namespace Enrolment

def leapYear (y : Int) : Bool := y % 4 == 0 && (y % 100 != 0 || y % 400 == 0)

def daysInMonth (y : Int) (m : Nat) : Nat :=
  if m == 2 then (if leapYear y then 29 else 28)
  else if m == 4 || m == 6 || m == 9 || m == 11 then 30
  else 31

/-- What is read off a calendar and a clock; it need not be any moment. -/
structure Reading where
  year : Int
  month : Nat
  day : Nat
  hour : Nat
  minute : Nat
  second : Nat
  /-- From `10 ^ 9` on, within the leap second that comes after this one. -/
  nanosecond : Nat
  deriving DecidableEq, Inhabited

def yearInRange (y : Int) : Bool := -262143 ≤ y && y ≤ 262142

def Reading.isValid (r : Reading) : Bool :=
  yearInRange r.year && 1 ≤ r.month && r.month ≤ 12 && 1 ≤ r.day && r.day ≤ daysInMonth r.year r.month &&
    r.hour ≤ 23 && r.minute ≤ 59 && r.second ≤ 59 && r.nanosecond ≤ 1999999999

structure Timestamp where
  reading : Reading
  valid : reading.isValid = true
  deriving DecidableEq

namespace Timestamp

def epoch : Timestamp := ⟨⟨1970, 1, 1, 0, 0, 0, 0⟩, by decide⟩

instance : Inhabited Timestamp := ⟨epoch⟩

def yearText (y : Int) : List Char :=
  if 0 ≤ y && y ≤ 9999 then Text.decimalFixed 4 y.toNat
  else
    let digits := Text.decimal y.natAbs
    (if y < 0 then '-' else '+') :: (List.replicate (4 - digits.length) '0' ++ digits)

def fractionText (n : Nat) : List Char :=
  if n = 0 then []
  else if n % 1000000 = 0 then '.' :: Text.decimalFixed 3 (n / 1000000)
  else if n % 1000 = 0 then '.' :: Text.decimalFixed 6 (n / 1000)
  else '.' :: Text.decimalFixed 9 n

/-- A leap second is written as the next second, whichever it comes after. -/
def toChars (r : Reading) : List Char :=
  yearText r.year ++ '-' :: Text.decimalFixed 2 r.month ++ '-' :: Text.decimalFixed 2 r.day ++
    'T' :: Text.decimalFixed 2 r.hour ++ ':' :: Text.decimalFixed 2 r.minute ++
    ':' :: Text.decimalFixed 2 (r.second + r.nanosecond / 1000000000) ++
    fractionText (r.nanosecond % 1000000000) ++ ['Z']

def toText (t : Timestamp) : String := String.ofList (toChars t.reading)

/-! ## Reading -/

def number (width : Option Nat) (s : List Char) : Option (Nat × List Char) :=
  let run := s.takeWhile Text.isDigit
  let taken := match width with
    | some w => run.take w
    | none => run
  if taken.isEmpty then none else some (Text.ofDigits taken, s.drop taken.length)

/-- Up to four digits, or a sign and any number of them. -/
def readYear (s : List Char) : Option (Int × List Char) :=
  match s with
  | '-' :: rest => (number none rest).map fun (n, rest) => (-(n : Int), rest)
  | '+' :: rest => (number none rest).map fun (n, rest) => ((n : Int), rest)
  | _ => (number (some 4) s).map fun (n, rest) => ((n : Int), rest)

def readPair (s : List Char) : Option (Nat × List Char) := number (some 2) (Text.dropBlank s)

def literal (c : Char) (s : List Char) : Option (List Char) :=
  match Text.dropBlank s with
  | d :: rest => if c == d then some rest else none
  | [] => none

/-- What stands between the date and the time. -/
def readMark (s : List Char) : Option (List Char) :=
  match s with
  | 'T' :: rest => some rest
  | 't' :: rest => some rest
  | ' ' :: rest => some rest
  | _ => none

/-- Nine digits count; further ones are read over. -/
def readFraction (s : List Char) : Option (Nat × List Char) :=
  match s with
  | '.' :: rest => do
    let (n, after) ← number (some 9) rest
    let width := rest.length - after.length
    return (n * Nat.pow 10 (9 - width), after.dropWhile Text.isDigit)
  | _ => some (0, s)

/-- The offset from UTC in minutes. -/
def readOffset (s : List Char) : Option (Int × List Char) :=
  match s with
  | a :: b :: c :: rest =>
    if [a, b, c].map Char.toLower == ['u', 't', 'c'] then some (0, rest) else numeric s
  | _ => numeric s
where
  numeric (s : List Char) : Option (Int × List Char) :=
    match s with
    | 'Z' :: rest => some (0, rest)
    | 'z' :: rest => some (0, rest)
    | '+' :: rest => amount 1 rest
    | '-' :: rest => amount (-1) rest
    | '\u2212' :: rest => amount (-1) rest
    | _ => none
  amount (sign : Int) (s : List Char) : Option (Int × List Char) :=
    match s with
    | a :: b :: rest =>
      if Text.isDigit a && Text.isDigit b then
        match rest.dropWhile (fun c => c == ':' || Text.isBlank c) with
        | c :: d :: rest =>
          if Text.isDigit c && c ≤ '5' && Text.isDigit d then
            some (sign * (60 * Text.ofDigits [a, b] + Text.ofDigits [c, d] : Nat), rest)
          else none
        | _ => none
      else none
    | _ => none

def nextDay (y : Int) (m d : Nat) : Int × Nat × Nat :=
  if d < daysInMonth y m then (y, m, d + 1)
  else if m < 12 then (y, m + 1, 1)
  else (y + 1, 1, 1)

def previousDay (y : Int) (m d : Nat) : Int × Nat × Nat :=
  if 1 < d then (y, m, d - 1)
  else if 1 < m then (y, m - 1, daysInMonth y (m - 1))
  else (y - 1, 12, 31)

/-- The sixtieth second of a minute is the leap second after the one before. -/
def ofClock (r : Reading) : Reading :=
  if r.second = 60 then { r with second := 59, nanosecond := 1000000000 + r.nanosecond } else r

def ofReading? (r : Reading) : Option Timestamp := if valid : r.isValid = true then some ⟨r, valid⟩ else none

/-- The same moment on the clock of UTC, given the local offset in minutes; an offset of a day or
more is refused. -/
def toUtc (r : Reading) (offset : Int) : Option Timestamp :=
  if offset ≤ -1440 || 1440 ≤ offset then none
  else
    let minutes : Int := 60 * r.hour + r.minute - offset
    let (y, m, d) :=
      if minutes < 0 then previousDay r.year r.month r.day
      else if 1440 ≤ minutes then nextDay r.year r.month r.day
      else (r.year, r.month, r.day)
    let clock := (minutes % 1440).toNat
    ofReading? { r with year := y, month := m, day := d, hour := clock / 60, minute := clock % 60 }

def ofChars? (s : List Char) : Option Timestamp := do
  let (year, s) ← readYear (Text.dropBlank s)
  let s ← literal '-' s
  let (month, s) ← readPair s
  let s ← literal '-' s
  let (day, s) ← readPair s
  let s ← readMark s
  let (hour, s) ← readPair s
  let s ← literal ':' s
  let (minute, s) ← readPair s
  let s ← literal ':' s
  let (second, s) ← readPair s
  let (nanosecond, s) ← readFraction s
  let (offset, s) ← readOffset (Text.dropBlank s)
  if (Text.dropBlank s).isEmpty then
    let r := ofClock ⟨year, month, day, hour, minute, second, nanosecond⟩
    if r.isValid then toUtc r offset else none
  else none

def ofText? (text : String) : Option Timestamp := ofChars? text.toList

end Timestamp
end Enrolment
