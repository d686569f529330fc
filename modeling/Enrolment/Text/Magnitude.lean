import Enrolment.Text.Digits
/-!
The size of decimal numerals: which of them a double can hold, infinity not counted, and which are read
as whole numbers.

A numeral can be read in one step, rounded once (`fitsDouble`), or as its leading digits times a power
of ten, where digits, power and product are each rounded (`productFitsDouble`). Near the largest double
the two ways differ.
-/
namespace Enrolment.Text

/-- Half way from the largest double to the next power of two: from here on nothing rounds to a double. -/
def doubleBound : Nat := Nat.pow 2 1024 - Nat.pow 2 970

def fitsDouble (digits : Nat) (exponent : Int) : Bool :=
  if digits = 0 then true
  else
    let size : Int := (decimal digits).length + exponent
    if size ≤ 308 then true
    else if 310 ≤ size then false
    else
      match exponent with
      | .ofNat e => digits * Nat.pow 10 e < doubleBound
      | .negSucc e => digits < doubleBound * Nat.pow 10 (e + 1)

/-- The quotient that is nearest to a fraction; half way between two the even one. -/
def roundedQuotient (num den : Nat) : Nat :=
  let below := num / den
  let rest := num % den
  if 2 * rest < den || (2 * rest = den && below % 2 = 0) then below else below + 1

def nearestDouble (n : Nat) : Nat :=
  let unit := Nat.pow 2 (n.log2 - 52)
  roundedQuotient n unit * unit

/-- The double that is nearest to a fraction, if it is a whole number. A fraction below one may still
round up to it, and one below all doubles rounds to zero. -/
def wholeDouble? (num den : Nat) : Option Nat :=
  let whole := num / den
  if num * Nat.pow 2 1075 ≤ den then some 0
  else if 2 * num < den then none
  else
    let scale := Nat.pow 2 (if whole = 0 then 53 else 52 - whole.log2)
    let unit := Nat.pow 2 (whole.log2 - 52)
    let significand := roundedQuotient (num * scale) (den * unit)
    if significand % scale = 0 then some (significand / scale * unit) else none

/-- Whether digits times a power of ten are below all that rounds to no double, when both are rounded
before they are multiplied. The powers reach up to the largest that a double holds. -/
def productFitsDouble (digits : Nat) : Int → Bool
  | .ofNat e => digits = 0 || (e ≤ 308 && nearestDouble digits * nearestDouble (Nat.pow 10 e) < doubleBound)
  | .negSucc _ => true

end Enrolment.Text
