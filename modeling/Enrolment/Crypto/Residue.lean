/-!
The field of integers modulo 2²⁵⁵ - 19.
-/
namespace Enrolment.Crypto

def fieldSize : Nat := Nat.pow 2 255 - 19

theorem fieldSize_pos : 0 < fieldSize := by decide

structure Residue where
  value : Nat
  value_lt : value < fieldSize
  deriving DecidableEq

namespace Residue

def ofNat (n : Nat) : Residue := ⟨n % fieldSize, Nat.mod_lt n fieldSize_pos⟩

instance : Inhabited Residue := ⟨ofNat 0⟩

def one : Residue := ofNat 1

def add (x y : Residue) : Residue := ofNat (x.value + y.value)

def neg (x : Residue) : Residue := ofNat (fieldSize - x.value)

def sub (x y : Residue) : Residue := ofNat (x.value + (fieldSize - y.value))

def mul (x y : Residue) : Residue := ofNat (x.value * y.value)

instance : Add Residue := ⟨add⟩

instance : Neg Residue := ⟨neg⟩

instance : Sub Residue := ⟨sub⟩

instance : Mul Residue := ⟨mul⟩

def power (x : Residue) (n : Nat) : Residue :=
  if n = 0 then one
  else
    let half := power (x * x) (n / 2)
    if n % 2 = 1 then x * half else half
termination_by n
decreasing_by omega

def inverse (x : Residue) : Residue := power x (fieldSize - 2)

def rootOfMinusOne : Residue := power (ofNat 2) ((fieldSize - 1) / 4)

def isOdd (x : Residue) : Bool := x.value % 2 = 1

/-- The even square root, if there is one. -/
def sqrt? (x : Residue) : Option Residue :=
  let near := power x ((fieldSize + 3) / 8)
  let root := if near * near = x then near else near * rootOfMinusOne
  if root * root = x then some (if root.isOdd then -root else root) else none

end Residue
end Enrolment.Crypto
