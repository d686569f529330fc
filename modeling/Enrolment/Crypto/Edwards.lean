import Enrolment.ByteOrder
import Enrolment.Crypto.Residue
/-!
The twisted Edwards curve -x² + y² = 1 + d·x²·y², its group, and points as 32 bytes.

A point is kept as x = X/Z and y = Y/Z with T = XY/Z. The addition law has no exceptions, because -1
is a square in the field and d is none.
-/
namespace Enrolment.Crypto

structure Point where
  x : Residue
  y : Residue
  z : Residue
  t : Residue
  deriving DecidableEq, Inhabited

namespace Point

def d : Residue := -(.ofNat 121665) * (Residue.ofNat 121666).inverse

def ofAffine (x y : Residue) : Point := ⟨x, y, .one, x * y⟩

def zero : Point := ofAffine (.ofNat 0) .one

def add (p q : Point) : Point :=
  let a := (p.y - p.x) * (q.y - q.x)
  let b := (p.y + p.x) * (q.y + q.x)
  let c := .ofNat 2 * d * p.t * q.t
  let e := .ofNat 2 * p.z * q.z
  ⟨(b - a) * (e - c), (e + c) * (b + a), (e - c) * (e + c), (b - a) * (b + a)⟩

def neg (p : Point) : Point := { p with x := -p.x, t := -p.t }

def scale (n : Nat) (p : Point) : Point :=
  if n = 0 then zero
  else
    let rest := scale (n / 2) (p.add p)
    if n % 2 = 1 then p.add rest else rest
termination_by n
decreasing_by omega

/-- The generator of the group that keys are multiples in: y is 4/5, and x is even. -/
def base : Point :=
  ofAffine (.ofNat 0x216936d3cd6e53fec0a4e231fdd6dc5c692cc7609525a7b2c9562d608f25d51a)
    (.ofNat 0x6666666666666666666666666666666666666666666666666666666666666658)

/-- The order of the base point, a prime. -/
def order : Nat := Nat.pow 2 252 + 27742317777372353535851937790883648493

/-- The highest bit of 32 bytes, which tells the sign of x. -/
def signBit : Nat := Nat.pow 2 255

/-- The y coordinate, with the lowest bit of x in place of the highest one. -/
def compress (p : Point) : Bytes :=
  let inverse := p.z.inverse
  let sign := if (p.x * inverse).isOdd then signBit else 0
  littleEndian 32 ((p.y * inverse).value + sign)

/-- The point that 32 bytes stand for. The y coordinate is taken modulo the size of the field, and
the sign of a zero is ignored. -/
def decompress? (bytes : Bytes) : Option Point :=
  if bytes.length ≠ 32 then none
  else
    let n := ofLittleEndian bytes
    let y := Residue.ofNat (n % signBit)
    let u := y * y - .one
    let v := d * (y * y) + .one
    (Residue.sqrt? (u * v.inverse)).map fun x => ofAffine (if n < signBit then x else -x) y

end Point
end Enrolment.Crypto
