import Enrolment.Text.Hex
/-!
Numbers as byte strings of a fixed width, with the lowest or with the highest byte first.
-/
namespace Enrolment

def littleEndian : Nat → Nat → Bytes
  | 0, _ => []
  | width + 1, n => UInt8.ofNat n :: littleEndian width (n / 256)

def ofLittleEndian : Bytes → Nat
  | [] => 0
  | b :: rest => b.toNat + 256 * ofLittleEndian rest

def bigEndian (width n : Nat) : Bytes := (littleEndian width n).reverse

def ofBigEndian (bytes : Bytes) : Nat := ofLittleEndian bytes.reverse

theorem length_littleEndian (width n : Nat) : (littleEndian width n).length = width := by
  induction width generalizing n with
  | zero => rfl
  | succ width ih => simp [littleEndian, ih]

theorem ofLittleEndian_littleEndian (width n : Nat) :
    ofLittleEndian (littleEndian width n) = n % Nat.pow 256 width := by
  show _ = n % 256 ^ width
  induction width generalizing n with
  | zero => simp [littleEndian, ofLittleEndian, Nat.mod_one]
  | succ width ih =>
    rw [littleEndian, ofLittleEndian, ih, Nat.pow_succ, Nat.mul_comm (256 ^ width) 256, Nat.mod_mul]
    simp

end Enrolment
