import Enrolment.Text.Hex
import Enrolment.Text.Utf8
/-!
Percent encoding: a byte as a percent sign and two hexadecimal digits. What is not so encoded stands
for itself, a percent sign without its two digits included.
-/
namespace Enrolment.Text

def percentDecode : Bytes → Bytes
  | 37 :: h :: l :: rest =>
    match hexValue? (Char.ofNat h.toNat), hexValue? (Char.ofNat l.toNat) with
    | some high, some low => UInt8.ofNat (16 * high + low) :: percentDecode rest
    | _, _ => 37 :: percentDecode (h :: l :: rest)
  | b :: rest => b :: percentDecode rest
  | [] => []

def upperHexDigit (d : Nat) : Char := if d < 10 then digitChar d else Char.ofNat (55 + d)

theorem hexValue?_upperHexDigit : ∀ d, d < 16 → hexValue? (upperHexDigit d) = some d := by decide

def percentByte (b : UInt8) : List Char := ['%', upperHexDigit (b.toNat / 16), upperHexDigit (b.toNat % 16)]

def percentEncode (plain : Char → Bool) (s : List Char) : List Char :=
  s.flatMap fun c => if plain c then [c] else (utf8 (String.singleton c)).flatMap percentByte

theorem percentEncode_of_plain {plain : Char → Bool} {s : List Char} (all : ∀ c ∈ s, plain c = true) :
    percentEncode plain s = s := by
  induction s with
  | nil => rfl
  | cons c rest ih =>
    have here := all c List.mem_cons_self
    have later := ih fun d found => all d (List.mem_cons_of_mem c found)
    unfold percentEncode at later ⊢
    rw [List.flatMap_cons, later, if_pos here]
    rfl

end Enrolment.Text
