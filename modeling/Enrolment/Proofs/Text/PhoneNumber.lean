import Enrolment.Proofs.Record.RoundTrip
import Enrolment.Proofs.Text.Blank
import Enrolment.Proofs.Text.Utf8
/-!
Which texts are a phone number, and which number they are: after blanks are taken away at both ends,
only the international form is left (`parse_eq_ok_iff`). It is the same whether it is looked for
in the characters of a text or in its bytes (`isInternational_iff_utf8`).
-/
namespace Enrolment

namespace Text

/-- A plus sign and 8 to 15 ASCII digits. -/
def IsInternational (text : String) : Prop :=
  ∃ digits, text.toList = '+' :: digits ∧ 8 ≤ digits.length ∧ digits.length ≤ 15 ∧ ∀ d ∈ digits, '0' ≤ d ∧ d ≤ '9'

/-! ## Bytes -/

private theorem isDigit_ofNat {c : Char} (ascii : c.toNat < 128) :
    (0x30 ≤ UInt8.ofNat c.toNat ∧ UInt8.ofNat c.toNat ≤ 0x39) ↔ ('0' ≤ c ∧ c ≤ '9') := by
  have small : c.toNat % 256 = c.toNat := Nat.mod_eq_of_lt (by omega)
  simp [UInt8.le_iff_toNat_le, Char.le_def, UInt32.le_iff_toNat_le, small]

theorem isInternational_iff_utf8 {text : String} : IsInternational text ↔
    ∃ digits, utf8 text = 0x2B :: digits ∧ 8 ≤ digits.length ∧ digits.length ≤ 15 ∧
      ∀ b ∈ digits, 0x30 ≤ b ∧ b ≤ 0x39 := by
  constructor
  · rintro ⟨digits, whole, enough, few, all⟩
    have ascii : ∀ c ∈ text.toList, c.toNat < 128 := by
      rw [whole, List.forall_mem_cons]
      apply And.intro (by decide)
      intro d member
      have upper := (all d member).2
      simp only [Char.le_def, UInt32.le_iff_toNat_le] at upper
      exact Nat.lt_of_le_of_lt upper (by decide)
    refine ⟨digits.map fun c => UInt8.ofNat c.toNat, ?_, by simpa using enough, by simpa using few, ?_⟩
    · rw [utf8_of_ascii ascii, whole]
      rfl
    · intro b member
      obtain ⟨d, there, rfl⟩ := List.mem_map.1 member
      rw [whole, List.forall_mem_cons] at ascii
      exact (isDigit_ofNat (ascii.2 d there)).2 (all d there)
  · rintro ⟨digits, whole, enough, few, all⟩
    have ascii : ∀ c ∈ text.toList, c.toNat < 128 := by
      apply ascii_of_utf8
      rw [whole, List.forall_mem_cons]
      apply And.intro (by decide)
      intro b member
      have upper := (all b member).2
      rw [UInt8.le_iff_toNat_le] at upper
      rw [UInt8.lt_iff_toNat_lt]
      exact Nat.lt_of_le_of_lt upper (by decide)
    rw [utf8_of_ascii ascii] at whole
    obtain ⟨c, cs, chars, plus, rfl⟩ := List.map_eq_cons_iff.1 whole
    rw [chars, List.forall_mem_cons] at ascii
    obtain ⟨asciiPlus, asciiDigits⟩ := ascii
    refine ⟨cs, ?_, by simpa using enough, by simpa using few, ?_⟩
    · have code : c.toNat = 0x2B := by
        have same := congrArg UInt8.toNat plus
        rwa [UInt8.toNat_ofNat', Nat.mod_eq_of_lt (by omega)] at same
      rw [chars, ← Char.ofNat_toNat c, code]
    · intro d member
      exact (isDigit_ofNat (asciiDigits d member)).1 (all _ (List.mem_map_of_mem member))

end Text

namespace PhoneNumber

theorem isInternational_iff {text : String} : Text.IsInternational text ↔ isPhoneNumber text.toList = true := by
  unfold isPhoneNumber Text.IsInternational
  split
  · simp [*, Text.isDigit, and_assoc]
  · rename_i other
    constructor
    · rintro ⟨digits, whole, -⟩
      exact absurd whole (other digits)
    · simp

theorem isInternational (n : PhoneNumber) : Text.IsInternational n.text := isInternational_iff.2 n.wellFormed

theorem parse_eq_ok_iff {given : String} {n : PhoneNumber} :
    parse given = .ok n ↔ Text.Trims given n.text ∧ Text.IsInternational n.text := by
  rw [Text.trims_iff, parse]
  split
  · constructor
    · rintro ⟨⟩
      exact ⟨rfl, isInternational_iff.2 ‹_›⟩
    · rintro ⟨trimmed, -⟩
      congr
      exact trimmed.symm
  · rename_i other
    constructor
    · rintro ⟨⟩
    · rintro ⟨trimmed, -⟩
      rw [← trimmed] at other
      exact absurd n.wellFormed other

theorem parse_eq_error_iff {given : String} {e : InvalidPhoneNumber} :
    parse given = .error e ↔ e = ⟨given⟩ ∧ ∀ text, Text.Trims given text → ¬ Text.IsInternational text := by
  simp only [Text.trims_iff, forall_eq, isInternational_iff, parse]
  split <;> simp [*, eq_comm]

end PhoneNumber
end Enrolment
