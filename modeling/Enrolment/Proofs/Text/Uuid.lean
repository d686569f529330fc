import Enrolment.Uuid
/-!
An identifier is read back from its text, so that different identifiers have different texts.
-/
namespace Enrolment

namespace Text

theorem length_hexFixed (width n : Nat) : (hexFixed width n).length = width := by
  induction width generalizing n with
  | zero => rfl
  | succ width ih => simp [hexFixed, ih]

end Text

namespace Uuid

theorem length_digits (u : Uuid) : u.digits.length = 32 := Text.length_hexFixed 32 _

private theorem ofGrouped?_grouped {ds : List Char} (length : ds.length = 32) :
    (grouped ds).length = 36 ∧ ofGrouped? (grouped ds) = ofDigits? ds := by
  have lengths : (ds.take 8).length = 8 ∧ ((ds.drop 8).take 4).length = 4 ∧ ((ds.drop 12).take 4).length = 4 ∧
      ((ds.drop 16).take 4).length = 4 ∧ (ds.drop 20).length = 12 := by simp [length]
  have whole : ds.take 8 ++ ((ds.drop 8).take 4 ++ ((ds.drop 12).take 4 ++ ((ds.drop 16).take 4 ++ ds.drop 20))) = ds := by
    have cut (i : Nat) : (ds.drop i).take 4 ++ ds.drop (i + 4) = ds.drop i := by
      rw [← List.drop_drop, List.take_append_drop]
    rw [cut 16, cut 12, cut 8, List.take_append_drop]
  unfold grouped
  generalize ds.take 8 = first at *
  generalize (ds.drop 8).take 4 = second at *
  generalize (ds.drop 12).take 4 = third at *
  generalize (ds.drop 16).take 4 = fourth at *
  generalize ds.drop 20 = last at *
  obtain ⟨one, two, three, four, five⟩ := lengths
  refine ⟨by simp [one, two, three, four, five], ?_⟩
  rw [ofGrouped?, ← whole]
  simp [one, two, three, four, five, List.drop_append, List.drop_eq_nil_of_le]

theorem ofDigits?_digits (u : Uuid) : ofDigits? u.digits = some u := by
  have read := Text.hexNatural_hexFixed 32 u.toNat
  have small : u.toNat % Nat.pow 16 32 = u.toNat := Nat.mod_eq_of_lt u.bits.isLt
  rw [small] at read
  rw [ofDigits?, if_pos (length_digits u), digits, read, Option.map_some, ofNat, toNat, BitVec.ofNat_toNat,
    BitVec.setWidth_eq]

theorem ofText?_toText (u : Uuid) : ofText? u.toText = some u := by
  obtain ⟨length, read⟩ := ofGrouped?_grouped (length_digits u)
  simp only [ofText?, toText, String.toList_ofList]
  rw [if_neg (by rw [length]; decide), if_pos length, read, ofDigits?_digits]

theorem toText_injective {u v : Uuid} (same : u.toText = v.toText) : u = v := by
  have read := ofText?_toText u
  rw [same, ofText?_toText] at read
  exact (Option.some.inj read).symm

end Uuid
end Enrolment
