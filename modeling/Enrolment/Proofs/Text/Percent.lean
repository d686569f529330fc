import Enrolment.Proofs.Text.Utf8
import Enrolment.Text.Percent
/-!
Percent encoding is undone by decoding (`percentDecode_percentEncode`), and what has no percent sign is decoded
as it stands.
-/
namespace Enrolment.Text

theorem percentDecode_cons {byte : UInt8} (plain : byte ≠ 37) (rest : Bytes) :
    percentDecode (byte :: rest) = byte :: percentDecode rest := by
  rw [percentDecode]
  rintro h l rest ⟨⟩
  exact absurd rfl plain

theorem percentDecode_of_plain {bytes : Bytes} (plain : 37 ∉ bytes) : percentDecode bytes = bytes := by
  induction bytes with
  | nil => rfl
  | cons byte rest ih =>
    rw [List.mem_cons, not_or] at plain
    rw [percentDecode_cons (Ne.symm plain.1), ih plain.2]

private def bytesOf (s : List Char) : Bytes := s.map fun c => UInt8.ofNat c.toNat

private theorem upperHexDigit_facts : ∀ d, d < 16 →
    (upperHexDigit d).toNat < 128 ∧ Char.ofNat (UInt8.ofNat (upperHexDigit d).toNat).toNat = upperHexDigit d := by
  decide

private theorem percentDecode_percentByte (byte : UInt8) (rest : Bytes) :
    percentDecode (bytesOf (percentByte byte) ++ rest) = byte :: percentDecode rest := by
  have size := byte.toNat_lt
  have high : byte.toNat / 16 < 16 := by omega
  have low : byte.toNat % 16 < 16 := Nat.mod_lt _ (by decide)
  have whole : bytesOf (percentByte byte) ++ rest = 37 :: UInt8.ofNat (upperHexDigit (byte.toNat / 16)).toNat ::
      UInt8.ofNat (upperHexDigit (byte.toNat % 16)).toNat :: rest := rfl
  rw [whole, percentDecode, (upperHexDigit_facts _ high).2, (upperHexDigit_facts _ low).2, hexValue?_upperHexDigit _ high,
    hexValue?_upperHexDigit _ low]
  simp only [Nat.div_add_mod, UInt8.ofNat_toNat]

private theorem percentDecode_percentBytes (bytes rest : Bytes) :
    percentDecode (bytesOf (bytes.flatMap percentByte) ++ rest) = bytes ++ percentDecode rest := by
  induction bytes with
  | nil => rfl
  | cons byte bytes ih =>
    rw [List.flatMap_cons, bytesOf, List.map_append, List.append_assoc]
    exact (percentDecode_percentByte byte _).trans (congrArg (byte :: ·) ih)

theorem ascii_percentByte (byte : UInt8) : ∀ c ∈ percentByte byte, c.toNat < 128 := by
  have size := byte.toNat_lt
  intro c member
  simp only [percentByte, List.mem_cons, List.not_mem_nil, or_false] at member
  obtain rfl | rfl | rfl := member
  · decide
  · exact (upperHexDigit_facts _ (by omega)).1
  · exact (upperHexDigit_facts _ (by omega)).1

variable {plain : Char → Bool} (safe : ∀ c, plain c = true → c.toNat < 128 ∧ c ≠ '%')

include safe

theorem ascii_percentEncode (s : List Char) : ∀ c ∈ percentEncode plain s, c.toNat < 128 := by
  intro c member
  obtain ⟨d, -, member⟩ := List.mem_flatMap.1 member
  split at member
  · rw [List.mem_singleton.1 member]
    exact (safe d ‹_›).1
  · obtain ⟨byte, -, member⟩ := List.mem_flatMap.1 member
    exact ascii_percentByte byte c member

theorem percentDecode_percentEncode (s : List Char) :
    percentDecode (utf8 (String.ofList (percentEncode plain s))) = utf8 (String.ofList s) := by
  have ascii : ∀ c ∈ (String.ofList (percentEncode plain s)).toList, c.toNat < 128 := by
    rw [String.toList_ofList]
    exact ascii_percentEncode safe s
  rw [utf8_of_ascii ascii, utf8_eq, String.toList_ofList, String.toList_ofList]
  clear ascii
  induction s with
  | nil => rfl
  | cons c s ih =>
    have first : (percentEncode plain (c :: s)).map (fun c => UInt8.ofNat c.toNat) =
        bytesOf (if plain c then [c] else (utf8 (String.singleton c)).flatMap percentByte) ++
          (percentEncode plain s).map fun c => UInt8.ofNat c.toNat := by
      rw [percentEncode, List.flatMap_cons, List.map_append]
      rfl
    have own : utf8 (String.singleton c) = String.utf8EncodeChar c := by simp [utf8_eq]
    rw [first, List.flatMap_cons]
    split
    · obtain ⟨ascii, other⟩ := safe c ‹_›
      have plainByte : UInt8.ofNat c.toNat ≠ 37 := by
        intro same
        have code := congrArg UInt8.toNat same
        rw [UInt8.toNat_ofNat', Nat.mod_eq_of_lt (by omega)] at code
        exact other (Char.toNat_inj.1 code)
      rw [utf8EncodeChar_of_ascii ascii]
      exact (percentDecode_cons plainByte _).trans (congrArg _ ih)
    · rw [percentDecode_percentBytes, ih, own]

end Enrolment.Text
