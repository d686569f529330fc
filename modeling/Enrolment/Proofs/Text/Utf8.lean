import Enrolment.Text.Utf8
import Mathlib.Data.List.Basic
/-!
Text is read back from its bytes. Every character of it is a piece of its own, and no piece is malformed
(`pieces_utf8`), so both ways of decoding give the text again. Strict decoding accepts no other bytes than those of
a text (`ofUtf8?_eq_some_iff`).
-/
namespace Enrolment.Text

theorem utf8_eq (text : String) : utf8 text = text.toList.flatMap String.utf8EncodeChar := by
  have loop (bytes : ByteArray) (i : Nat) (read : List UInt8) :
      ByteArray.toList.loop bytes i read = read.reverse ++ bytes.data.toList.drop i := by
    fun_induction ByteArray.toList.loop bytes i read with
    | case1 i read inside ih =>
      have here : i < bytes.data.toList.length := by simpa using inside
      rw [ih, List.drop_eq_getElem_cons here]
      simp [ByteArray.get!, inside]
    | case2 i read outside =>
      rw [List.drop_eq_nil_of_le (by simpa using Nat.le_of_not_lt outside), List.append_nil]
  have whole : text.toUTF8 = text.toList.utf8Encode := String.utf8Encode_toList.symm
  unfold utf8
  rw [whole, ByteArray.toList, loop, List.utf8Encode]
  simp

/-! ## Single characters -/

variable {a b c d : Nat} (more : Bytes)

private theorem isTail_ofNat (low : 128 ≤ b) (high : b < 192) : isTail (UInt8.ofNat b) = true := by
  have small : b % 256 = b := Nat.mod_eq_of_lt (by omega)
  simp [isTail, UInt8.le_iff_toNat_le, small]
  omega

private theorem secondOk_ofNat (first : a < 256) (low : 128 ≤ b) (high : b < 192) (long : a = 0xE0 → 0xA0 ≤ b)
    (whole : a = 0xED → b < 0xA0) (longer : a = 0xF0 → 0x90 ≤ b) (inRange : a = 0xF4 → b < 0x90) :
    secondOk (UInt8.ofNat a) (UInt8.ofNat b) = true := by
  have tail := isTail_ofNat low high
  have smallA : a % 256 = a := Nat.mod_eq_of_lt first
  have smallB : b % 256 = b := Nat.mod_eq_of_lt (by omega)
  unfold secondOk
  simp only [beq_iff_eq, ← UInt8.toNat_inj, UInt8.le_iff_toNat_le, UInt8.toNat_ofNat', UInt8.reduceToNat, smallA, smallB, tail]
  split_ifs <;> simp <;> omega

private theorem bits_ofNat (low : Nat) (small : a < 256) : bits (UInt8.ofNat a) low = a % low := by
  simp [bits, Nat.mod_eq_of_lt small]

private theorem decodeFirst_one (small : a < 128) : decodeFirst (UInt8.ofNat a) more = .char (Char.ofNat a) more := by
  have whole : a % 256 = a := Nat.mod_eq_of_lt (by omega)
  simp [decodeFirst, UInt8.lt_iff_toNat_lt, whole, small]

private theorem decodeFirst_two (lead : 0xC2 ≤ a) (lead' : a < 0xE0) (low : 128 ≤ b) (high : b < 192) :
    decodeFirst (UInt8.ofNat a) (UInt8.ofNat b :: more) = .char (Char.ofNat (a % 32 * 64 + b % 64)) more := by
  have whole : a % 256 = a := Nat.mod_eq_of_lt (by omega)
  have long : ¬ a < 128 := by omega
  simp [decodeFirst, UInt8.lt_iff_toNat_lt, UInt8.le_iff_toNat_le, whole, long, lead, isTail_ofNat low high,
    bits_ofNat 32 (show a < 256 by omega), bits_ofNat 64 (show b < 256 by omega)]
  omega

private theorem decodeFirst_three (lead : 0xE0 ≤ a) (lead' : a < 0xF0) (low : 128 ≤ b) (high : b < 192)
    (least : a = 0xE0 → 0xA0 ≤ b) (whole : a = 0xED → b < 0xA0) (low' : 128 ≤ c) (high' : c < 192) :
    decodeFirst (UInt8.ofNat a) (UInt8.ofNat b :: UInt8.ofNat c :: more) =
      .char (Char.ofNat (a % 16 * 4096 + b % 64 * 64 + c % 64)) more := by
  have second := secondOk_ofNat (show a < 256 by omega) low high least whole (by omega) (by omega)
  have same : a % 256 = a := Nat.mod_eq_of_lt (by omega)
  have long : ¬ a < 128 := by omega
  have longer : ¬ a ≤ 223 := by omega
  simp [decodeFirst, UInt8.lt_iff_toNat_lt, UInt8.le_iff_toNat_le, same, long, longer, lead, second, isTail_ofNat low' high',
    bits_ofNat 16 (show a < 256 by omega), bits_ofNat 64 (show b < 256 by omega), bits_ofNat 64 (show c < 256 by omega)]
  omega

private theorem decodeFirst_four (lead : 0xF0 ≤ a) (lead' : a < 0xF5) (low : 128 ≤ b) (high : b < 192)
    (least : a = 0xF0 → 0x90 ≤ b) (inRange : a = 0xF4 → b < 0x90) (low' : 128 ≤ c) (high' : c < 192)
    (low'' : 128 ≤ d) (high'' : d < 192) :
    decodeFirst (UInt8.ofNat a) (UInt8.ofNat b :: UInt8.ofNat c :: UInt8.ofNat d :: more) =
      .char (Char.ofNat (a % 8 * 262144 + b % 64 * 4096 + c % 64 * 64 + d % 64)) more := by
  have second := secondOk_ofNat (show a < 256 by omega) low high (by omega) (by omega) least inRange
  have same : a % 256 = a := Nat.mod_eq_of_lt (by omega)
  have long : ¬ a < 128 := by omega
  have longer : ¬ a ≤ 223 := by omega
  have longest : ¬ a ≤ 239 := by omega
  simp [decodeFirst, UInt8.lt_iff_toNat_lt, UInt8.le_iff_toNat_le, same, long, longer, longest, lead, second,
    isTail_ofNat low' high', isTail_ofNat low'' high'', bits_ofNat 8 (show a < 256 by omega),
    bits_ofNat 64 (show b < 256 by omega), bits_ofNat 64 (show c < 256 by omega), bits_ofNat 64 (show d < 256 by omega)]
  omega

theorem decodeFirst_encode (char : Char) :
    ∃ first rest, String.utf8EncodeChar char ++ more = first :: rest ∧ decodeFirst first rest = .char char more := by
  have valid : char.val.toNat < 0xD800 ∨ 0xDFFF < char.val.toNat ∧ char.val.toNat < 0x110000 := char.valid
  have back : Char.ofNat char.val.toNat = char := Char.ofNat_toNat char
  rw [String.utf8EncodeChar.eq_1]
  generalize char.val.toNat = n at *
  split_ifs with one two three
  · refine ⟨_, _, List.cons_append, ?_⟩
    rw [List.nil_append, decodeFirst_one more (by omega), back]
  · refine ⟨_, _, List.cons_append, ?_⟩
    rw [List.cons_append, List.nil_append, decodeFirst_two more (by omega) (by omega) (by omega) (by omega)]
    rw [show (n / 64 % 32 + 192) % 32 * 64 + (n % 64 + 128) % 64 = n by omega, back]
  · refine ⟨_, _, List.cons_append, ?_⟩
    rw [List.cons_append, List.cons_append, List.nil_append, decodeFirst_three more (by omega) (by omega) (by omega)
      (by omega) (by omega) (by omega) (by omega) (by omega)]
    rw [show (n / 4096 % 16 + 224) % 16 * 4096 + (n / 64 % 64 + 128) % 64 * 64 + (n % 64 + 128) % 64 = n by omega, back]
  · refine ⟨_, _, List.cons_append, ?_⟩
    rw [List.cons_append, List.cons_append, List.cons_append, List.nil_append, decodeFirst_four more (by omega)
      (by omega) (by omega) (by omega) (by omega) (by omega) (by omega) (by omega) (by omega) (by omega)]
    rw [show (n / 262144 % 8 + 240) % 8 * 262144 + (n / 4096 % 64 + 128) % 64 * 4096 + (n / 64 % 64 + 128) % 64 * 64 +
      (n % 64 + 128) % 64 = n by omega, back]

/-! ## Texts -/

private theorem piecesIn_encode (chars : List Char) (fuel : Nat)
    (enough : (chars.flatMap String.utf8EncodeChar).length ≤ fuel) :
    piecesIn fuel (chars.flatMap String.utf8EncodeChar) = chars.map some := by
  induction chars generalizing fuel with
  | nil => cases fuel <;> rfl
  | cons char chars ih =>
    rw [List.flatMap_cons] at enough ⊢
    obtain ⟨first, rest, bytes, decoded⟩ := decodeFirst_encode (chars.flatMap String.utf8EncodeChar) char
    have some_ : 0 < (String.utf8EncodeChar char).length := List.length_pos_iff.2 String.utf8EncodeChar_ne_nil
    rw [List.length_append] at enough
    obtain ⟨fuel, rfl⟩ : ∃ fuel', fuel = fuel' + 1 := ⟨fuel - 1, by omega⟩
    rw [bytes, piecesIn, decoded]
    simp only [ih fuel (by omega), List.map_cons]

theorem pieces_utf8 (text : String) : pieces (utf8 text) = text.toList.map some := by
  rw [pieces, utf8_eq]
  exact piecesIn_encode _ _ (Nat.le_refl _)

private theorem mapM_id_eq_some_iff {pieces : List (Option Char)} {chars : List Char} :
    pieces.mapM id = some chars ↔ pieces = chars.map some := by
  induction pieces generalizing chars with
  | nil => cases chars <;> simp
  | cons piece pieces ih =>
    cases chars with
    | nil => simp [Option.bind_eq_some_iff]
    | cons char chars => simp [Option.bind_eq_some_iff, ih]

theorem ofUtf8?_utf8 (text : String) : ofUtf8? (utf8 text) = some text := by
  rw [ofUtf8?, pieces_utf8, mapM_id_eq_some_iff.2 rfl, Option.map_some, String.ofList_toList]

theorem ofUtf8Lossy_utf8 (text : String) : ofUtf8Lossy (utf8 text) = text := by
  rw [ofUtf8Lossy, pieces_utf8, List.map_map]
  have same : text.toList.map ((·.getD '\uFFFD') ∘ some) = text.toList := List.map_id _
  rw [same, String.ofList_toList]

/-! ## Bytes that decode -/

private theorem utf8EncodeChar_ofNat {n : Nat} (valid : n.isValidChar) :
    String.utf8EncodeChar (Char.ofNat n) =
      if n ≤ 0x7F then [UInt8.ofNat n]
      else if n ≤ 0x7FF then [UInt8.ofNat (n / 64 % 32 + 192), UInt8.ofNat (n % 64 + 128)]
      else if n ≤ 0xFFFF then
        [UInt8.ofNat (n / 4096 % 16 + 224), UInt8.ofNat (n / 64 % 64 + 128), UInt8.ofNat (n % 64 + 128)]
      else
        [UInt8.ofNat (n / 262144 % 8 + 240), UInt8.ofNat (n / 4096 % 64 + 128), UInt8.ofNat (n / 64 % 64 + 128),
          UInt8.ofNat (n % 64 + 128)] := by
  have same : (Char.ofNat n).val.toNat = n := by
    rw [Char.ofNat, dif_pos valid]
    rfl
  rw [String.utf8EncodeChar.eq_1, same]

private theorem bounds_of_isTail {b : UInt8} (tail : isTail b = true) : 128 ≤ b.toNat ∧ b.toNat < 192 := by
  simp [isTail, UInt8.le_iff_toNat_le] at tail
  omega

/-- The ranges of a second byte that rule out overlong forms, surrogates and numbers that are too large. -/
private theorem bounds_of_secondOk {a b : UInt8} (second : secondOk a b = true) :
    128 ≤ b.toNat ∧ b.toNat < 192 ∧ (a.toNat = 0xE0 → 0xA0 ≤ b.toNat) ∧ (a.toNat = 0xED → b.toNat < 0xA0) ∧
      (a.toNat = 0xF0 → 0x90 ≤ b.toNat) ∧ (a.toNat = 0xF4 → b.toNat < 0x90) := by
  unfold secondOk isTail at second
  simp only [beq_iff_eq, ← UInt8.toNat_inj, UInt8.le_iff_toNat_le, UInt8.reduceToNat] at second
  split_ifs at second <;> simp at second <;> omega

private theorem bounds_of_between {a low high : UInt8} (between : (low ≤ a && a ≤ high) = true) :
    low.toNat ≤ a.toNat ∧ a.toNat ≤ high.toNat := by
  simpa [UInt8.le_iff_toNat_le] using between

private theorem encode_one {a : UInt8} (short : a < 0x80) : String.utf8EncodeChar (Char.ofNat a.toNat) = [a] := by
  rw [UInt8.lt_iff_toNat_lt] at short
  rw [utf8EncodeChar_ofNat (.inl (Nat.lt_trans short (by decide))), if_pos (Nat.le_of_lt_succ short), UInt8.ofNat_toNat]

private theorem encode_two {a b : UInt8} (lead : (0xC2 ≤ a && a ≤ 0xDF) = true) (tail : isTail b = true) :
    String.utf8EncodeChar (Char.ofNat (bits a 32 * 64 + bits b 64)) = [a, b] := by
  have first := bounds_of_between lead
  have second := bounds_of_isTail tail
  simp only [UInt8.reduceToNat] at first
  unfold bits
  rw [utf8EncodeChar_ofNat (.inl (by omega)), if_neg (by omega), if_pos (by omega)]
  simp [← UInt8.toNat_inj]
  omega

private theorem encode_three {a b c : UInt8} (lead : (0xE0 ≤ a && a ≤ 0xEF) = true) (ok : secondOk a b = true)
    (tail : isTail c = true) :
    String.utf8EncodeChar (Char.ofNat (bits a 16 * 4096 + bits b 64 * 64 + bits c 64)) = [a, b, c] := by
  have first := bounds_of_between lead
  have second := bounds_of_secondOk ok
  have third := bounds_of_isTail tail
  simp only [UInt8.reduceToNat] at first
  unfold bits
  rw [utf8EncodeChar_ofNat (by unfold Nat.isValidChar; omega), if_neg (by omega), if_neg (by omega), if_pos (by omega)]
  simp [← UInt8.toNat_inj]
  omega

private theorem encode_four {a b c d : UInt8} (lead : (0xF0 ≤ a && a ≤ 0xF4) = true) (ok : secondOk a b = true)
    (tail : isTail c = true) (tail' : isTail d = true) :
    String.utf8EncodeChar (Char.ofNat (bits a 8 * 262144 + bits b 64 * 4096 + bits c 64 * 64 + bits d 64)) =
      [a, b, c, d] := by
  have first := bounds_of_between lead
  have second := bounds_of_secondOk ok
  have third := bounds_of_isTail tail
  have fourth := bounds_of_isTail tail'
  simp only [UInt8.reduceToNat] at first
  unfold bits
  rw [utf8EncodeChar_ofNat (.inr (by omega)), if_neg (by omega), if_neg (by omega), if_neg (by omega)]
  simp [← UInt8.toNat_inj]
  omega

theorem eq_encode_of_decodeFirst {first : UInt8} {rest more : Bytes} {char : Char}
    (decoded : decodeFirst first rest = .char char more) : first :: rest = String.utf8EncodeChar char ++ more := by
  revert decoded
  fun_cases decodeFirst first rest <;> intro decoded <;> cases decoded
  case case1 short => rw [encode_one short, List.singleton_append]
  case case2 _ lead b tail => exact congrArg (· ++ more) (encode_two lead tail).symm
  case case5 _ _ lead b ok c tail => exact congrArg (· ++ more) (encode_three lead ok tail).symm
  case case10 _ _ _ lead b ok c tail d tail' => exact congrArg (· ++ more) (encode_four lead ok tail tail').symm

private theorem eq_encode_of_piecesIn {fuel : Nat} {bytes : Bytes} {chars : List Char} (enough : bytes.length ≤ fuel)
    (whole : piecesIn fuel bytes = chars.map some) : bytes = chars.flatMap String.utf8EncodeChar := by
  fun_induction piecesIn fuel bytes generalizing chars with
  | case1 fuel =>
    obtain rfl : chars = [] := by simpa using whole.symm
    rfl
  | case2 b rest => simp at enough
  | case3 fuel b rest char more decoded ih =>
    obtain ⟨_, chars, rfl, same, inner⟩ := List.map_eq_cons_iff.1 whole.symm
    cases same
    have bytes := eq_encode_of_decodeFirst decoded
    have some_ : 0 < (String.utf8EncodeChar char).length := List.length_pos_iff.2 String.utf8EncodeChar_ne_nil
    have lengths := congrArg List.length bytes
    rw [List.length_append, List.length_cons] at lengths
    rw [List.length_cons] at enough
    rw [bytes, ih (by omega) inner.symm, List.flatMap_cons]
  | case4 fuel b rest more decoded ih =>
    obtain ⟨_, _, -, same, -⟩ := List.map_eq_cons_iff.1 whole.symm
    cases same

theorem ofUtf8?_eq_some_iff {bytes : Bytes} {text : String} : ofUtf8? bytes = some text ↔ bytes = utf8 text := by
  constructor
  · intro decoded
    obtain ⟨chars, whole, rfl⟩ := Option.map_eq_some_iff.1 decoded
    rw [utf8_eq, String.toList_ofList]
    exact eq_encode_of_piecesIn (Nat.le_refl _) (mapM_id_eq_some_iff.1 whole)
  · rintro rfl
    exact ofUtf8?_utf8 text

/-! ## ASCII -/

theorem utf8EncodeChar_of_ascii {char : Char} (ascii : char.toNat < 128) :
    String.utf8EncodeChar char = [UInt8.ofNat char.toNat] := by
  have small : char.val.toNat ≤ 127 := Nat.le_of_lt_succ ascii
  rw [String.utf8EncodeChar, if_pos small]
  rfl

theorem long_of_mem_utf8EncodeChar {char : Char} (long : 128 ≤ char.toNat) {byte : UInt8}
    (member : byte ∈ String.utf8EncodeChar char) : 128 ≤ byte := by
  have same : char.val.toNat = char.toNat := rfl
  rw [String.utf8EncodeChar.eq_1, same, if_neg (by omega)] at member
  rw [UInt8.le_iff_toNat_le]
  split_ifs at member <;> simp only [List.mem_cons, List.not_mem_nil, or_false] at member
  · rcases member with rfl | rfl <;> simp <;> omega
  · rcases member with rfl | rfl | rfl <;> simp <;> omega
  · rcases member with rfl | rfl | rfl | rfl <;> simp <;> omega

theorem utf8_of_ascii {text : String} (ascii : ∀ char ∈ text.toList, char.toNat < 128) :
    utf8 text = text.toList.map fun char => UInt8.ofNat char.toNat := by
  rw [utf8_eq, List.map_eq_flatMap]
  exact List.flatMap_congr fun char member => utf8EncodeChar_of_ascii (ascii char member)

theorem ascii_of_utf8 {text : String} (ascii : ∀ byte ∈ utf8 text, byte < 128) :
    ∀ char ∈ text.toList, char.toNat < 128 := by
  intro char there
  by_contra long
  obtain ⟨byte, member⟩ := List.exists_mem_of_ne_nil _ (String.utf8EncodeChar_ne_nil (c := char))
  have short : byte < 128 := ascii byte (by rw [utf8_eq]; exact List.mem_flatMap.2 ⟨char, there, member⟩)
  exact UInt8.not_le.2 short (long_of_mem_utf8EncodeChar (Nat.le_of_not_lt long) member)

theorem mem_utf8 {text : String} {byte : UInt8} (member : byte ∈ utf8 text) (ascii : byte < 128) :
    Char.ofNat byte.toNat ∈ text.toList := by
  rw [utf8_eq, List.mem_flatMap] at member
  obtain ⟨char, there, member⟩ := member
  have short : char.toNat < 128 := by
    by_contra long
    exact UInt8.not_le.2 ascii (long_of_mem_utf8EncodeChar (Nat.le_of_not_lt long) member)
  rw [utf8EncodeChar_of_ascii short, List.mem_singleton] at member
  rwa [member, UInt8.toNat_ofNat', Nat.mod_eq_of_lt (by omega), Char.ofNat_toNat]

end Enrolment.Text
