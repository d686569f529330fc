import Enrolment.Text.Blank
import Enrolment.Text.Digits
import Mathlib.Algebra.Group.Nat.Defs
import Mathlib.Data.List.Induction
/-!
What is written as a numeral reads back as the number: decimals of any length and of fixed width.
A numeral consists of digits only, so that a reader knows where it ends. The reader of unsigned numbers takes
nothing else than a numeral with zeros and at most one plus sign in front (`unsigned?_eq_some_iff`).
-/
namespace Enrolment.Text

private theorem digitChar_facts : ∀ d, d < 10 → isDigit (digitChar d) = true ∧ digitValue (digitChar d) = d := by
  decide

theorem isDigit_digitChar {d : Nat} (small : d < 10) : isDigit (digitChar d) = true := (digitChar_facts d small).1

theorem digitValue_digitChar {d : Nat} (small : d < 10) : digitValue (digitChar d) = d := (digitChar_facts d small).2

private theorem bounds_of_isDigit {c : Char} (digit : isDigit c = true) : 48 ≤ c.toNat ∧ c.toNat ≤ 57 := by
  simp only [isDigit, Bool.and_eq_true, decide_eq_true_eq] at digit
  exact ⟨UInt32.le_iff_toNat_le.1 digit.1, UInt32.le_iff_toNat_le.1 digit.2⟩

private theorem digitValue_lt {c : Char} (digit : isDigit c = true) : digitValue c < 10 := by
  have bounds := bounds_of_isDigit digit
  unfold digitValue
  omega

private theorem digitChar_digitValue {c : Char} (digit : isDigit c = true) : digitChar (digitValue c) = c := by
  rw [digitChar, digitValue, Nat.add_sub_of_le (bounds_of_isDigit digit).1, Char.ofNat_toNat]

theorem isBlank_of_isDigit {c : Char} (digit : isDigit c = true) : isBlank c = false := by
  have bounds := bounds_of_isDigit digit
  simp only [isBlank, Bool.or_eq_false_iff, Bool.and_eq_false_iff, decide_eq_false_iff_not, beq_eq_false_iff_ne]
  omega

theorem ofDigits_append_singleton (cs : List Char) (c : Char) :
    ofDigits (cs ++ [c]) = 10 * ofDigits cs + digitValue c := by
  simp [ofDigits, List.foldl_append]

theorem ofDigits_lt {ds : List Char} (digits : ∀ c ∈ ds, isDigit c = true) : ofDigits ds < 10 ^ ds.length := by
  induction ds using List.reverseRecOn with
  | nil => decide
  | append_singleton ds c ih =>
    have front := ih fun d member => digits d (List.mem_append_left _ member)
    have last := digitValue_lt (digits c (by simp))
    rw [ofDigits_append_singleton, List.length_append, List.length_singleton, Nat.pow_succ]
    omega

theorem ofDigits_decimal (n : Nat) : ofDigits (decimal n) = n := by
  fun_induction decimal n with
  | case1 n small => simp [ofDigits, digitValue_digitChar small]
  | case2 n _ ih =>
    rw [ofDigits_append_singleton, ih, digitValue_digitChar (Nat.mod_lt _ (by decide))]
    omega

theorem isDigit_of_mem_decimal {n : Nat} {c : Char} (member : c ∈ decimal n) : isDigit c = true := by
  fun_induction decimal n with
  | case1 n small =>
    obtain rfl := List.mem_singleton.1 member
    exact isDigit_digitChar small
  | case2 n _ ih =>
    rcases List.mem_append.1 member with front | last
    · exact ih front
    · obtain rfl := List.mem_singleton.1 last
      exact isDigit_digitChar (Nat.mod_lt _ (by decide))

theorem decimal_ne_nil (n : Nat) : decimal n ≠ [] := by
  unfold decimal
  split <;> simp

theorem head?_decimal_ne_zero {n : Nat} (positive : 0 < n) : (decimal n).head? ≠ some '0' := by
  fun_induction decimal n with
  | case1 n small =>
    have all : ∀ d, d < 10 → 0 < d → digitChar d ≠ '0' := by decide
    simpa using all n small positive
  | case2 n large ih =>
    have front := ih (by omega)
    cases h : decimal (n / 10) with
    | nil => exact absurd h (decimal_ne_nil _)
    | cons d rest => simpa [h] using front

theorem decimal_zero : decimal 0 = ['0'] := by
  unfold decimal
  rfl

theorem takeWhile_isDigit_append {digits rest : List Char} (all : ∀ c ∈ digits, isDigit c = true)
    (ends : ∀ c, rest.head? = some c → isDigit c = false) : (digits ++ rest).takeWhile isDigit = digits := by
  rw [List.takeWhile_append_of_pos all]
  cases rest with
  | nil => simp
  | cons c rest => simp [ends c rfl]

theorem dropWhile_isDigit_append {digits rest : List Char} (all : ∀ c ∈ digits, isDigit c = true)
    (ends : ∀ c, rest.head? = some c → isDigit c = false) : (digits ++ rest).dropWhile isDigit = rest := by
  rw [List.dropWhile_append_of_pos all]
  cases rest with
  | nil => rfl
  | cons c rest => simp [ends c rfl]

/-! ## Unsigned numbers -/

/-- A number is written as its numeral, with any zeros and at most one plus sign in front. -/
def Denotes (text : String) (n : Nat) : Prop :=
  ∃ sign zeros, (sign = [] ∨ sign = ['+']) ∧ text.toList = sign ++ (List.replicate zeros '0' ++ decimal n)

theorem ofDigits_zeros (count : Nat) (ds : List Char) : ofDigits (List.replicate count '0' ++ ds) = ofDigits ds := by
  induction count with
  | zero => rfl
  | succ count ih => simpa [ofDigits, List.replicate_succ, digitValue] using ih

private theorem decimal_digitValue {c : Char} (digit : isDigit c = true) : decimal (digitValue c) = [c] := by
  rw [decimal, if_pos (digitValue_lt digit), digitChar_digitValue digit]

private theorem decimal_append_digit {n : Nat} {c : Char} (positive : 0 < n) (digit : isDigit c = true) :
    decimal (10 * n + digitValue c) = decimal n ++ [c] := by
  have small := digitValue_lt digit
  have front : (10 * n + digitValue c) / 10 = n := by omega
  have last : (10 * n + digitValue c) % 10 = digitValue c := by omega
  rw [decimal, if_neg (by omega), front, last, digitChar_digitValue digit]

/-- Digits are the numeral of their number with zeros in front. By induction on the last digit: as long as all
digits before it are zeros, it is a numeral of its own. -/
theorem exists_zeros_decimal {ds : List Char} (some_ : ds ≠ []) (digits : ∀ c ∈ ds, isDigit c = true) :
    ∃ zeros, ds = List.replicate zeros '0' ++ decimal (ofDigits ds) := by
  induction ds using List.reverseRecOn with
  | nil => exact absurd rfl some_
  | append_singleton ds c ih =>
    have last : isDigit c = true := digits c (by simp)
    rw [ofDigits_append_singleton]
    by_cases single : ds = []
    · subst single
      have value : 10 * ofDigits [] + digitValue c = digitValue c := by simp [ofDigits]
      exact ⟨0, by rw [value, decimal_digitValue last]; rfl⟩
    · obtain ⟨zeros, whole⟩ := ih single fun d member => digits d (by simp [member])
      generalize ofDigits ds = n at whole
      obtain rfl | positive := Nat.eq_zero_or_pos n
      · refine ⟨zeros + 1, ?_⟩
        rw [whole, decimal_zero, Nat.mul_zero, Nat.zero_add, decimal_digitValue last, List.replicate_succ']
      · refine ⟨zeros, ?_⟩
        rw [whole, decimal_append_digit positive last, List.append_assoc]

theorem natural?_eq_some_iff {ds : List Char} {n : Nat} :
    natural? ds = some n ↔ ∃ zeros, ds = List.replicate zeros '0' ++ decimal n := by
  constructor
  · intro read
    unfold natural? at read
    split at read
    · cases read
    · rename_i digits
      simp only [Bool.or_eq_true, List.isEmpty_iff, Bool.not_eq_true', List.all_eq_false, not_or, not_exists] at digits
      cases read
      exact exists_zeros_decimal digits.1 (by simpa using digits.2)
  · rintro ⟨zeros, rfl⟩
    have digits : (List.replicate zeros '0' ++ decimal n).all isDigit = true := by
      rw [List.all_append, List.all_eq_true.2 fun _ => isDigit_of_mem_decimal, Bool.and_true]
      exact List.all_eq_true.2 fun c member => by rw [List.eq_of_mem_replicate member]; rfl
    rw [natural?, digits, if_neg (by simp [decimal_ne_nil]), ofDigits_zeros, ofDigits_decimal]

private theorem natural?_plus (ds : List Char) : natural? ('+' :: ds) = none := by
  simp [natural?, isDigit]

private theorem denotes_iff_of_plus {text : String} {ds : List Char} {n : Nat} (plus : text.toList = '+' :: ds) :
    Denotes text n ↔ natural? ds = some n := by
  rw [natural?_eq_some_iff, Denotes, plus]
  constructor
  · rintro ⟨sign, zeros, rfl | rfl, whole⟩
    · have read := natural?_eq_some_iff.2 ⟨zeros, whole.trans (List.nil_append _)⟩
      rw [natural?_plus] at read
      cases read
    · exact ⟨zeros, List.tail_eq_of_cons_eq whole⟩
  · rintro ⟨zeros, rfl⟩
    exact ⟨['+'], zeros, .inr rfl, rfl⟩

private theorem denotes_iff_of_noPlus {text : String} {n : Nat} (noPlus : ∀ ds, text.toList ≠ '+' :: ds) :
    Denotes text n ↔ natural? text.toList = some n := by
  rw [natural?_eq_some_iff]
  constructor
  · rintro ⟨sign, zeros, rfl | rfl, whole⟩
    · exact ⟨zeros, whole⟩
    · exact absurd whole (noPlus _)
  · rintro ⟨zeros, whole⟩
    exact ⟨[], zeros, .inl rfl, whole⟩

theorem unsigned?_eq_some_iff {bound n : Nat} {text : String} :
    unsigned? bound text = some n ↔ n < bound ∧ Denotes text n := by
  unfold unsigned?
  split
  · rename_i ds plus
    rw [denotes_iff_of_plus plus]
    grind
  · rename_i noPlus
    rw [denotes_iff_of_noPlus noPlus]
    grind

/-! ## Fixed width -/

theorem length_decimalFixed (width n : Nat) : (decimalFixed width n).length = width := by
  induction width generalizing n with
  | zero => rfl
  | succ width ih => simp [decimalFixed, ih]

theorem isDigit_of_mem_decimalFixed {width n : Nat} {c : Char} (member : c ∈ decimalFixed width n) :
    isDigit c = true := by
  induction width generalizing n with
  | zero => simp [decimalFixed] at member
  | succ width ih =>
    rcases List.mem_append.1 member with front | last
    · exact ih front
    · obtain rfl := List.mem_singleton.1 last
      exact isDigit_digitChar (Nat.mod_lt _ (by decide))

theorem ofDigits_decimalFixed (width n : Nat) : ofDigits (decimalFixed width n) = n % 10 ^ width := by
  induction width generalizing n with
  | zero => simp [decimalFixed, ofDigits, Nat.mod_one]
  | succ width ih =>
    rw [decimalFixed, ofDigits_append_singleton, ih, digitValue_digitChar (Nat.mod_lt _ (by decide)),
      Nat.pow_succ, Nat.mul_comm (10 ^ width) 10, Nat.mod_mul]
    omega

theorem ofDigits_decimalFixed_of_lt {width n : Nat} (fits : n < 10 ^ width) :
    ofDigits (decimalFixed width n) = n := by
  rw [ofDigits_decimalFixed, Nat.mod_eq_of_lt fits]

end Enrolment.Text
