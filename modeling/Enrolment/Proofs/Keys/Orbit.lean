import Enrolment.Identity
import Mathlib.Data.List.Iterate
import Mathlib.Data.List.Nodup
import Mathlib.Data.Nat.ModEq
/-!
The ids of prekeys. A counter goes round in a space of 24 bits, so an id comes back only after all the
others have had their turn (`nodup_window`).
-/
namespace Enrolment.PreKeyId

/-- Ids that the service knows. Zero is not one of them. -/
def InRange (id : PreKeyId) : Prop := 1 ≤ id.value.toNat ∧ id.value.toNat ≤ max

instance (id : PreKeyId) : Decidable id.InRange := inferInstanceAs (Decidable (_ ∧ _))

private theorem toNat_succ {id : PreKeyId} (below : id.value.toNat < max) : (id.value + 1).toNat = id.value.toNat + 1 := by
  have fits : id.value.toNat + 1 < 2 ^ 32 := by
    have small : max < 2 ^ 32 := by decide
    omega
  rw [UInt32.toNat_add]
  exact Nat.mod_eq_of_lt fits

theorem inRange_next (id : PreKeyId) : id.next.InRange := by
  unfold next
  split
  · decide
  · rename_i below
    have succ := toNat_succ (Nat.lt_of_not_le below)
    constructor <;> simp only [succ] <;> omega

theorem toNat_next {id : PreKeyId} (range : id.InRange) : id.next.value.toNat = id.value.toNat % max + 1 := by
  obtain ⟨-, atMost⟩ := range
  unfold next
  split
  · rename_i last
    rw [Nat.le_antisymm atMost last, Nat.mod_self]
    rfl
  · rename_i below
    rw [Nat.mod_eq_of_lt (Nat.lt_of_not_le below), toNat_succ (Nat.lt_of_not_le below)]

theorem inRange_iterate_next {id : PreKeyId} (range : id.InRange) (n : Nat) : (next^[n] id).InRange := by
  cases n with
  | zero => exact range
  | succ n =>
    rw [Function.iterate_succ_apply']
    exact inRange_next _

theorem toNat_iterate_next {id : PreKeyId} (range : id.InRange) (n : Nat) :
    (next^[n] id).value.toNat = (id.value.toNat - 1 + n) % max + 1 := by
  induction n with
  | zero =>
    obtain ⟨positive, atMost⟩ := range
    rw [Function.iterate_zero_apply, Nat.add_zero, Nat.mod_eq_of_lt (by omega)]
    omega
  | succ n ih =>
    rw [Function.iterate_succ_apply', toNat_next (inRange_iterate_next range n), ih, ← Nat.add_assoc, Nat.mod_add_mod]

theorem nodup_iterate_next {id : PreKeyId} (range : id.InRange) {n : Nat} (short : n ≤ max) :
    (List.iterate next id n).Nodup := by
  rw [← List.range_map_iterate]
  apply List.nodup_range.map_on
  intro i first k second same
  rw [List.mem_range] at first second
  have values := congrArg (fun id => id.value.toNat) same
  simp only [toNat_iterate_next range, Nat.add_right_cancel_iff] at values
  have apart : i % max = k % max := Nat.ModEq.add_left_cancel' _ values
  rwa [Nat.mod_eq_of_lt (by omega), Nat.mod_eq_of_lt (by omega)] at apart

/-- However long a counter has been going round, no id comes twice among as many as there are. -/
theorem nodup_window {id : PreKeyId} (range : id.InRange) (length start : Nat) :
    (((List.iterate next id length).drop start).take max).Nodup := by
  rcases Nat.le_total start length with within | beyond
  · obtain ⟨rest, rfl⟩ := Nat.exists_eq_add_of_le within
    rw [List.iterate_add, List.drop_left' (List.length_iterate _ _ _)]
    rcases Nat.le_total max rest with long | short
    · rw [List.take_iterate, Nat.min_eq_left long]
      exact nodup_iterate_next (inRange_iterate_next range start) (Nat.le_refl _)
    · rw [List.take_of_length_le (by rw [List.length_iterate]; exact short)]
      exact nodup_iterate_next (inRange_iterate_next range start) short
  · rw [List.drop_eq_nil_of_le (by rw [List.length_iterate]; exact beyond), List.take_nil]
    exact List.nodup_nil

end Enrolment.PreKeyId
