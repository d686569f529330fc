import Enrolment.Text.Blank
import Mathlib.Data.List.TakeWhile
/-!
Trimming: what is left of a text when the blanks are taken away at both ends, and that nothing else is
(`trims_iff`).
-/
namespace Enrolment.Text

/-- A text is another one with blanks around it, and neither starts nor ends with a blank itself. -/
def Trims (given text : String) : Prop :=
  ∃ before after, given.toList = before ++ text.toList ++ after ∧
    (∀ c ∈ before, isBlank c = true) ∧ (∀ c ∈ after, isBlank c = true) ∧
    (∀ c, text.toList.head? = some c → isBlank c = false) ∧ (∀ c, text.toList.getLast? = some c → isBlank c = false)

private theorem isBlank_head_dropBlank {s : List Char} {c : Char} (first : (dropBlank s).head? = some c) :
    isBlank c = false := by
  have stops := List.head?_dropWhile_not isBlank s
  rw [show s.dropWhile isBlank = dropBlank s from rfl, first] at stops
  simpa using stops

private theorem dropBlank_of_head {s : List Char} (visible : ∀ c, s.head? = some c → isBlank c = false) :
    dropBlank s = s := by
  cases s with
  | nil => rfl
  | cons c s => exact List.dropWhile_cons_of_neg (by simp [visible c rfl])

theorem trims_trim (given : String) : Trims given (trim given) := by
  have front : given.toList.takeWhile isBlank ++ dropBlank given.toList = given.toList := List.takeWhile_append_dropWhile
  have back : (dropBlank given.toList).reverse.takeWhile isBlank ++ dropBlank (dropBlank given.toList).reverse =
      (dropBlank given.toList).reverse := List.takeWhile_append_dropWhile
  have inner : dropBlank given.toList =
      trimChars given.toList ++ ((dropBlank given.toList).reverse.takeWhile isBlank).reverse := by
    rw [trimChars, ← List.reverse_append, back, List.reverse_reverse]
  refine ⟨given.toList.takeWhile isBlank, ((dropBlank given.toList).reverse.takeWhile isBlank).reverse, ?_⟩
  rw [trim, String.toList_ofList]
  refine ⟨?_, fun c => List.mem_takeWhile_imp, ?_, ?_, ?_⟩
  · rw [List.append_assoc, ← inner, front]
  · intro c member
    exact List.mem_takeWhile_imp (List.mem_reverse.1 member)
  · intro c first
    apply isBlank_head_dropBlank (s := given.toList)
    rw [inner, List.head?_append, first, Option.some_or]
  · intro c last
    rw [trimChars, List.getLast?_reverse] at last
    exact isBlank_head_dropBlank last

theorem trims_iff {given text : String} : Trims given text ↔ text = trim given := by
  constructor
  · rintro ⟨before, after, whole, blank, blank', first, last⟩
    have right : dropBlank (after.reverse ++ text.toList.reverse) = text.toList.reverse := by
      rw [dropBlank, List.dropWhile_append_of_pos (by simpa using blank')]
      apply dropBlank_of_head
      simpa using last
    apply String.toList_injective
    rw [trim, String.toList_ofList, trimChars, whole, List.append_assoc, dropBlank, dropBlank,
      List.dropWhile_append_of_pos blank]
    cases empty : text.toList with
    | nil =>
      have nothing : after.dropWhile isBlank = [] := List.dropWhile_eq_nil_iff.2 blank'
      rw [List.nil_append, nothing]
      rfl
    | cons c rest =>
      have visible : (text.toList ++ after).dropWhile isBlank = text.toList ++ after := by
        apply dropBlank_of_head
        intro c head
        apply first c
        simpa [empty] using head
      rw [← empty, visible, List.reverse_append, show List.dropWhile isBlank _ = text.toList.reverse from right,
        List.reverse_reverse]
  · rintro rfl
    exact trims_trim given

end Enrolment.Text
