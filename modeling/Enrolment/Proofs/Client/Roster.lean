import Enrolment.Client.Membership
import Mathlib.Data.Set.Insert
/-!
The members of a group as a set, and what a change makes of it. Main statements: a change adds the
accounts that it lists or takes them away (`MembershipChange.accounts_apply`), and it tells of a difference
just when there is one (`MembershipChange.carryOut_eq`).
-/
namespace Enrolment

namespace Members

variable {s s' : Members} {a b : Aci}

def accounts (s : Members) : Set Aci := {a | a ∈ s.list}

@[simp] theorem mem_accounts : a ∈ s.accounts ↔ a ∈ s.list := Iff.rfl

theorem nodup (s : Members) : s.list.Nodup := s.ascending.imp fun less same => by
  subst same
  exact absurd less (Nat.lt_irrefl _)

theorem accounts_injective : Function.Injective accounts := by
  rintro ⟨l, ascending⟩ ⟨l', ascending'⟩ same
  have perm : l.Perm l' :=
    (List.perm_ext_iff_of_nodup (nodup ⟨l, ascending⟩) (nodup ⟨l', ascending'⟩)).2 fun a => Set.ext_iff.1 same a
  have only : l = l' := by
    refine perm.eq_of_pairwise (fun a b _ _ less more => ?_) ascending ascending'
    exact absurd less (Nat.lt_asymm more)
  subst only
  rfl

@[simp] theorem contains_iff : s.contains a = true ↔ a ∈ s.accounts := List.contains_iff_mem

@[simp] theorem accounts_insert : (s.insert a).accounts = Insert.insert a s.accounts := Set.ext fun _ => mem_insertSorted

@[simp] theorem accounts_erase : (s.erase a).accounts = s.accounts \ {a} := by
  ext b
  simp [erase]

@[simp] theorem accounts_empty : empty.accounts = ∅ := by
  ext
  simp [empty]

end Members

namespace Client

open Activity

namespace MembershipChange

def intended (accounts : Set Aci) : MembershipChange → Set Aci
  | add acis => accounts ∪ {a | a ∈ acis}
  | remove acis => accounts \ {a | a ∈ acis}

theorem accounts_apply (members : Members) (change : MembershipChange) :
    (change.apply members).accounts = change.intended members.accounts := by
  cases change with
  | add acis =>
    show (acis.foldl Members.insert members).accounts = members.accounts ∪ {a | a ∈ acis}
    induction acis generalizing members with
    | nil => simp
    | cons a acis ih =>
      rw [List.foldl_cons, ih, Members.accounts_insert]
      ext b
      simp [or_assoc, or_left_comm]
  | remove acis =>
    show (acis.foldl Members.erase members).accounts = members.accounts \ {a | a ∈ acis}
    induction acis generalizing members with
    | nil =>
      ext b
      simp
    | cons a acis ih =>
      rw [List.foldl_cons, ih, Members.accounts_erase]
      ext b
      simp [and_assoc]

theorem apply_eq_self_iff {members : Members} {change : MembershipChange} :
    change.apply members = members ↔ change.intended members.accounts = members.accounts := by
  rw [← accounts_apply]
  exact ⟨congrArg _, fun same => Members.accounts_injective same⟩

/-- Whoever goes through a list, from a difference or from none, and tells whether there was one in the end. As soon
as something differs, later accounts cannot undo that. -/
private theorem foldl_telling {make : Members → Aci → Members} {differs : Members → Aci → Bool}
    (idle : ∀ members a, differs members a = false → make members a = members) (acis : List Aci) (changed : Bool)
    (members : Members) :
    acis.foldl (fun (changed, members) a => (differs members a || changed, make members a)) (changed, members) =
      (changed || acis.any (differs members), acis.foldl make members) := by
  induction acis generalizing changed members with
  | nil => simp
  | cons a acis ih =>
    rw [List.foldl_cons, List.foldl_cons, ih]
    cases told : differs members a with
    | true => simp [told]
    | false => simp [told, idle members a told]

theorem carryOut_eq (members : Members) (change : MembershipChange) :
    change.carryOut members = (decide (change.apply members ≠ members), change.apply members) := by
  cases change with
  | add acis =>
    have idle (members : Members) (a : Aci) (there : (!members.contains a) = false) : members.insert a = members := by
      refine Members.accounts_injective ?_
      rw [Members.accounts_insert]
      exact Set.insert_eq_of_mem (Members.contains_iff.1 (by simpa using there))
    have told : acis.any (fun a => !members.contains a) = decide ((add acis).apply members ≠ members) := by
      rw [Bool.eq_iff_iff, decide_eq_true_iff, ne_eq, apply_eq_self_iff, intended, Set.union_eq_left]
      simp [Set.not_subset, Members.contains]
    exact (foldl_telling idle acis false members).trans (by rw [Bool.false_or, told]; rfl)
  | remove acis =>
    have idle (members : Members) (a : Aci) (absent : members.contains a = false) : members.erase a = members := by
      refine Members.accounts_injective ?_
      rw [Members.accounts_erase]
      ext b
      simp only [Set.mem_sdiff, Set.mem_singleton_iff, and_iff_left_iff_imp]
      rintro there rfl
      exact absurd (Members.contains_iff.2 there) (by simp [absent])
    have told : acis.any members.contains = decide ((remove acis).apply members ≠ members) := by
      rw [Bool.eq_iff_iff, decide_eq_true_iff, ne_eq, apply_eq_self_iff, intended, Set.ext_iff]
      simp [Members.contains, and_comm]
    exact (foldl_telling idle acis false members).trans (by rw [Bool.false_or, told]; rfl)

end MembershipChange

def MembershipChange.revise (change : MembershipChange) (before : Group) : Activity GroupError Group :=
  let members := change.apply before.members
  if members = before.members then pure before
  else if before.revision.toNat + 1 < UInt32.size then
    let after := { before with revision := before.revision + 1, members }
    mapError GroupError.store (store (.putGroup after)) >>= fun _ => pure after
  else throw .revisionOverflow

theorem changeGuarded_eq (id : GroupId) (change : MembershipChange) :
    changeGuarded id change = mapError GroupError.store (store (.group id)) >>= fun stored =>
      change.revise (stored.getD (.new id)) := by
  unfold changeGuarded
  refine congrArg _ (funext fun stored => ?_)
  dsimp only
  generalize made : MembershipChange.carryOut (stored.getD (.new id)).members change = outcome
  rw [MembershipChange.carryOut_eq] at made
  subst made
  simp only [decide_eq_true_iff, ne_eq, ite_not]
  rfl

end Client
end Enrolment
