import Enrolment.Identity
/-!
Groups: a revision number and a set of members, kept in the order of their identifiers.
-/
namespace Enrolment

/-- A set of account identifiers, as a list in ascending order. -/
structure Members where
  list : List Aci
  ascending : list.Pairwise (·.uuid < ·.uuid)
  deriving DecidableEq

namespace Members

def insertSorted (a : Aci) : List Aci → List Aci
  | [] => [a]
  | b :: rest =>
    if a.uuid < b.uuid then a :: b :: rest
    else if a = b then b :: rest
    else b :: insertSorted a rest

theorem mem_insertSorted {a x : Aci} {l : List Aci} : x ∈ insertSorted a l ↔ x = a ∨ x ∈ l := by
  induction l with
  | nil => simp [insertSorted]
  | cons b rest ih =>
    unfold insertSorted
    split
    · simp
    · split
      · rename_i same
        subst same
        simp
      · simp only [List.mem_cons, ih]
        constructor <;> rintro (h | h | h) <;> simp [h]

theorem not_lt_iff_lt_or_eq {a b : Aci} : ¬ a.uuid < b.uuid ↔ b.uuid < a.uuid ∨ a = b := by
  show ¬ a.uuid.toNat < b.uuid.toNat ↔ b.uuid.toNat < a.uuid.toNat ∨ a = b
  constructor
  · intro h
    rcases Nat.lt_or_ge b.uuid.toNat a.uuid.toNat with less | more
    · exact Or.inl less
    · refine Or.inr ?_
      have same : a.uuid.bits.toNat = b.uuid.bits.toNat := Nat.le_antisymm more (Nat.not_lt.1 h)
      cases a; rename_i u; cases b; rename_i v
      cases u; cases v
      simp only at same
      rw [BitVec.eq_of_toNat_eq same]
  · rintro (h | rfl)
    · exact Nat.not_lt.2 (Nat.le_of_lt h)
    · exact Nat.lt_irrefl _

theorem ascending_insertSorted (a : Aci) {l : List Aci} (h : l.Pairwise (·.uuid < ·.uuid)) :
    (insertSorted a l).Pairwise (·.uuid < ·.uuid) := by
  induction l with
  | nil => simp [insertSorted]
  | cons b rest ih =>
    obtain ⟨first, later⟩ := List.pairwise_cons.1 h
    unfold insertSorted
    split
    · rename_i less
      refine List.pairwise_cons.2 ⟨?_, h⟩
      intro x member
      rcases List.mem_cons.1 member with rfl | member
      · exact less
      · exact Nat.lt_trans less (first x member)
    · split
      · exact h
      · rename_i notLess different
        refine List.pairwise_cons.2 ⟨?_, ih later⟩
        intro x member
        rcases mem_insertSorted.1 member with rfl | member
        · exact (not_lt_iff_lt_or_eq.1 notLess).resolve_right different
        · exact first x member

def empty : Members := ⟨[], List.Pairwise.nil⟩

instance : Inhabited Members := ⟨empty⟩

def contains (s : Members) (a : Aci) : Bool := s.list.contains a

def insert (s : Members) (a : Aci) : Members := ⟨insertSorted a s.list, ascending_insertSorted a s.ascending⟩

def erase (s : Members) (a : Aci) : Members := ⟨s.list.filter (· ≠ a), s.ascending.filter _⟩

def ofList (l : List Aci) : Members := l.foldl insert empty

def toJson (s : Members) : Json := .list Aci.toJson s.list

def ofJson? (j : Json) : Option Members := (j.asList? Aci.ofJson?).map ofList

end Members

structure Group where
  id : GroupId
  revision : UInt32
  members : Members
  deriving DecidableEq, Inhabited

namespace Group

def new (id : GroupId) : Group := ⟨id, 0, Members.empty⟩

def toJson (g : Group) : Json :=
  .obj [("id", g.id.toJson), ("revision", .nat g.revision.toNat), ("members", g.members.toJson)]

def ofJson? (j : Json) : Option Group := do
  let f ← j.fields? ["id", "revision", "members"]
  let id ← f.required? "id" GroupId.ofJson?
  let revision ← f.required? "revision" Json.asUInt32?
  let members ← f.required? "members" Members.ofJson?
  return ⟨id, revision, members⟩

end Group
end Enrolment
