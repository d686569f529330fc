/-!
Tables: rows under keys, in the order in which the keys first came. A key has one row at most, the
first of its name (`get?_put`, `get?_erase`).
-/
namespace Enrolment

abbrev Table (κ α : Type) := List (κ × α)

namespace Table

variable {κ α β : Type} [DecidableEq κ]

def get? (t : Table κ α) (key : κ) : Option α := (t.find? (·.1 = key)).map (·.2)

/-- Puts a row in the place of the one under its key, or last. -/
def put : Table κ α → κ → α → Table κ α
  | [], key, a => [(key, a)]
  | row :: rest, key, a => if row.1 = key then (key, a) :: rest else row :: put rest key a

def erase (t : Table κ α) (key : κ) : Table κ α := t.filter (·.1 ≠ key)

def modify (t : Table κ α) (key : κ) (f : α → α) : Table κ α :=
  match t.get? key with
  | some a => t.put key (f a)
  | none => t

theorem get?_nil (key : κ) : get? ([] : Table κ α) key = none := rfl

theorem get?_cons (row : κ × α) (rest : Table κ α) (key : κ) :
    get? (row :: rest) key = if row.1 = key then some row.2 else get? rest key := by
  by_cases h : row.1 = key <;> simp [get?, h]

theorem get?_put (t : Table κ α) (key other : κ) (a : α) :
    (t.put key a).get? other = if key = other then some a else t.get? other := by
  induction t with
  | nil => simp [put, get?_cons, get?_nil]
  | cons row rest ih =>
    unfold put
    split
    · rename_i same
      subst same
      by_cases h : row.1 = other <;> simp [get?_cons, h]
    · rename_i different
      rw [get?_cons, get?_cons, ih]
      by_cases h : row.1 = other
      · have : key ≠ other := fun e => different (h.trans e.symm)
        simp [h, this]
      · simp [h]

theorem get?_erase (t : Table κ α) (key other : κ) :
    (t.erase key).get? other = if key = other then none else t.get? other := by
  induction t with
  | nil => simp [erase, get?_nil]
  | cons row rest ih =>
    unfold erase at ih ⊢
    by_cases h : row.1 = key
    · rw [List.filter_cons_of_neg (by simp [h]), ih, get?_cons, h]
      by_cases same : key = other <;> simp [same]
    · rw [List.filter_cons_of_pos (by simp [h]), get?_cons, get?_cons, ih]
      by_cases same : row.1 = other
      · have : key ≠ other := fun e => h (same.trans e.symm)
        simp [same, this]
      · simp [same]

end Table
end Enrolment
