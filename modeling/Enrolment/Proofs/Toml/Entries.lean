import Enrolment.Proofs.Store.Order
import Enrolment.Toml.Reader
/-!
A document has at most one entry under a name. Its outermost table grows only by altering what lies under one
name, statement by statement (`distinct_readStatement`), so what is found there is all there is
(`get?_of_document?`).
-/
namespace Enrolment.Toml

namespace Entries

def Distinct (entries : Entries) : Prop := (entries.map (·.1)).Nodup

theorem Distinct.get?_eq_some_iff {entries : Entries} (distinct : entries.Distinct) {key : String} {v : Value} :
    entries.get? key = some v ↔ (key, v) ∈ entries :=
  Table.get?_eq_some_iff distinct

variable {entries grown : Entries} {key : String} {change : Option Value → Option Value}

/-- An entry that is altered keeps its place, and a new one comes last. -/
theorem map_fst_alter (altered : entries.alter key change = some grown) :
    grown.map (·.1) = entries.map (·.1) ∨
      key ∉ entries.map (·.1) ∧ grown.map (·.1) = entries.map (·.1) ++ [key] := by
  induction entries generalizing grown with
  | nil =>
    obtain ⟨v, -, rfl⟩ := Option.map_eq_some_iff.1 altered
    exact .inr ⟨List.not_mem_nil, rfl⟩
  | cons entry rest ih =>
    obtain ⟨k, v⟩ := entry
    rw [alter] at altered
    split at altered
    · obtain ⟨v', -, rfl⟩ := Option.map_eq_some_iff.1 altered
      exact .inl rfl
    · rename_i other
      obtain ⟨grown', altered', rfl⟩ := Option.map_eq_some_iff.1 altered
      obtain same | ⟨new, last⟩ := ih altered'
      · exact .inl (congrArg (k :: ·) same)
      · refine .inr ⟨?_, congrArg (k :: ·) last⟩
        rw [List.map_cons, List.mem_cons, not_or]
        exact ⟨fun same => other same.symm, new⟩

theorem Distinct.alter (distinct : entries.Distinct) (altered : entries.alter key change = some grown) :
    grown.Distinct := by
  unfold Distinct
  obtain same | ⟨new, last⟩ := map_fst_alter altered
  · rwa [same]
  · rw [last]
    exact List.nodup_append.2 ⟨distinct, List.nodup_singleton key, by grind⟩

theorem Distinct.put {path : List String} {v : Value} (distinct : entries.Distinct)
    (added : entries.put path v = some grown) : grown.Distinct := by
  cases path with
  | nil => cases added
  | cons key rest =>
    cases rest with
    | nil => exact distinct.alter added
    | cons next rest => exact distinct.alter added

/-- A change further in alters one entry of the outermost table; with no path it is a change of that table. -/
theorem Distinct.within {path : List String} {change : Entries → Option Entries}
    (spares : ∀ grown, change entries = some grown → grown.Distinct) (distinct : entries.Distinct)
    (changed : entries.within change path = some grown) : grown.Distinct := by
  cases path with
  | nil => exact spares _ changed
  | cons key rest => exact distinct.alter changed

theorem Distinct.openTable {path : List String} (distinct : entries.Distinct)
    (opened : entries.openTable path = some grown) : grown.Distinct := by
  unfold Entries.openTable at opened
  split at opened
  · cases opened
  · exact distinct.within (fun _ => distinct.alter) opened

theorem Distinct.openElement {path : List String} (distinct : entries.Distinct)
    (opened : entries.openElement path = some grown) : grown.Distinct := by
  unfold Entries.openElement at opened
  split at opened
  · cases opened
  · exact distinct.within (fun _ => distinct.alter) opened

end Entries

theorem distinct_readStatement {fuel : Nat} {draft draft' : Draft} {s rest : List Char}
    (distinct : draft.entries.Distinct) (read : readStatement fuel draft s = some (draft', rest)) :
    draft'.entries.Distinct := by
  revert read
  fun_cases readStatement fuel draft s <;> intro read
  case case1 =>
    obtain ⟨grown, opened, ⟨⟩⟩ := Option.map_eq_some_iff.1 read
    exact distinct.openElement opened
  case case3 =>
    obtain ⟨grown, opened, ⟨⟩⟩ := Option.map_eq_some_iff.1 read
    exact distinct.openTable opened
  case case5 =>
    obtain ⟨grown, added, ⟨⟩⟩ := Option.map_eq_some_iff.1 read
    exact distinct.within (fun _ => distinct.put) added
  all_goals cases read

theorem distinct_readLines {fuel : Nat} {draft draft' : Draft} {s : List Char} (distinct : draft.entries.Distinct)
    (read : readLines fuel draft s = some draft') : draft'.entries.Distinct := by
  revert read
  fun_induction readLines fuel draft s with intro read
  | case2 draft =>
    cases read
    exact distinct
  | case3 fuel draft s rest more _ ih => exact ih distinct read
  | case5 fuel draft s _ draft' rest statement =>
    cases read
    exact distinct_readStatement distinct statement
  | case6 fuel draft s _ draft' rest statement _ _ _ ih => exact ih (distinct_readStatement distinct statement) read
  | _ => cases read

theorem get?_of_document? {text : String} {entries : Entries} (read : document? text = some entries) {key : String}
    {v : Value} : entries.get? key = some v ↔ (key, v) ∈ entries := by
  obtain ⟨draft, lines, rfl⟩ := Option.map_eq_some_iff.1 read
  have nothing : (⟨[], []⟩ : Draft).entries.Distinct := List.nodup_nil
  exact (distinct_readLines nothing lines).get?_eq_some_iff

end Enrolment.Toml
