import Enrolment.Store.Table
import Mathlib.Data.List.Forall2
/-!
Two tables that hold the same rows in the same order, in two forms. Whatever is done to both alike
keeps them so.
-/
namespace Enrolment.Table

variable {κ κ' α β : Type} {name : κ' → κ} {shows : κ' → α → β → Prop}

/-- Each row of the first table shows the row of the second in its place, under the name of its key. -/
def Rows (name : κ' → κ) (shows : κ' → α → β → Prop) (t : Table κ α) (u : Table κ' β) : Prop :=
  List.Forall₂ (fun row row' => row.1 = name row'.1 ∧ shows row'.1 row.2 row'.2) t u

theorem Rows.length_eq {t : Table κ α} {u : Table κ' β} (rows : Rows name shows t u) : t.length = u.length :=
  List.Forall₂.length_eq rows

theorem Rows.append {t t' : Table κ α} {u u' : Table κ' β} (rows : Rows name shows t u) (more : Rows name shows t' u') :
    Rows name shows (t ++ t') (u ++ u') :=
  List.rel_append rows more

theorem Rows.map_fst {t : Table κ α} {u : Table κ' β} (rows : Rows name shows t u) :
    t.map (·.1) = (u.map (·.1)).map name := by
  induction rows with
  | nil => rfl
  | cons head _ ih => simp [head.1, ih]

theorem Rows.find? {t : Table κ α} {u : Table κ' β} (rows : Rows name shows t u) (first : κ × α → Bool)
    (second : κ' × β → Bool) (agree : ∀ k a b, shows k a b → first (name k, a) = second (k, b)) :
    (t.find? first).map (·.1) = (u.find? second).map fun row => name row.1 := by
  induction rows with
  | nil => rfl
  | @cons row row' t u head _ ih =>
    obtain ⟨same, shown⟩ := head
    have test : first row = second row' := by
      have tested := agree row'.1 row.2 row'.2 shown
      rwa [← same] at tested
    cases passes : second row' with
    | true => simp [test, passes, same]
    | false => simpa [test, passes] using ih

variable [DecidableEq κ] [DecidableEq κ']

theorem mem_of_get? {t : Table κ α} {key : κ} {a : α} (found : t.get? key = some a) : (key, a) ∈ t := by
  obtain ⟨row, there, rfl⟩ := Option.map_eq_some_iff.1 found
  obtain rfl : row.1 = key := by simpa using List.find?_some there
  exact List.mem_of_find?_eq_some there

theorem Rows.get? {t : Table κ α} {u : Table κ' β} (injective : Function.Injective name)
    (rows : Rows name shows t u) (k : κ') : Option.Rel (shows k) (t.get? (name k)) (u.get? k) := by
  induction rows with
  | nil => exact .none
  | @cons row row' t u head _ ih =>
    obtain ⟨same, shown⟩ := head
    rw [get?_cons, get?_cons, same]
    by_cases found : row'.1 = k
    · subst k
      simpa using Option.Rel.some shown
    · rw [if_neg found, if_neg (fun equal => found (injective equal))]
      exact ih

theorem Rows.put {t : Table κ α} {u : Table κ' β} (injective : Function.Injective name)
    (rows : Rows name shows t u) {k : κ'} {a : α} {b : β} (shown : shows k a b) :
    Rows name shows (t.put (name k) a) (u.put k b) := by
  induction rows with
  | nil => exact .cons ⟨rfl, shown⟩ .nil
  | @cons row row' t u head tail ih =>
    obtain ⟨same, old⟩ := head
    by_cases found : row'.1 = k
    · subst k
      rw [Table.put, Table.put, if_pos same, if_pos rfl]
      exact .cons ⟨rfl, shown⟩ tail
    · rw [Table.put, Table.put, if_neg found, if_neg (fun equal => found (injective (same.symm.trans equal)))]
      exact .cons ⟨same, old⟩ ih

theorem Rows.erase {t : Table κ α} {u : Table κ' β} (injective : Function.Injective name)
    (rows : Rows name shows t u) (k : κ') : Rows name shows (t.erase (name k)) (u.erase k) := by
  unfold Table.erase
  induction rows with
  | nil => exact .nil
  | @cons row row' t u head tail ih =>
    obtain ⟨same, old⟩ := head
    rw [List.filter_cons, List.filter_cons]
    by_cases found : row'.1 = k
    · rw [if_neg (by simp [same, found]), if_neg (by simp [found])]
      exact ih
    · rw [if_pos (by simpa using fun equal => found (injective (same.symm.trans equal))), if_pos (by simpa using found)]
      exact .cons ⟨same, old⟩ ih

theorem Rows.modify {t : Table κ α} {u : Table κ' β} (injective : Function.Injective name)
    (rows : Rows name shows t u) {k : κ'} {f : α → α} {g : β → β} (keeps : ∀ a b, shows k a b → shows k (f a) (g b)) :
    Rows name shows (t.modify (name k) f) (u.modify k g) := by
  have found := rows.get? injective k
  unfold Table.modify
  generalize t.get? (name k) = o at found
  generalize u.get? k = o' at found
  cases found with
  | none => exact rows
  | some shown => exact rows.put injective (keeps _ _ shown)

/-! ## Keys that do not repeat -/

theorem map_fst_put_of_mem {t : Table κ α} {k : κ} (there : k ∈ t.map (·.1)) (a : α) :
    (t.put k a).map (·.1) = t.map (·.1) := by
  induction t with
  | nil => simp at there
  | cons row rest ih =>
    by_cases found : row.1 = k
    · simp [Table.put, found]
    · have later : k ∈ rest.map (·.1) := by simpa [Ne.symm found] using there
      simp only [Table.put, if_neg found, List.map_cons, ih later]

theorem put_of_notMem {t : Table κ α} {k : κ} (absent : k ∉ t.map (·.1)) (a : α) : t.put k a = t ++ [(k, a)] := by
  induction t with
  | nil => rfl
  | cons row rest ih =>
    simp only [List.map_cons, List.mem_cons, not_or] at absent
    rw [Table.put, if_neg (Ne.symm absent.1), ih absent.2, List.cons_append]

theorem nodup_put {t : Table κ α} (distinct : (t.map (·.1)).Nodup) (k : κ) (a : α) : ((t.put k a).map (·.1)).Nodup := by
  by_cases there : k ∈ t.map (·.1)
  · rwa [map_fst_put_of_mem there]
  · rw [put_of_notMem there, List.map_append]
    exact List.nodup_append.2 ⟨distinct, by simp, by rintro x member y last rfl; simp_all⟩

theorem put_append {t : Table κ α} {k : κ} (absent : k ∉ t.map (·.1)) (a b : α) (rest : Table κ α) :
    Table.put (t ++ (k, a) :: rest) k b = t ++ (k, b) :: rest := by
  induction t with
  | nil => simp [Table.put]
  | cons row before ih =>
    simp only [List.map_cons, List.mem_cons, not_or] at absent
    rw [List.cons_append, Table.put, if_neg (Ne.symm absent.1), ih absent.2, List.cons_append]

theorem modify_eq_map {t : Table κ α} (distinct : (t.map (·.1)).Nodup) (k : κ) (f : α → α) :
    t.modify k f = t.map fun row => if row.1 = k then (row.1, f row.2) else row := by
  unfold Table.modify
  induction t with
  | nil => rfl
  | cons row rest ih =>
    rw [List.map_cons, List.nodup_cons] at distinct
    obtain ⟨new, distinct⟩ := distinct
    have ih := ih distinct
    rw [get?_cons, List.map_cons]
    by_cases found : row.1 = k
    · subst found
      have others : rest.map (fun other => if other.1 = row.1 then (other.1, f other.2) else other) = rest.map id :=
        List.map_congr_left fun other there => if_neg fun same => new (List.mem_map.2 ⟨other, there, same⟩)
      simp [Table.put, others]
    · rw [if_neg found, if_neg found, ← ih]
      cases Table.get? rest k with
      | none => rfl
      | some a => simp [Table.put, found]

end Enrolment.Table
