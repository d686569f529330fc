import Enrolment.Proofs.Store.Sight
import Mathlib.Logic.Function.Basic
/-!
How many scopes each thread has open on a data store. To open a scope and to end one is to count one up
or down for the thread itself, and for no other (`DataStore.depth_openScope`, `DataStore.depth_closeScope`).
-/
namespace Enrolment.Store

def depthOf? (scopes : Nat) : Option Nat := if scopes = 0 then none else some scopes

theorem depthOf?_eq_none {scopes : Nat} : depthOf? scopes = none ↔ scopes = 0 := by simp [depthOf?]

theorem depthOf?_eq_some {scopes n : Nat} : depthOf? scopes = some n ↔ scopes = n ∧ 0 < n := by
  unfold depthOf?
  split
  · simp only [reduceCtorEq, false_iff]
    omega
  · simp only [Option.some.injEq]
    omega

theorem getD_depthOf? (scopes : Nat) : (depthOf? scopes).getD 0 = scopes := by
  unfold depthOf?
  split <;> simp [*]

namespace DataStore

variable {s : DataStore} {t : Thread}

section

variable {κ α : Type} [DecidableEq κ] (table : Table κ α) (key : κ)

private theorem get?_put_eq (a : α) : (table.put key a).get? = Function.update table.get? key (some a) := by
  funext other
  rw [Table.get?_put, Function.update_apply]
  simp only [eq_comm]

private theorem get?_erase_eq : (table.erase key).get? = Function.update table.get? key none := by
  funext other
  rw [Table.get?_erase, Function.update_apply]
  simp only [eq_comm]

end

private theorem depth_update {d : Database} {transactions : Table Thread Transaction} {transaction : Option Transaction}
    (changed : transactions.get? = Function.update d.transactions.get? t transaction) (committed : Tables) :
    (database { d with committed, transactions }).depth? =
      Function.update (database d).depth? t (transaction.map (·.depth)) := by
  funext u
  show (transactions.get? u).map _ = _
  rw [changed, Function.update_apply, Function.update_apply]
  split <;> rfl

theorem depth_openScope {scopes : Nat} (before : s.depth? t = depthOf? scopes) :
    (s.openScope t).1 = .ok () ∧ (s.openScope t).2.depth? = Function.update s.depth? t (depthOf? (scopes + 1)) ∨
      (∃ e, (s.openScope t).1 = .error e) ∧ (s.openScope t).2.depth? = s.depth? := by
  have one (n : Nat) : depthOf? (n + 1) = some (n + 1) := if_neg (Nat.succ_ne_zero n)
  cases s with
  | memory m =>
    have before : m.transactions.get? t = depthOf? scopes := before
    refine Or.inl ⟨rfl, ?_⟩
    show (m.transactions.put t ((m.transactions.get? t).getD 0 + 1)).get? = _
    rw [get?_put_eq, before, getD_depthOf?, one]
    rfl
  | database d =>
    show (d.openScope t).1 = .ok () ∧ (database (d.openScope t).2).depth? = _ ∨
      (∃ e, (d.openScope t).1 = .error e) ∧ (database (d.openScope t).2).depth? = _
    have before : (d.transactions.get? t).map (·.depth) = depthOf? scopes := before
    unfold Database.openScope
    cases open_ : d.transactions.get? t with
    | some transaction =>
      rw [open_] at before
      obtain ⟨rfl, -⟩ := depthOf?_eq_some.1 before.symm
      rw [one]
      exact Or.inl ⟨rfl, depth_update (get?_put_eq _ _ _) _⟩
    | none =>
      rw [open_] at before
      obtain rfl := depthOf?_eq_none.1 before.symm
      dsimp only
      split
      · exact Or.inr ⟨⟨_, rfl⟩, rfl⟩
      · exact Or.inl ⟨rfl, depth_update (get?_put_eq _ _ _) _⟩

theorem depth_closeScope {scopes : Nat} (before : s.depth? t = depthOf? scopes) (commit : Bool) :
    (s.closeScope t commit).2.depth? = Function.update s.depth? t (depthOf? (scopes - 1)) := by
  cases s with
  | memory m =>
    have before : m.transactions.get? t = depthOf? scopes := before
    show (m.closeScope t).transactions.get? = _
    unfold Memory.closeScope
    split
    · rename_i depth open_
      obtain ⟨rfl, -⟩ := depthOf?_eq_some.1 (before.symm.trans open_)
      exact get?_put_eq _ _ _
    · rename_i other
      refine (get?_erase_eq _ _).trans (congrArg _ (depthOf?_eq_none.2 ?_).symm)
      by_contra more
      obtain ⟨n, rfl⟩ : ∃ n, scopes = n + 2 := ⟨scopes - 2, by omega⟩
      exact other n before
  | database d =>
    show (database (d.closeScope t commit).2).depth? = _
    have before : (d.transactions.get? t).map (·.depth) = depthOf? scopes := before
    unfold Database.closeScope
    cases open_ : d.transactions.get? t with
    | none =>
      rw [open_] at before
      obtain rfl := depthOf?_eq_none.1 before.symm
      exact (Function.update_eq_self_iff.2 (congrArg (Option.map _) open_).symm).symm
    | some transaction =>
      rw [open_] at before
      obtain ⟨rfl, -⟩ := depthOf?_eq_some.1 before.symm
      dsimp only
      split
      · rename_i inner
        have left : depthOf? (transaction.depth - 1) = some (transaction.depth - 1) := if_neg (by omega)
        rw [left]
        exact depth_update (get?_put_eq _ _ _) _
      · rename_i last
        rw [depthOf?_eq_none.2 (show transaction.depth - 1 = 0 by omega)]
        split <;> exact depth_update (get?_erase_eq _ _) _

end DataStore
end Enrolment.Store
