import Enrolment.Proofs.Client.Ensures
import Enrolment.Proofs.Client.Journal
import Enrolment.Proofs.Keys.Honesty
import Enrolment.Proofs.Store.Sight
/-!
Runs of a client are runs on contents in memory. Whatever kind of store there is, a thread that has its
turn is answered as the contents say, and what it leaves is what its journal makes of them
(`Turn.meets`).
-/
namespace Enrolment

def Effect.IsFaithful : Effect → Prop
  | .store op => op.IsFaithful
  | _ => True

namespace Client

open Store Activity

variable {κ σ : Type}

/-- It is a thread's turn on a client with these contents. -/
structure Turn (c : Installation κ σ) (t : Thread) (m : Memory) : Prop where
  honest : c.keyFactory.Honest
  serves : c.store.Serves m
  admits : c.store.Admits t

/-- How a call is answered where there are these contents, and what it makes of them. -/
def Answers : (call : Effect) → Memory → call.Answer → Memory → Prop
  | .store op, m, answer, m' => op.Matches answer (m.perform op).1 ∧ m' = (m.perform op).2
  | .keys request, m, answer, m' => (∀ made, answer = .ok made → request.IsKept made) ∧ m' = m
  | _, m, _, m' => m' = m

theorem admits_handle {c : Installation κ σ} {t : Thread} (admits : c.store.Admits t) (call : Effect) :
    (c.handle t call).2.store.Admits t := by
  cases call with
  | store op => exact admits.perform op
  | _ => exact admits

theorem admits_run {c : Installation κ σ} {t : Thread} (admits : c.store.Admits t) {ε α : Type} (a : Activity ε α) :
    (c.run t a).2.store.Admits t := by
  unfold Installation.run
  generalize a.run = p
  induction p generalizing c with
  | done _ => exact admits
  | ask call next ih => exact ih _ (admits_handle admits call)

variable {c : Installation κ σ} {t : Thread} {m : Memory}

theorem Turn.handle (turn : Turn c t m) {call : Effect} (faithful : call.IsFaithful) :
    Answers call m (c.handle t call).1 (Journal.replay m [⟨call, (c.handle t call).1⟩]) ∧
      Turn (c.handle t call).2 t (Journal.replay m [⟨call, (c.handle t call).1⟩]) := by
  obtain ⟨honest, serves, admits⟩ := turn
  have admits' := admits_handle admits call
  cases call with
  | store op =>
    obtain ⟨answers, served⟩ := serves.perform admits faithful
    exact ⟨⟨answers, rfl⟩, honest, served, admits'⟩
  | keys request => exact ⟨⟨honest request c.keys, rfl⟩, honest, serves, admits⟩
  | _ => exact ⟨rfl, honest, serves, admits⟩

/-- Whatever an activity ensures of some view of the contents and the journal, a run of it ensures. -/
theorem Turn.meets (turn : Turn c t m) {τ : Type} {C : Plan.Contract effects τ} {view : Memory → Journal → τ}
    (foresees : ∀ call m j, C.allowed call (view m j) → call.IsFaithful ∧
      ∀ answer m', Answers call m answer m' → C.answered call (view m j) answer (view m' (j ++ [⟨call, answer⟩])))
    {j : Journal} {ε α : Type} {a : Activity ε α} {good : α → τ → Prop} {bad : ε → τ → Prop}
    (ensures : Ensures C a good bad (view m j)) :
    either good bad (c.run t a).1 (view (Journal.replay m (c.journal t a)) (j ++ c.journal t a)) ∧
      Turn (c.run t a).2 t (Journal.replay m (c.journal t a)) := by
  have honours : Plan.Honours (Plan.noting (Installation.handle (κ := κ) (σ := σ) t)) C fun state s =>
      Turn state.1 t (Journal.replay m state.2) ∧ s = view (Journal.replay m state.2) (j ++ state.2) := by
    rintro call ⟨c, k⟩ _ ⟨turn, rfl⟩ allowed
    obtain ⟨faithful, answered⟩ := foresees call _ _ allowed
    obtain ⟨answers, turn'⟩ := turn.handle faithful
    rw [← Journal.replay_append] at answers turn'
    refine ⟨_, answered _ _ answers, turn', ?_⟩
    rw [List.append_assoc]
    rfl
  obtain ⟨_, held, turn', rfl⟩ := Plan.Meets.run honours ensures (t := (c, [])) ⟨turn, by rw [List.append_nil]; rfl⟩
  rw [Plan.run_noting, List.nil_append] at held turn'
  exact ⟨held, turn'⟩

def exactly : Plan.Contract effects Memory where
  allowed call _ := call.IsFaithful
  answered := Answers

theorem Turn.run (turn : Turn c t m) {ε α : Type} {a : Activity ε α} {good : α → Memory → Prop} {bad : ε → Memory → Prop}
    (ensures : Ensures exactly a good bad m) :
    either good bad (c.run t a).1 (Journal.replay m (c.journal t a)) ∧
      Turn (c.run t a).2 t (Journal.replay m (c.journal t a)) := by
  have view : ∀ (call : Effect) (m : Memory) (_ : Journal), call.IsFaithful → call.IsFaithful ∧
      ∀ answer m', Answers call m answer m' → Answers call m answer m' := fun _ _ _ faithful => ⟨faithful, fun _ _ => id⟩
  exact turn.meets (C := exactly) view (j := []) ensures

end Client
end Enrolment
