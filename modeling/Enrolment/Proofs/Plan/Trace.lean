import Enrolment.Proofs.Plan.Contract
/-!
What was asked and answered while a plan ran.
-/
namespace Enrolment.Plan

universe u

variable {I : Interface.{u}} {α β σ : Type}

abbrev Exchange (I : Interface.{u}) := (call : I.Call) × I.Answer call

def trace (handler : Handler I σ) : Plan I α → σ → List (Exchange I)
  | done _, _ => []
  | ask call next, s => ⟨call, (handler call s).1⟩ :: trace handler (next (handler call s).1) (handler call s).2

theorem trace_bind (handler : Handler I σ) (p : Plan I α) (f : α → Plan I β) (s : σ) :
    (p >>= f).trace handler s = p.trace handler s ++ (f (p.run handler s).1).trace handler (p.run handler s).2 := by
  induction p generalizing s with
  | done a => rfl
  | ask call next ih => exact congrArg (_ :: ·) (ih (handler call s).1 (handler call s).2)

theorem trace_map (handler : Handler I σ) (p : Plan I α) (f : α → β) (s : σ) :
    (f <$> p).trace handler s = p.trace handler s :=
  (trace_bind handler p _ s).trans (List.append_nil _)

theorem Calls.of_mem_trace {kind : I.Call → Prop} {handler : Handler I σ} {p : Plan I α} (calls : Calls kind p)
    {s : σ} {exchange : Exchange I} (member : exchange ∈ p.trace handler s) : kind exchange.1 := by
  unfold Calls at calls
  induction p generalizing s with
  | done a => cases member
  | ask call next ih =>
    rcases List.mem_cons.1 member with rfl | later
    · exact calls.1
    · exact ih _ (calls.2 _ () trivial) later

/-! ## Handlers that keep a journal -/

variable {J : Interface.{0}}

def noting (handler : Handler J σ) : Handler J (σ × List (Exchange J)) := fun call s =>
  ((handler call s.1).1, ((handler call s.1).2, s.2 ++ [⟨call, (handler call s.1).1⟩]))

theorem run_noting (handler : Handler J σ) (p : Plan J α) (s : σ) (past : List (Exchange J)) :
    p.run (noting handler) (s, past) = ((p.run handler s).1, ((p.run handler s).2, past ++ p.trace handler s)) := by
  induction p generalizing s past with
  | done a => simp [run, trace]
  | ask call next ih =>
    show (next (handler call s).1).run (noting handler) ((handler call s).2, past ++ [⟨call, (handler call s).1⟩]) = _
    rw [ih, List.append_assoc]
    rfl

end Enrolment.Plan
