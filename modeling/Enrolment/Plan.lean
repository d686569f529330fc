/-!
Plans: what an activity does, one call after another, told apart from how the calls are answered.

A plan can be run from start to end against one state, and it can be taken apart at its calls, so that
several plans can take turns. Main statement: running one plan and then another is running the two in
sequence (`run_bind`).
-/
namespace Enrolment

universe u

structure Interface where
  Call : Type u
  Answer : Call → Type

inductive Plan (I : Interface.{u}) (α : Type) : Type u where
  | done (a : α)
  | ask (call : I.Call) (next : I.Answer call → Plan I α)

namespace Plan

variable {I : Interface.{u}} {α β γ σ : Type}

protected def bind : Plan I α → (α → Plan I β) → Plan I β
  | done a, f => f a
  | ask call next, f => ask call fun answer => (next answer).bind f

instance : Monad (Plan I) where
  pure := done
  bind := Plan.bind

def call (c : I.Call) : Plan I (I.Answer c) := ask c done

abbrev Handler (I : Interface.{u}) (σ : Type) := (call : I.Call) → σ → I.Answer call × σ

def run (handler : Handler I σ) : Plan I α → σ → α × σ
  | done a, s => (a, s)
  | ask call next, s => run handler (next (handler call s).1) (handler call s).2

theorem run_pure (handler : Handler I σ) (a : α) (s : σ) : (pure a : Plan I α).run handler s = (a, s) := rfl

theorem run_call (handler : Handler I σ) (c : I.Call) (s : σ) : (call c).run handler s = handler c s := rfl

theorem run_bind (handler : Handler I σ) (p : Plan I α) (f : α → Plan I β) (s : σ) :
    (p >>= f).run handler s = (f (p.run handler s).1).run handler (p.run handler s).2 := by
  induction p generalizing s with
  | done a => rfl
  | ask call next ih => exact ih (handler call s).1 (handler call s).2

theorem bind_assoc (p : Plan I α) (f : α → Plan I β) (g : β → Plan I γ) :
    p >>= f >>= g = p >>= fun a => f a >>= g := by
  induction p with
  | done a => rfl
  | ask call next ih => exact congrArg (ask call) (funext ih)

theorem bind_pure (p : Plan I α) : p >>= pure = p := by
  induction p with
  | done a => rfl
  | ask call next ih => exact congrArg (ask call) (funext ih)

instance : LawfulMonad (Plan I) :=
  LawfulMonad.mk' _ bind_pure (fun _ _ => rfl) bind_assoc

end Plan
end Enrolment
