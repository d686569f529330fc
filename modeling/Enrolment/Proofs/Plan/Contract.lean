import Enrolment.Plan
/-!
What is said of plans without running them. A contract tells when a call may be made and how it may
be answered; a plan meets it with a result if every call it makes is allowed where it is made, and
it ends with that result, whatever the answers. Main statement: a plan that meets a contract keeps
to it when it is run by a handler whose answers the contract foresees (`Meets.run`).
-/
namespace Enrolment.Plan

universe u

variable {I : Interface.{u}} {α β σ τ : Type}

/-- The state may be less than what a handler keeps: whatever the calls and answers depend on. -/
structure Contract (I : Interface.{u}) (σ : Type) where
  allowed : I.Call → σ → Prop
  answered : (call : I.Call) → σ → I.Answer call → σ → Prop

def Meets (C : Contract I σ) (post : α → σ → Prop) : Plan I α → σ → Prop
  | done a, s => post a s
  | ask call next, s => C.allowed call s ∧ ∀ answer s', C.answered call s answer s' → Meets C post (next answer) s'

theorem Meets.mono {C : Contract I σ} {post weaker : α → σ → Prop} (implies : ∀ a s, post a s → weaker a s)
    {p : Plan I α} {s : σ} (meets : Meets C post p s) : Meets C weaker p s := by
  induction p generalizing s with
  | done a => exact implies a s meets
  | ask call next ih => exact ⟨meets.1, fun answer s' answered => ih answer (meets.2 answer s' answered)⟩

theorem meets_bind {C : Contract I σ} {post : β → σ → Prop} {p : Plan I α} {f : α → Plan I β} {s : σ} :
    Meets C post (p >>= f) s ↔ Meets C (fun a s => Meets C post (f a) s) p s := by
  induction p generalizing s with
  | done a => exact Iff.rfl
  | ask call next ih =>
    constructor
    · intro meets
      exact ⟨meets.1, fun answer s' answered => ih answer |>.1 (meets.2 answer s' answered)⟩
    · intro meets
      exact ⟨meets.1, fun answer s' answered => ih answer |>.2 (meets.2 answer s' answered)⟩

theorem meets_map {C : Contract I σ} {post : β → σ → Prop} {p : Plan I α} {f : α → β} {s : σ} :
    Meets C post (f <$> p) s ↔ Meets C (fun a s => post (f a) s) p s := meets_bind

/-- A handler answers as a contract foresees, as far as a relation shows its state. -/
def Honours (handler : Handler I τ) (C : Contract I σ) (shows : τ → σ → Prop) : Prop :=
  ∀ call t s, shows t s → C.allowed call s →
    ∃ s', C.answered call s (handler call t).1 s' ∧ shows (handler call t).2 s'

theorem Meets.run {handler : Handler I τ} {C : Contract I σ} {shows : τ → σ → Prop}
    (honours : Honours handler C shows) {post : α → σ → Prop} {p : Plan I α} {t : τ} {s : σ}
    (meets : Meets C post p s) (shown : shows t s) :
    ∃ s', post (p.run handler t).1 s' ∧ shows (p.run handler t).2 s' := by
  induction p generalizing t s with
  | done a => exact ⟨s, meets, shown⟩
  | ask call next ih =>
    obtain ⟨s', answered, shown'⟩ := honours call t s shown meets.1
    exact ih _ (meets.2 _ s' answered) shown'

/-! ## Contracts without a state -/

def stateless (allowed : I.Call → Prop) (answered : (call : I.Call) → I.Answer call → Prop) : Contract I Unit :=
  ⟨fun call _ => allowed call, fun call _ answer _ => answered call answer⟩

def Calls (kind : I.Call → Prop) (p : Plan I α) : Prop := Meets (stateless kind fun _ _ => True) (fun _ _ => True) p ()

theorem calls_call {kind : I.Call → Prop} {c : I.Call} (is : kind c) : Calls kind (call c) := ⟨is, fun _ _ _ => trivial⟩

theorem calls_pure {kind : I.Call → Prop} (a : α) : Calls kind (pure a) := trivial

theorem Calls.mono {kind wider : I.Call → Prop} (implies : ∀ call, kind call → wider call) {p : Plan I α}
    (calls : Calls kind p) : Calls wider p := by
  unfold Calls at *
  induction p with
  | done a => trivial
  | ask call next ih => exact ⟨implies call calls.1, fun answer _ _ => ih answer (calls.2 answer () trivial)⟩

theorem Calls.bind {kind : I.Call → Prop} {p : Plan I α} {f : α → Plan I β} (first : Calls kind p)
    (rest : ∀ a, Calls kind (f a)) : Calls kind (p >>= f) :=
  meets_bind.2 (Meets.mono (fun a _ _ => rest a) first)

theorem Calls.map {kind : I.Call → Prop} {p : Plan I α} {f : α → β} (calls : Calls kind p) : Calls kind (f <$> p) :=
  calls.bind fun _ => trivial

theorem Calls.run_same (view : σ → β) {kind : I.Call → Prop} {handler : Handler I σ}
    (step : ∀ call s, kind call → view (handler call s).2 = view s) {p : Plan I α} (calls : Calls kind p) (s : σ) :
    view (p.run handler s).2 = view s := by
  unfold Calls at calls
  induction p generalizing s with
  | done a => rfl
  | ask call next ih => exact (ih _ (calls.2 _ () trivial) _).trans (step call s calls.1)

/-- Two handlers that answer calls of some kind alike, from states that are alike, run a plan of such
calls alike. -/
theorem Calls.run_alike {kind : I.Call → Prop} {first : Handler I σ} {second : Handler I τ} {alike : σ → τ → Prop}
    (step : ∀ call s t, kind call → alike s t →
      (first call s).1 = (second call t).1 ∧ alike (first call s).2 (second call t).2)
    {p : Plan I α} (calls : Calls kind p) {s : σ} {t : τ} (start : alike s t) :
    (p.run first s).1 = (p.run second t).1 ∧ alike (p.run first s).2 (p.run second t).2 := by
  unfold Calls at calls
  induction p generalizing s t with
  | done a => exact ⟨rfl, start⟩
  | ask call next ih =>
    obtain ⟨same, after⟩ := step call s t calls.1 start
    have later := ih (first call s).1 (calls.2 _ () trivial) after
    rw [Plan.run, Plan.run, ← same]
    exact later

end Enrolment.Plan
