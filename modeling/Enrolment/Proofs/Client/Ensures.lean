import Enrolment.Client.Effect
import Enrolment.Proofs.Plan.Contract
import Enrolment.Proofs.Store.Slot
/-!
What an activity ensures under a contract: one condition for the value that it returns, one for the
fault that it fails with. An activity is gone through call by call.
-/
namespace Enrolment.Activity

open Plan

variable {ε ε' α β σ : Type} {C : Contract effects σ}

def either (good : α → σ → Prop) (bad : ε → σ → Prop) : Except ε α → σ → Prop
  | .ok a, s => good a s
  | .error e, s => bad e s

theorem either_same {held : σ → Prop} {result : Except ε α} {s : σ}
    (ends : either (fun _ => held) (fun _ => held) result s) : held s := by
  cases result <;> exact ends

/-- An activity keeps to a contract, and ends in one condition or the other. -/
def Ensures (C : Contract effects σ) (a : Activity ε α) (good : α → σ → Prop) (bad : ε → σ → Prop) (s : σ) : Prop :=
  Meets C (either good bad) a.run s

variable {good good' : α → σ → Prop} {bad bad' : ε → σ → Prop} {s : σ}

theorem Ensures.mono {a : Activity ε α} (ensures : Ensures C a good bad s) (returned : ∀ x s, good x s → good' x s)
    (failed : ∀ e s, bad e s → bad' e s) : Ensures C a good' bad' s := by
  refine Meets.mono ?_ ensures
  intro result s' held
  cases result with
  | ok x => exact returned x s' held
  | error e => exact failed e s' held

theorem ensures_pure {x : α} (held : good x s) : Ensures (ε := ε) C (pure x) good bad s := held

theorem ensures_throw {e : ε} (held : bad e s) : Ensures C (throw e : Activity ε α) good bad s := held

theorem ensures_bind {a : Activity ε α} {f : α → Activity ε β} {good : β → σ → Prop} :
    Ensures C (a >>= f) good bad s ↔ Ensures C a (fun x s' => Ensures C (f x) good bad s') bad s := by
  unfold Ensures
  rw [ExceptT.run_bind, meets_bind]
  constructor
  · apply Meets.mono
    intro result s' held
    cases result with
    | ok x => exact held
    | error e => exact held
  · apply Meets.mono
    intro result s' held
    cases result with
    | ok x => exact held
    | error e => exact held

theorem ensures_map {a : Activity ε α} {f : α → β} {good : β → σ → Prop} :
    Ensures C (f <$> a) good bad s ↔ Ensures C a (fun x s' => good (f x) s') bad s := by
  rw [map_eq_pure_bind]
  exact ensures_bind

theorem Ensures.bind {a : Activity ε α} {f : α → Activity ε β} {good : β → σ → Prop} {between : α → σ → Prop}
    (first : Ensures C a between bad s) (rest : ∀ x s', between x s' → Ensures C (f x) good bad s') :
    Ensures C (a >>= f) good bad s :=
  ensures_bind.2 (first.mono rest fun _ _ => id)

theorem ensures_mapError {a : Activity ε α} {f : ε → ε'} {bad : ε' → σ → Prop} :
    Ensures C (mapError f a) good bad s ↔ Ensures C a good (fun e s' => bad (f e) s') s := by
  show Meets C (either good bad) (Except.mapError f <$> a.run) s ↔ _
  rw [meets_map]
  constructor
  · apply Meets.mono
    intro result s' held
    cases result <;> exact held
  · apply Meets.mono
    intro result s' held
    cases result <;> exact held

theorem ensures_during {a : Activity Fault α} {doing : Doing} {bad : Fault → σ → Prop} :
    Ensures C (during doing a) good bad s ↔ Ensures C a good (fun e s' => bad (e.during doing) s') s :=
  ensures_mapError

theorem Ensures.forIn {γ : Type} (held : σ → Prop) {items : List β} {body : β → γ → Activity ε (ForInStep γ)}
    (turn : ∀ item state s, held s → Ensures C (body item state) (fun _ => held) bad s) {state : γ} (start : held s) :
    Ensures C (forIn items state body) (fun _ => held) bad s := by
  induction items generalizing state s with
  | nil => exact ensures_pure start
  | cons item items ih =>
    rw [List.forIn_cons]
    apply Ensures.bind (turn item state s start)
    intro step s' kept
    cases step with
    | done state => exact ensures_pure kept
    | yield state => exact ih kept

/-- What holds may depend on the items that are left. -/
theorem Ensures.forIn_rest {γ : Type} (held : List β → σ → Prop) {items : List β} {body : β → γ → Activity ε (ForInStep γ)}
    (turn : ∀ item items state s, held (item :: items) s →
      Ensures C (body item state) (fun step s' => ∃ state', step = .yield state' ∧ held items s') bad s)
    {state : γ} (start : held items s) : Ensures C (ForIn.forIn items state body) (fun _ => held []) bad s := by
  induction items generalizing state s with
  | nil => exact ensures_pure start
  | cons item items ih =>
    rw [List.forIn_cons]
    apply Ensures.bind (turn item items state s start)
    rintro _ s' ⟨state', rfl, kept⟩
    exact ih kept

/-! ## Calls -/

theorem ensures_store {op : Store.Operation} {good : op.Result → σ → Prop} {bad : Fault → σ → Prop}
    (allowed : C.allowed (.store op) s)
    (answered : ∀ answer s', C.answered (.store op) s answer s' → either good bad answer s') :
    Ensures C (store op) good bad s :=
  ⟨allowed, answered⟩

theorem ensures_keys {request : KeyRequest} {good : request.Result → σ → Prop} {bad : Fault → σ → Prop}
    (allowed : C.allowed (.keys request) s)
    (answered : ∀ answer s', C.answered (.keys request) s answer s' → either good bad answer s') :
    Ensures C (keys request) good bad s :=
  ⟨allowed, answered⟩

theorem ensures_service {request : Service.Request} {good : request.Result → σ → Prop}
    {bad : Service.NetworkError → σ → Prop} (allowed : C.allowed (.service request) s)
    (answered : ∀ answer s', C.answered (.service request) s answer s' → either good bad answer s') :
    Ensures C (service request) good bad s :=
  ⟨allowed, answered⟩

theorem ensures_read {slot : Store.Slot α} {good : Option α → σ → Prop} {bad : Fault → σ → Prop}
    (allowed : C.allowed (.store (.read slot.key)) s)
    (answered : ∀ answer s', C.answered (.store (.read slot.key)) s answer s' →
      either good bad (answer.bind slot.interpret) s') :
    Ensures C (get? slot) good bad s := by
  refine ensures_bind.2 (ensures_store allowed ?_)
  intro answer s' is
  have held := answered answer s' is
  cases answer with
  | ok stored => exact held
  | error e => exact held

theorem ensures_readOr {slot : Store.Slot α} {default : α} {good : α → σ → Prop} {bad : Fault → σ → Prop}
    (allowed : C.allowed (.store (.read slot.key)) s)
    (answered : ∀ answer s', C.answered (.store (.read slot.key)) s answer s' →
      either good bad (slot.valueOr default answer) s') :
    Ensures C (getOr slot default) good bad s := by
  refine ensures_bind.2 (ensures_read allowed ?_)
  intro answer s' is
  have held := answered answer s' is
  unfold Store.Slot.valueOr at held
  cases read : answer.bind slot.interpret with
  | ok found =>
    rw [read] at held
    exact held
  | error e =>
    rw [read] at held
    exact held

/-! ## Activities under any conditions -/

def anything : Contract effects Unit := stateless (fun _ => True) fun _ _ => True

theorem ensures_anything {a : Activity ε α} {good : α → Unit → Prop} {bad : ε → Unit → Prop} (returned : ∀ x, good x ())
    (failed : ∀ e, bad e ()) : Ensures anything a good bad () := by
  unfold Ensures
  generalize a.run = p
  induction p with
  | done result =>
    cases result with
    | ok x => exact returned x
    | error e => exact failed e
  | ask call next ih => exact ⟨trivial, fun answer _ _ => ih answer⟩

/-! ## Activities of certain calls only -/

def Calls (kind : Effect → Prop) (a : Activity ε α) : Prop := Plan.Calls (I := effects) kind a.run

variable {kind : Effect → Prop}

theorem calls_pure (x : α) : Calls (ε := ε) kind (pure x) := trivial

theorem calls_throw (e : ε) : Calls kind (throw e : Activity ε α) := trivial

theorem Calls.bind {a : Activity ε α} {f : α → Activity ε β} (first : Calls kind a) (rest : ∀ x, Calls kind (f x)) :
    Calls kind (a >>= f) := by
  unfold Calls
  rw [ExceptT.run_bind]
  apply Plan.Calls.bind first
  intro result
  cases result with
  | ok x => exact rest x
  | error e => trivial

theorem Calls.forIn {γ : Type} {items : List β} {state : γ} {body : β → γ → Activity ε (ForInStep γ)}
    (calls : ∀ item state, Calls kind (body item state)) : Calls kind (forIn items state body) := by
  induction items generalizing state with
  | nil => exact calls_pure state
  | cons item items ih =>
    rw [List.forIn_cons]
    apply Calls.bind (calls item state)
    intro step
    cases step with
    | done state => exact calls_pure state
    | yield state => exact ih

theorem Calls.mapError {a : Activity ε α} (calls : Calls kind a) (f : ε → ε') : Calls kind (mapError f a) :=
  Plan.Calls.map calls

theorem Calls.during {a : Activity Fault α} (calls : Calls kind a) (doing : Doing) : Calls kind (during doing a) :=
  calls.mapError _

theorem Calls.mono {wider : Effect → Prop} {a : Activity ε α} (calls : Calls kind a)
    (implies : ∀ e, kind e → wider e) : Calls wider a :=
  Plan.Calls.mono implies calls

theorem Calls.ensures {a : Activity ε α} (calls : Calls kind a) {held : σ → Prop}
    (step : ∀ call s, kind call → held s → C.allowed call s ∧ ∀ answer s', C.answered call s answer s' → held s')
    (start : held s) : Ensures C a (fun _ => held) (fun _ => held) s := by
  unfold Ensures
  unfold Calls Plan.Calls at calls
  generalize a.run = p at calls
  induction p generalizing s with
  | done result => cases result <;> exact start
  | ask call next ih =>
    obtain ⟨allowed, keeps⟩ := step call s calls.1 start
    exact ⟨allowed, fun answer s' answered => ih answer (keeps answer s' answered) (calls.2 answer () trivial)⟩

theorem calls_call {e : Effect} (is : kind e) : Calls (ε := ε) kind (call e) := ⟨is, fun _ _ _ => trivial⟩

theorem calls_store {op : Store.Operation} (is : kind (.store op)) : Calls kind (store op) := ⟨is, fun _ _ _ => trivial⟩

theorem calls_keys {request : KeyRequest} (is : kind (.keys request)) : Calls kind (keys request) :=
  ⟨is, fun _ _ _ => trivial⟩

theorem calls_service {request : Service.Request} (is : kind (.service request)) : Calls kind (service request) :=
  ⟨is, fun _ _ _ => trivial⟩

open Store

theorem calls_get? {slot : Slot α} (is : kind (.store (.read slot.key))) : Calls kind (get? slot) :=
  (calls_store is).bind fun stored => by
    show Plan.Calls kind (pure (slot.interpret stored) : Plan effects _)
    trivial

theorem calls_getOr {slot : Slot α} {default : α} (is : kind (.store (.read slot.key))) :
    Calls kind (getOr slot default) :=
  (calls_get? is).bind fun _ => calls_pure _

theorem calls_put {slot : Slot α} {a : α} (is : kind (.store (.write slot.key (slot.encode a)))) :
    Calls kind (put slot a) :=
  calls_store is

theorem calls_remove {slot : Slot α} (is : kind (.store (.erase slot.key))) : Calls kind (remove slot) := calls_store is

end Enrolment.Activity
