import Enrolment.Client.Registration
import Enrolment.Proofs.Client.Ensures
import Enrolment.Proofs.Client.Journal
import Enrolment.Rehearsal.Keys
import Enrolment.Rehearsal.Service
/-!
How a client runs the parts of an activity, and what goes into the journal.
-/
namespace Enrolment.Client
namespace Installation

open Activity Store

variable {κ σ ε ε' α β : Type} (c : Installation κ σ) (t : Thread)

theorem run_bind (a : Activity ε α) (f : α → Activity ε β) :
    c.run t (a >>= f) = match c.run t a with
      | (.ok x, c') => c'.run t (f x)
      | (.error e, c') => (.error e, c') := by
  unfold run
  rw [ExceptT.run_bind, Plan.run_bind]
  generalize Plan.run _ a.run c = outcome
  obtain ⟨_ | _, _⟩ := outcome <;> rfl

theorem run_bind_of_ok {c c' : Installation κ σ} {t : Thread} {a : Activity ε α} {x : α} (first : c.run t a = (.ok x, c'))
    (f : α → Activity ε β) : c.run t (a >>= f) = c'.run t (f x) := by
  rw [run_bind, first]

theorem run_bind_of_error {c c' : Installation κ σ} {t : Thread} {a : Activity ε α} {e : ε}
    (first : c.run t a = (.error e, c')) (f : α → Activity ε β) : c.run t (a >>= f) = (.error e, c') := by
  rw [run_bind, first]

theorem run_mapError (f : ε → ε') (a : Activity ε α) :
    c.run t (mapError f a) = ((c.run t a).1.mapError f, (c.run t a).2) :=
  Plan.run_bind _ a.run _ c

theorem run_during (doing : Doing) (a : Activity Fault α) :
    c.run t (during doing a) = ((c.run t a).1.mapError (·.during doing), (c.run t a).2) :=
  run_mapError c t _ a

theorem run_store (op : Operation) :
    c.run t (Activity.store op) = ((c.store.perform t op).1, { c with store := (c.store.perform t op).2 }) := rfl

theorem run_get? (slot : Slot α) :
    c.run t (get? slot) =
      ((c.store.perform t (.read slot.key)).1.bind slot.interpret,
        { c with store := (c.store.perform t (.read slot.key)).2 }) := by
  rw [get?, run_bind, run_store]
  cases (c.store.perform t (.read slot.key)).1 <;> rfl

theorem run_getOr (slot : Slot α) (default : α) :
    (c.run t (getOr slot default)).1 = (c.run t (get? slot)).1.map (·.getD default) := by
  rw [getOr, run_bind]
  generalize c.run t (get? slot) = outcome
  obtain ⟨_ | _, _⟩ := outcome <;> rfl

theorem run_put (slot : Slot α) (a : α) :
    c.run t (put slot a) = ((c.store.perform t (.write slot.key (slot.encode a))).1,
      { c with store := (c.store.perform t (.write slot.key (slot.encode a))).2 }) := rfl

/-! ## The journal -/

theorem journal_bind (a : Activity ε α) (f : α → Activity ε β) :
    c.journal t (a >>= f) = c.journal t a ++ match c.run t a with
      | (.ok x, c') => c'.journal t (f x)
      | (.error _, _) => [] := by
  unfold journal run
  rw [ExceptT.run_bind, Plan.trace_bind]
  generalize Plan.run _ a.run c = outcome
  obtain ⟨_ | _, _⟩ := outcome <;> rfl

theorem run_map (f : α → β) (a : Activity ε α) : c.run t (f <$> a) = ((c.run t a).1.map f, (c.run t a).2) := by
  rw [map_eq_pure_bind, run_bind]
  generalize c.run t a = outcome
  obtain ⟨_ | _, _⟩ := outcome <;> rfl

theorem journal_map (f : α → β) (a : Activity ε α) : c.journal t (f <$> a) = c.journal t a := by
  rw [map_eq_pure_bind, journal_bind]
  generalize c.run t a = outcome
  obtain ⟨_ | _, _⟩ := outcome <;> exact List.append_nil _

theorem run_bind_cases (a : Activity ε α) (f : α → Activity ε β) :
    (∃ e, (c.run t a).1 = .error e ∧ c.run t (a >>= f) = (.error e, (c.run t a).2) ∧
        c.journal t (a >>= f) = c.journal t a) ∨
      ∃ x, (c.run t a).1 = .ok x ∧ c.run t (a >>= f) = (c.run t a).2.run t (f x) ∧
        c.journal t (a >>= f) = c.journal t a ++ (c.run t a).2.journal t (f x) := by
  rw [run_bind, journal_bind]
  generalize c.run t a = outcome
  obtain ⟨e | x, c'⟩ := outcome
  · exact Or.inl ⟨e, rfl, rfl, List.append_nil _⟩
  · exact Or.inr ⟨x, rfl, rfl, rfl⟩

theorem ok_of_mapError {f : ε → ε'} {a : Activity ε α} {x : α} (done : (c.run t (mapError f a)).1 = .ok x) :
    (c.run t a).1 = .ok x := by
  rw [run_mapError] at done
  cases result : (c.run t a).1 with
  | ok y =>
    rw [result] at done
    exact congrArg Except.ok (Except.ok.inj done)
  | error e =>
    rw [result] at done
    cases done

theorem error_of_ensures {a : Activity ε α} {P : ε → Prop} (ensures : Ensures anything a (fun _ _ => True) (fun e _ => P e) ())
    {e : ε} (failed : (c.run t a).1 = .error e) : P e := by
  have honours : Plan.Honours (handle (κ := κ) (σ := σ) t) anything fun _ _ => True :=
    fun _ _ _ _ _ => ⟨(), trivial, trivial⟩
  obtain ⟨_, held, -⟩ := Plan.Meets.run honours ensures (t := c) trivial
  rw [show a.run.run (handle t) c = c.run t a from rfl, failed] at held
  exact held

/-! ## A client to try things on -/

def rehearsed (keys : Rehearsal.KeyScript) (service : Rehearsal.ServiceScript) :
    Installation Rehearsal.KeyScript Rehearsal.ServiceScript :=
  .new (.memory .empty) true 5000 Rehearsal.KeyScript.factory keys Rehearsal.ServiceScript.service service

def rehearsedKeys : Rehearsal.KeyScript :=
  { Rehearsal.KeyScript.empty with
    preKeyIds := [⟨16777215⟩, ⟨1⟩, ⟨100⟩, ⟨200⟩], registrationIds := [⟨11⟩, ⟨12⟩, ⟨13⟩, ⟨14⟩] }

/-- Its source of keys gives one and the same id to all signed prekeys, whatever it is asked for. -/
def misnamed : Installation Rehearsal.KeyScript Rehearsal.ServiceScript :=
  { rehearsed rehearsedKeys .empty with
    keyFactory := fun
      | .signedPreKey _ identity, s => Rehearsal.KeyScript.factory (.signedPreKey ⟨7⟩ identity) s
      | request, s => Rehearsal.KeyScript.factory request s }

end Installation

def Application.rehearsed : Application :=
  { Application.new ⟨"+4915112345678", by decide⟩ with
    sessionId := some "session", password := some "secret", profileKey := some (.repeated 7) }

end Enrolment.Client
