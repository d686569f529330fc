import Enrolment.Proofs.Record.RoundTrip
import Enrolment.Store.Slot
/-!
The values of the account are read back from what is stored of them.
-/
namespace Enrolment.Store

/-- Nothing is lost by writing a value in the form that its slot has. -/
class Slot.Lawful {α : Type} (slot : Slot α) : Prop where
  faithful : Json.Faithful slot.encode slot.decode?

namespace Slot

variable {α : Type}

@[simp] theorem interpret_none (slot : Slot α) : slot.interpret none = .ok none := rfl

variable (slot : Slot α) [lawful : slot.Lawful]

theorem isPlain_encode (a : α) : (slot.encode a).isPlain = true :=
  Json.isPlainTo_of_le (by decide) (lawful.faithful.plain a)

@[simp] theorem interpret_encode (a : α) : slot.interpret (some (slot.encode a)) = .ok (some a) := by
  simp [interpret, lawful.faithful.decode_encode a]

instance (key : String) : (Slot.text key).Lawful := ⟨fun _ => rfl, fun _ => rfl⟩

instance (key : String) : (Slot.flag key).Lawful := ⟨fun _ => rfl, fun _ => rfl⟩

theorem interpret_flag_eq_true {key : String} {stored : Option Json} :
    (Slot.flag key).interpret stored = .ok (some true) ↔ stored = some (.bool true) := by
  constructor
  · intro reads
    cases stored with
    | none => simp at reads
    | some j => cases j <;> simp_all [interpret, flag, Json.asBool?]
  · rintro rfl
    rfl

theorem interpret_text_eq_some {key text : String} {stored : Option Json} :
    (Slot.text key).interpret stored = .ok (some text) ↔ stored = some (.str text) := by
  constructor
  · intro reads
    cases stored with
    | none => simp at reads
    | some j => cases j <;> simp_all [interpret, Slot.text, Json.asString?]
  · rintro rfl
    rfl

def valueOr (slot : Slot α) (default : α) (answer : Except Fault (Option Json)) : Except Fault α :=
  (answer.bind slot.interpret).map (·.getD default)

theorem valueOr_flag_eq_true {key : String} {answer : Except Fault (Option Json)} :
    (Slot.flag key).valueOr false answer = .ok true ↔ answer = .ok (some (.bool true)) := by
  constructor
  · intro reads
    cases answer with
    | error e => cases reads
    | ok stored =>
      have found : (Slot.flag key).interpret stored = .ok (some true) := by
        unfold valueOr at reads
        cases read : (Slot.flag key).interpret stored with
        | error e => simp [Except.bind, Except.map, read] at reads
        | ok found => cases found <;> simp_all [Except.bind, Except.map]
      exact congrArg Except.ok (interpret_flag_eq_true.1 found)
  · rintro rfl
    rfl

theorem valueOr_flag_eq_false {key : String} {answer : Except Fault (Option Json)} :
    (Slot.flag key).valueOr false answer = .ok false ↔ answer = .ok none ∨ answer = .ok (some (.bool false)) := by
  constructor
  · intro reads
    cases answer with
    | error e => cases reads
    | ok stored =>
      cases stored with
      | none => exact Or.inl rfl
      | some j => cases j <;> simp_all [valueOr, Except.bind, Except.map, interpret, flag, Json.asBool?]
  · rintro (rfl | rfl) <;> rfl

end Slot

namespace Account

instance : aci.Lawful := ⟨Aci.faithful⟩

instance : pni.Lawful := ⟨Pni.faithful⟩

instance : number.Lawful := ⟨PhoneNumber.faithful⟩

instance : servicePassword.Lawful := inferInstanceAs (Slot.text _).Lawful

instance : pushToken.Lawful := inferInstanceAs (Slot.text _).Lawful

instance : deviceId.Lawful := ⟨DeviceId.faithful⟩

instance : registered.Lawful := inferInstanceAs (Slot.flag _).Lawful

instance : profileKey.Lawful := ⟨ProfileKey.faithful⟩

instance (space : Namespace) : (registrationId space).Lawful := ⟨RegistrationId.faithful⟩

instance (space : Namespace) : (preKeys space).Lawful := ⟨PreKeyLedger.faithful⟩

instance : complete.Lawful := inferInstanceAs (Slot.flag _).Lawful

instance : profileName.Lawful := inferInstanceAs (Slot.text _).Lawful

instance : pinSet.Lawful := inferInstanceAs (Slot.flag _).Lawful

instance : pinOptedOut.Lawful := inferInstanceAs (Slot.flag _).Lawful

instance : recoveryPassword.Lawful := inferInstanceAs (Slot.text _).Lawful

instance : registrationLock.Lawful := inferInstanceAs (Slot.flag _).Lawful

instance : discoverability.Lawful := ⟨Discoverability.faithful⟩

end Account
end Enrolment.Store
