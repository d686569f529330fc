import Enrolment.Crypto.FreshKeys
import Enrolment.Rehearsal.Keys
/-!
Both sources of keys make what they are asked for: a prekey carries the id that it was to have.
-/
namespace Enrolment

/-- A prekey carries the id that it was asked for under. -/
def KeyRequest.IsKept : (request : KeyRequest) → request.Result → Prop
  | .signedPreKey id _, key => key.id = id
  | .lastResortPreKey id _, key => key.key.id = id
  | _, _ => True

def KeyFactory.Honest {κ : Type} (factory : KeyFactory κ) : Prop :=
  ∀ request s made, (factory request s).1 = .ok made → request.IsKept made

private theorem id_of_agreementKey {id : PreKeyId} {identity : IdentityKeys} {e : Crypto.Entropy} {key : SignedPreKey}
    (made : (Crypto.agreementKey id identity e).1 = .ok key) : key.id = id := by
  unfold Crypto.agreementKey at made
  split at made
  · cases made
  · rename_i secret _ _
    cases signed : Crypto.signWith identity (Crypto.X25519.publicKey secret.val) with
    | error f => simp [signed, Except.map] at made
    | ok signature =>
      simp only [signed, Except.map, Except.ok.injEq] at made
      rw [← made]

theorem Crypto.freshKeys_honest : KeyFactory.Honest freshKeys := by
  intro request e made returned
  cases request with
  | signedPreKey id identity => exact id_of_agreementKey returned
  | lastResortPreKey id identity =>
    simp only [freshKeys] at returned
    cases made' : (agreementKey id identity e).1 with
    | error f => simp [made', Except.map] at returned
    | ok key =>
      simp only [made', Except.map, Except.ok.injEq] at returned
      rw [← returned]
      exact id_of_agreementKey made'
  | _ => trivial

theorem Rehearsal.KeyScript.factory_honest : KeyFactory.Honest factory := by
  intro request s made returned
  cases request with
  | signedPreKey id identity =>
    simp only [factory] at returned
    split at returned
    · cases returned
    · rw [← Except.ok.inj returned]
      rfl
  | lastResortPreKey id identity =>
    simp only [factory] at returned
    split at returned
    · cases returned
    · rw [← Except.ok.inj returned]
      rfl
  | _ => trivial

end Enrolment
