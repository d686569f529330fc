import Enrolment.ByteOrder
import Enrolment.KeyFactory
/-!
A source of keys for rehearsals. Its ids, passwords and profile keys come from lists, its key
material follows from the number of the call or from the id, and some calls are made to fail.
-/
namespace Enrolment.Rehearsal

structure KeyScript where
  preKeyIds : List PreKeyId
  registrationIds : List RegistrationId
  passwords : List String
  profileKeys : List ProfileKey
  /-- The calls that fail, counted from zero. -/
  failingIdentities : List Nat
  failingSigned : List Nat
  failingLastResort : List Nat
  /-- How many calls there were, failed ones among them. -/
  identityCalls : Nat
  signedCalls : Nat
  lastResortCalls : Nat
  deriving DecidableEq, Inhabited

namespace KeyScript

def empty : KeyScript := ⟨[], [], [], [], [], [], [], 0, 0, 0⟩

def creation : Timestamp := ⟨⟨2023, 11, 14, 22, 13, 20, 0⟩, by decide⟩

def identity (call : Nat) : IdentityKeys :=
  ⟨List.replicate 32 (UInt8.ofNat (call + 1)), List.replicate 32 (UInt8.ofNat (call + 101))⟩

def idBytes (id : PreKeyId) : Bytes := littleEndian 4 id.value.toNat

def preKey (mark : UInt8) (id : PreKeyId) (identity : IdentityKeys) : SignedPreKey :=
  ⟨id, mark :: idBytes id, (mark + 1) :: idBytes id,
    identity.publicKey.take 4 ++ identity.privateKey.take 4 ++ idBytes id, creation⟩

def failure (name : String) : Fault := .of (.keySource ("scripted " ++ name ++ " failure"))

def next {α : Type} (name : String) : List α → Except Fault α × List α
  | [] => (.error (.of (.keySource ("scripted " ++ name ++ " exhausted"))), [])
  | a :: rest => (.ok a, rest)

def factory : KeyFactory KeyScript
  | .identity, s =>
    (if s.failingIdentities.contains s.identityCalls then .error (failure "identity")
     else .ok (identity s.identityCalls), { s with identityCalls := s.identityCalls + 1 })
  | .signedPreKey id keys, s =>
    (if s.failingSigned.contains s.signedCalls then .error (failure "signed") else .ok (preKey 5 id keys),
      { s with signedCalls := s.signedCalls + 1 })
  | .lastResortPreKey id keys, s =>
    (if s.failingLastResort.contains s.lastResortCalls then .error (failure "kyber")
     else .ok ⟨preKey 8 id keys, true⟩, { s with lastResortCalls := s.lastResortCalls + 1 })
  | .preKeyId, s =>
    let (result, preKeyIds) := next "pre_key_ids" s.preKeyIds
    (result, { s with preKeyIds })
  | .registrationId, s =>
    let (result, registrationIds) := next "registration_ids" s.registrationIds
    (result, { s with registrationIds })
  | .password, s =>
    let (result, passwords) := next "passwords" s.passwords
    (result, { s with passwords })
  | .profileKey, s =>
    let (result, profileKeys) := next "profile_keys" s.profileKeys
    (result, { s with profileKeys })

end KeyScript
end Enrolment.Rehearsal
