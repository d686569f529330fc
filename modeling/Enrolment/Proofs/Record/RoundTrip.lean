import Enrolment.Job
import Enrolment.PhoneNumber
import Enrolment.Record.Group
import Enrolment.Record.Key
import Enrolment.Record.Recipient
import Enrolment.Record.Session
import Enrolment.Proofs.Json.RoundTrip
import Enrolment.Proofs.Text.Timestamp
import Enrolment.Proofs.Text.Uuid
/-!
Typed values are read back from the documents that they are written as, and these documents are
plain. A value of a record type is read back from the object of its fields.
-/
namespace Enrolment

namespace Json

/-- A way of writing values as documents, of which nothing is lost. -/
structure Faithful {α : Type} (encode : α → Json) (decode : Json → Option α) : Prop where
  decode_encode : ∀ a, decode (encode a) = some a
  plain : ∀ a, (encode a).isPlainTo 1 = true

mutual

theorem isPlainTo_mono : ∀ (depth : Nat) (j : Json), j.isPlainTo depth = true → j.isPlainTo (depth + 1) = true
  | _, .null, _ => rfl
  | _, .bool _, _ => rfl
  | _, .int _, plain => by simpa [isPlainTo] using plain
  | _, .str _, _ => rfl
  | _, .real _ _ _, plain => by simp [isPlainTo] at plain
  | _, .void, plain => by simp [isPlainTo] at plain
  | 0, .arr _, plain => by simp [isPlainTo] at plain
  | 0, .obj _, plain => by simp [isPlainTo] at plain
  | depth + 1, .arr items, plain => by
    simp only [isPlainTo] at plain ⊢
    exact areItemsPlainTo_mono depth items plain
  | depth + 1, .obj members, plain => by
    simp only [isPlainTo, Bool.and_eq_true] at plain ⊢
    exact ⟨areMembersPlainTo_mono depth members plain.1, plain.2⟩

theorem areItemsPlainTo_mono : ∀ (depth : Nat) (items : List Json), areItemsPlainTo depth items = true →
    areItemsPlainTo (depth + 1) items = true
  | _, [], _ => rfl
  | depth, item :: items, plain => by
    simp only [areItemsPlainTo, Bool.and_eq_true] at plain ⊢
    exact ⟨isPlainTo_mono depth item plain.1, areItemsPlainTo_mono depth items plain.2⟩

theorem areMembersPlainTo_mono : ∀ (depth : Nat) (members : List (String × Json)),
    areMembersPlainTo depth members = true → areMembersPlainTo (depth + 1) members = true
  | _, [], _ => rfl
  | depth, (_, value) :: members, plain => by
    simp only [areMembersPlainTo, Bool.and_eq_true] at plain ⊢
    exact ⟨isPlainTo_mono depth value plain.1, areMembersPlainTo_mono depth members plain.2⟩

end

theorem isPlainTo_of_le {low high : Nat} {j : Json} (le : low ≤ high) (plain : j.isPlainTo low = true) :
    j.isPlainTo high = true := by
  induction le with
  | refl => exact plain
  | step _ ih => exact isPlainTo_mono _ j ih

theorem areItemsPlainTo_map {α : Type} (depth : Nat) (encode : α → Json) (items : List α)
    (plain : ∀ a, (encode a).isPlainTo depth = true) : areItemsPlainTo depth (items.map encode) = true := by
  induction items with
  | nil => rfl
  | cons a items ih => simp [areItemsPlainTo, plain a, ih]

theorem asList?_list {α : Type} {encode : α → Json} {decode : Json → Option α}
    (back : ∀ a, decode (encode a) = some a) (items : List α) : asList? decode (list encode items) = some items := by
  have read : (items.map encode).mapM decode = some items := by
    induction items with
    | nil => rfl
    | cons a items ih => simp [back a, ih]
  exact read

theorem Fields.required?_of_lookup {α : Type} {f : Fields} {name : String} {decode : Json → Option α} {j : Json}
    (found : f.values.lookup name = some j) : f.required? name decode = decode j := by
  rw [required?, found]

theorem Fields.exists_of_required? {α : Type} {f : Fields} {name : String} {decode : Json → Option α} {a : α}
    (found : f.required? name decode = some a) : ∃ j, decode j = some a := by
  unfold required? at found
  split at found
  · exact ⟨_, found⟩
  · cases found

theorem Fields.optional?_of_lookup {α : Type} {f : Fields} {name : String} {decode : Json → Option α} {j : Json}
    (found : f.values.lookup name = some j) : f.optional? name decode = j.asOption? decode := by
  rw [optional?, found]

theorem asOption?_option {α : Type} {encode : α → Json} {decode : Json → Option α}
    (back : ∀ a, decode (encode a) = some a) (visible : ∀ a, encode a ≠ .null) (o : Option α) :
    asOption? decode (option encode o) = some o := by
  cases o with
  | none => rfl
  | some a =>
    have written := visible a
    have read := back a
    simp only [option]
    generalize encode a = j at written read
    cases j <;> simp_all [asOption?]

theorem Fields.defaulted?_of_lookup {α : Type} {f : Fields} {name : String} {value : α} {decode : Json → Option α}
    {j : Json} (found : f.values.lookup name = some j) : f.defaulted? name value decode = decode j := by
  rw [defaulted?, found]

theorem isPlainTo_option {α : Type} {depth : Nat} {encode : α → Json} (plain : ∀ a, (encode a).isPlainTo depth = true)
    (o : Option α) : (option encode o).isPlainTo depth = true := by
  cases o with
  | none => rfl
  | some a => exact plain a

/-! ## Numbers and bytes -/

theorem asNat?_nat {bound n : Nat} (small : n < bound) : asNat? bound (.nat n) = some n := by
  show (if n < bound then some n else none) = some n
  rw [if_pos small]

theorem isPlainTo_nat {depth n : Nat} (small : n < UInt64.size) : (nat n).isPlainTo depth = true := by
  have low : Int64.minValue.toInt ≤ (n : Int) := Int.le_trans (show Int64.minValue.toInt ≤ 0 by decide) (by omega)
  simp only [nat, isPlainTo, integerInRange, Bool.and_eq_true, decide_eq_true_eq]
  exact ⟨low, by omega⟩

theorem asUInt32?_nat (n : UInt32) : (nat n.toNat).asUInt32? = some n := by
  simp [asUInt32?, asNat?_nat n.toNat_lt]

theorem isPlainTo_uint32 {depth : Nat} (n : UInt32) : (nat n.toNat).isPlainTo depth = true :=
  isPlainTo_nat (Nat.lt_trans n.toNat_lt (by decide))

theorem asInt64?_int (n : Int64) : (int n.toInt).asInt64? = some n := by
  have low : Int64.minValue.toInt ≤ n.toInt := n.minValue_le_toInt
  have high : n.toInt < Int64.maxValue.toInt + 1 := Int.lt_add_one_of_le n.toInt_le
  have read : (int n.toInt).asInt? Int64.minValue.toInt (Int64.maxValue.toInt + 1) = some n.toInt :=
    if_pos (by simp only [low, high, decide_true, Bool.and_self])
  rw [asInt64?, read, Option.map_some, Int64.ofInt_toInt]

theorem isPlainTo_int64 {depth : Nat} (n : Int64) : (int n.toInt).isPlainTo depth = true := by
  have low : Int64.minValue.toInt ≤ n.toInt := n.minValue_le_toInt
  have high : n.toInt < UInt64.size := Int.lt_of_le_of_lt n.toInt_le (by decide)
  simp only [isPlainTo, integerInRange, low, high, decide_true, Bool.and_self]

theorem asBytes?_ofBytes (bytes : Bytes) : asBytes? (.ofBytes bytes) = some bytes := by
  refine asList?_list (fun b => ?_) bytes
  simp [asByte?, asNat?_nat (show b.toNat < 256 from b.toNat_lt)]

theorem isPlainTo_ofBytes {depth : Nat} (bytes : Bytes) : (ofBytes bytes).isPlainTo (depth + 1) = true := by
  refine areItemsPlainTo_map _ _ bytes fun b => isPlainTo_nat (Nat.lt_trans b.toNat_lt (by decide))

end Json

open Json

theorem Uuid.faithful : Faithful Uuid.toJson Uuid.ofJson? := ⟨ofText?_toText, fun _ => rfl⟩

theorem Aci.faithful : Faithful Aci.toJson Aci.ofJson? :=
  ⟨fun a => by simp [toJson, ofJson?, Uuid.faithful.decode_encode], fun _ => rfl⟩

theorem Pni.faithful : Faithful Pni.toJson Pni.ofJson? :=
  ⟨fun p => by simp [toJson, ofJson?, Uuid.faithful.decode_encode], fun _ => rfl⟩

theorem RecipientId.faithful : Faithful RecipientId.toJson RecipientId.ofJson? :=
  ⟨fun id => by simp [toJson, ofJson?, asInt64?_int], fun id => isPlainTo_int64 id.value⟩

theorem GroupId.faithful : Faithful GroupId.toJson GroupId.ofJson? :=
  ⟨fun id => by simp [toJson, ofJson?, asInt64?_int], fun id => isPlainTo_int64 id.value⟩

theorem DeviceId.faithful : Faithful DeviceId.toJson DeviceId.ofJson? :=
  ⟨fun id => by simp [toJson, ofJson?, asUInt32?_nat], fun id => isPlainTo_uint32 id.value⟩

theorem RegistrationId.faithful : Faithful RegistrationId.toJson RegistrationId.ofJson? :=
  ⟨fun id => by simp [toJson, ofJson?, asUInt32?_nat], fun id => isPlainTo_uint32 id.value⟩

theorem PreKeyId.faithful : Faithful PreKeyId.toJson PreKeyId.ofJson? :=
  ⟨fun id => by simp [toJson, ofJson?, asUInt32?_nat], fun id => isPlainTo_uint32 id.value⟩

theorem ProfileKey.faithful : Faithful ProfileKey.toJson ProfileKey.ofJson? :=
  ⟨fun k => by simp [toJson, ofJson?, asBytes?_ofBytes, ofBytes?, k.length_eq], fun k => isPlainTo_ofBytes k.bytes⟩

theorem Namespace.faithful : Faithful Namespace.toJson Namespace.ofJson? :=
  ⟨fun n => by cases n <;> decide, fun _ => rfl⟩

theorem RegisteredState.faithful : Faithful RegisteredState.toJson RegisteredState.ofJson? :=
  ⟨fun s => by cases s <;> decide, fun _ => rfl⟩

theorem Job.faithful : Faithful Job.toJson Job.ofJson? := ⟨fun j => by cases j <;> decide, fun _ => rfl⟩

theorem Discoverability.faithful : Faithful Discoverability.toJson Discoverability.ofJson? :=
  ⟨fun d => by cases d <;> decide, fun _ => rfl⟩

/-! ## Phone numbers -/

theorem eq_cons_of_isPhoneNumber {cs : List Char} (form : isPhoneNumber cs = true) :
    ∃ digits, cs = '+' :: digits ∧ 8 ≤ digits.length ∧ ∀ c ∈ digits, Text.isDigit c = true := by
  unfold isPhoneNumber at form
  split at form
  · simp only [Bool.and_eq_true, decide_eq_true_eq, List.all_eq_true] at form
    exact ⟨_, rfl, form.1.1, form.2⟩
  · contradiction

theorem trimChars_of_isPhoneNumber {cs : List Char} (form : isPhoneNumber cs = true) : Text.trimChars cs = cs := by
  obtain ⟨digits, rfl, enough, all⟩ := eq_cons_of_isPhoneNumber form
  have front : Text.dropBlank ('+' :: digits) = '+' :: digits := rfl
  have back : Text.dropBlank ('+' :: digits).reverse = ('+' :: digits).reverse := by
    have nonempty : digits ≠ [] := by rintro rfl; simp at enough
    obtain ⟨init, last, rfl⟩ : ∃ init last, digits = init ++ [last] :=
      ⟨digits.dropLast, digits.getLast nonempty, (List.dropLast_concat_getLast nonempty).symm⟩
    have visible := Text.isBlank_of_isDigit (all last (by simp))
    simp [Text.dropBlank, visible]
  rw [Text.trimChars, front, back, List.reverse_reverse]

theorem PhoneNumber.parse_text (n : PhoneNumber) : parse n.text = .ok n := by
  have trimmed : Text.trim n.text = n.text := by
    rw [Text.trim, trimChars_of_isPhoneNumber n.wellFormed, String.ofList_toList]
  simp only [parse, trimmed]
  exact dif_pos n.wellFormed

theorem PhoneNumber.faithful : Faithful PhoneNumber.toJson PhoneNumber.ofJson? :=
  ⟨fun n => by simp only [toJson, ofJson?, parse_text, Except.toOption], fun _ => rfl⟩

/-! ## Records -/

private theorem PreKeyId.toJson_ne_null (id : PreKeyId) : id.toJson ≠ .null := by simp [PreKeyId.toJson, Json.nat]

theorem PreKeyLedger.faithful : Faithful PreKeyLedger.toJson PreKeyLedger.ofJson? := by
  have field := asOption?_option PreKeyId.faithful.decode_encode PreKeyId.toJson_ne_null
  constructor
  · intro l
    have read : l.toJson.fields? ["next_signed_pre_key_id", "active_signed_pre_key_id", "next_kyber_pre_key_id",
        "last_resort_kyber_pre_key_id", "signed_pre_key_registered"] =
          some ⟨true, [("next_signed_pre_key_id", .option PreKeyId.toJson l.nextSigned),
            ("active_signed_pre_key_id", .option PreKeyId.toJson l.activeSigned),
            ("next_kyber_pre_key_id", .option PreKeyId.toJson l.nextLastResort),
            ("last_resort_kyber_pre_key_id", .option PreKeyId.toJson l.activeLastResort),
            ("signed_pre_key_registered", .bool l.signedRegistered)]⟩ := rfl
    rw [ofJson?, read, Option.bind_eq_bind, Option.bind_some, Fields.optional?_of_lookup rfl,
      Fields.optional?_of_lookup rfl, Fields.optional?_of_lookup rfl, Fields.optional?_of_lookup rfl,
      Fields.required?_of_lookup rfl, field, field, field, field]
    rfl
  · intro l
    have id (o : Option PreKeyId) : (Json.option PreKeyId.toJson o).isPlainTo 0 = true := by
      cases o with
      | none => rfl
      | some id => exact isPlainTo_uint32 id.value
    simp [toJson, isPlainTo, areMembersPlainTo, id]

theorem ServiceId.faithful : Faithful ServiceId.toJson ServiceId.ofJson? := by
  constructor
  · intro s
    have read : s.toJson.fields? ["kind", "uuid"] = some ⟨true, [("kind", s.space.toJson), ("uuid", s.uuid.toJson)]⟩ := rfl
    have kind : Namespace.ofJson? s.space.toJson = some s.space := by cases s <;> rfl
    rw [ofJson?, read, Option.bind_eq_bind, Option.bind_some, Fields.required?_of_lookup rfl,
      Fields.required?_of_lookup rfl, kind, Uuid.faithful.decode_encode]
    cases s <;> rfl
  · intro s
    simp [toJson, isPlainTo, areMembersPlainTo, Namespace.toJson, Uuid.toJson]

theorem PeerAddress.ofJson?_toJson (a : PeerAddress) : ofJson? a.toJson = some a := by
  have read : a.toJson.fields? ["service_id", "device_id"] =
      some ⟨true, [("service_id", a.serviceId.toJson), ("device_id", a.deviceId.toJson)]⟩ := rfl
  rw [ofJson?, read, Option.bind_eq_bind, Option.bind_some, Fields.required?_of_lookup rfl,
    Fields.required?_of_lookup rfl, ServiceId.faithful.decode_encode, DeviceId.faithful.decode_encode]
  rfl

theorem PeerAddress.isPlain_toJson (a : PeerAddress) : a.toJson.isPlain = true := by
  have serviceId := isPlainTo_of_le (show 1 ≤ 126 by decide) (ServiceId.faithful.plain a.serviceId)
  have deviceId := isPlainTo_of_le (show 1 ≤ 126 by decide) (DeviceId.faithful.plain a.deviceId)
  simp [Json.isPlain, Json.nestingLimit, toJson, isPlainTo, areMembersPlainTo, serviceId, deviceId]

theorem Session.ofJson?_toJson (s : Session) : ofJson? s.toJson = some s := by
  have visible (bytes : Bytes) : Json.ofBytes bytes ≠ .null := by simp [Json.ofBytes, Json.list]
  have read : s.toJson.fields? ["current", "previous"] =
      some ⟨true, [("current", .option .ofBytes s.current), ("previous", .list .ofBytes s.previous)]⟩ := rfl
  rw [ofJson?, read, Option.bind_eq_bind, Option.bind_some, Fields.optional?_of_lookup rfl,
    Fields.required?_of_lookup rfl, asOption?_option asBytes?_ofBytes visible, asList?_list asBytes?_ofBytes]
  rfl

theorem Session.isPlain_toJson (s : Session) : s.toJson.isPlain = true := by
  have current : (Json.option Json.ofBytes s.current).isPlainTo 126 = true := by
    cases s.current with
    | none => rfl
    | some bytes => exact isPlainTo_ofBytes bytes
  have previous : (Json.list Json.ofBytes s.previous).isPlainTo 126 = true :=
    areItemsPlainTo_map 125 _ _ fun bytes => isPlainTo_ofBytes bytes
  simp [Json.isPlain, Json.nestingLimit, toJson, isPlainTo, areMembersPlainTo, current, previous]

/-! ## Members of groups -/

namespace Members

private theorem insertSorted_last {a : Aci} {l : List Aci} (above : ∀ b ∈ l, b.uuid < a.uuid) :
    insertSorted a l = l ++ [a] := by
  induction l with
  | nil => rfl
  | cons b rest ih =>
    have below : b.uuid < a.uuid := above b (by simp)
    have other : a ≠ b := by rintro rfl; exact Nat.lt_irrefl _ below
    rw [insertSorted, if_neg (show ¬ a.uuid < b.uuid from Nat.lt_asymm below), if_neg other, ih fun x member => above x (by simp [member]),
      List.cons_append]

theorem ofList_list (s : Members) : ofList s.list = s := by
  have insertAll (l : List Aci) (before : Members) (ascending : (before.list ++ l).Pairwise (·.uuid < ·.uuid)) :
      (l.foldl insert before).list = before.list ++ l := by
    induction l generalizing before with
    | nil => simp
    | cons a l ih =>
      have last : (before.insert a).list = before.list ++ [a] :=
        insertSorted_last fun b member => (List.pairwise_append.1 ascending).2.2 b member a (by simp)
      rw [List.foldl_cons, ih (before.insert a) (by simpa [last] using ascending), last]
      simp
  have same := insertAll s.list empty (by simpa [empty] using s.ascending)
  unfold ofList
  generalize s.list.foldl insert empty = t at *
  cases t; cases s
  simpa [empty] using same

theorem ofJson?_toJson (s : Members) : ofJson? s.toJson = some s := by
  simp [ofJson?, toJson, asList?_list Aci.faithful.decode_encode, ofList_list]

theorem isPlain_toJson (s : Members) : s.toJson.isPlain = true :=
  areItemsPlainTo_map 126 _ _ fun a => isPlainTo_of_le (by decide) (Aci.faithful.plain a)

end Members

theorem Group.ofJson?_toJson (g : Group) : ofJson? g.toJson = some g := by
  have read : g.toJson.fields? ["id", "revision", "members"] = some ⟨true, [("id", g.id.toJson),
      ("revision", .nat g.revision.toNat), ("members", g.members.toJson)]⟩ := rfl
  rw [ofJson?, read, Option.bind_eq_bind, Option.bind_some, Fields.required?_of_lookup rfl,
    Fields.required?_of_lookup rfl, Fields.required?_of_lookup rfl, GroupId.faithful.decode_encode, asUInt32?_nat,
    Members.ofJson?_toJson]
  rfl

theorem Group.isPlain_toJson (g : Group) : g.toJson.isPlain = true := by
  have id := isPlainTo_of_le (show 1 ≤ 126 by decide) (GroupId.faithful.plain g.id)
  have revision : (Json.nat g.revision.toNat).isPlainTo 126 = true := isPlainTo_uint32 g.revision
  have members : g.members.toJson.isPlainTo 126 = true :=
    areItemsPlainTo_map 125 _ _ fun a => isPlainTo_of_le (by decide) (Aci.faithful.plain a)
  simp [Json.isPlain, Json.nestingLimit, toJson, isPlainTo, areMembersPlainTo, id, revision, members]

/-! ## Keys -/

theorem IdentityKeys.ofJson?_toJson (k : IdentityKeys) : ofJson? k.toJson = some k := by
  have read : k.toJson.fields? ["public_key", "private_key"] =
      some ⟨true, [("public_key", .ofBytes k.publicKey), ("private_key", .ofBytes k.privateKey)]⟩ := rfl
  rw [ofJson?, read, Option.bind_eq_bind, Option.bind_some, Fields.required?_of_lookup rfl,
    Fields.required?_of_lookup rfl, asBytes?_ofBytes, asBytes?_ofBytes]
  rfl

theorem IdentityKeys.isPlain_toJson (k : IdentityKeys) : k.toJson.isPlain = true := by
  simp [Json.isPlain, Json.nestingLimit, toJson, isPlainTo, areMembersPlainTo, isPlainTo_ofBytes]

/-- What the texts of a key keep of it. -/
def SignedPreKey.civil (k : SignedPreKey) : SignedPreKey := { k with createdAt := k.createdAt.civil }

theorem SignedPreKey.civil_eq_self_iff {k : SignedPreKey} : k.civil = k ↔ k.createdAt.IsCivil := by
  rw [← Timestamp.civil_eq_self_iff]
  exact ⟨congrArg createdAt, fun same => by rw [civil, same]⟩

@[simp] theorem SignedPreKey.civil_civil (k : SignedPreKey) : k.civil.civil = k.civil :=
  civil_eq_self_iff.2 k.createdAt.isCivil_civil

theorem SignedPreKey.ofJson?_toJson (k : SignedPreKey) : ofJson? k.toJson = some k.civil := by
  have read : k.toJson.fields? ["id", "public_key", "private_key", "signature", "created_at"] =
      some ⟨true, [("id", k.id.toJson), ("public_key", .ofBytes k.publicKey), ("private_key", .ofBytes k.privateKey),
        ("signature", .ofBytes k.signature), ("created_at", .str k.createdAt.toText)]⟩ := rfl
  have createdAt : (Json.str k.createdAt.toText).asString?.bind Timestamp.ofText? = some k.createdAt.civil := by
    rw [asString?, Option.bind_some, Timestamp.ofText?_toText]
  rw [ofJson?, read, Option.bind_eq_bind, Option.bind_some, Fields.required?_of_lookup rfl,
    Fields.required?_of_lookup rfl, Fields.required?_of_lookup rfl, Fields.required?_of_lookup rfl,
    Fields.required?_of_lookup rfl, PreKeyId.faithful.decode_encode, asBytes?_ofBytes, asBytes?_ofBytes,
    asBytes?_ofBytes, createdAt]
  rfl

theorem SignedPreKey.isCivil_of_ofJson? {j : Json} {k : SignedPreKey} (read : ofJson? j = some k) :
    k.createdAt.IsCivil := by
  simp only [ofJson?, Option.bind_eq_bind, Option.bind_eq_some_iff] at read
  obtain ⟨f, -, id, -, publicKey, -, privateKey, -, signature, -, createdAt, found, made⟩ := read
  obtain rfl := Option.some.inj made
  obtain ⟨value, found⟩ := Fields.exists_of_required? found
  obtain ⟨text, -, shown⟩ := Option.bind_eq_some_iff.1 found
  exact Timestamp.isCivil_of_ofText? shown

theorem SignedPreKey.isPlainTo_toJson (k : SignedPreKey) : k.toJson.isPlainTo 2 = true := by
  have id := PreKeyId.faithful.plain k.id
  simp [toJson, isPlainTo, areMembersPlainTo, isPlainTo_ofBytes, id]

def LastResortPreKey.civil (k : LastResortPreKey) : LastResortPreKey := { k with key := k.key.civil }

theorem LastResortPreKey.civil_eq_self_iff {k : LastResortPreKey} : k.civil = k ↔ k.key.createdAt.IsCivil := by
  rw [← SignedPreKey.civil_eq_self_iff]
  exact ⟨congrArg key, fun same => by rw [civil, same]⟩

@[simp] theorem LastResortPreKey.civil_civil (k : LastResortPreKey) : k.civil.civil = k.civil :=
  civil_eq_self_iff.2 k.key.createdAt.isCivil_civil

theorem LastResortPreKey.ofJson?_toJson (k : LastResortPreKey) : ofJson? k.toJson = some k.civil := by
  have read : k.toJson.fields? ["key", "last_resort"] =
      some ⟨true, [("key", k.key.toJson), ("last_resort", .bool k.lastResort)]⟩ := rfl
  rw [ofJson?, read, Option.bind_eq_bind, Option.bind_some, Fields.required?_of_lookup rfl,
    Fields.required?_of_lookup rfl, SignedPreKey.ofJson?_toJson]
  rfl

theorem LastResortPreKey.isCivil_of_ofJson? {j : Json} {k : LastResortPreKey} (read : ofJson? j = some k) :
    k.key.createdAt.IsCivil := by
  simp only [ofJson?, Option.bind_eq_bind, Option.bind_eq_some_iff] at read
  obtain ⟨f, -, key, found, lastResort, -, made⟩ := read
  obtain rfl := Option.some.inj made
  obtain ⟨value, found⟩ := Fields.exists_of_required? found
  exact SignedPreKey.isCivil_of_ofJson? found

theorem LastResortPreKey.isPlain_toJson (k : LastResortPreKey) : k.toJson.isPlain = true := by
  have key := isPlainTo_of_le (show 2 ≤ 126 by decide) k.key.isPlainTo_toJson
  simp [Json.isPlain, Json.nestingLimit, toJson, isPlainTo, areMembersPlainTo, key]

/-! ## Recipients -/

theorem Recipient.ofJson?_toJson (r : Recipient) : ofJson? r.toJson = some r := by
  have aci := asOption?_option Aci.faithful.decode_encode (by simp [Aci.toJson, Uuid.toJson]) r.aci
  have pni := asOption?_option Pni.faithful.decode_encode (by simp [Pni.toJson, Uuid.toJson]) r.pni
  have number := asOption?_option PhoneNumber.faithful.decode_encode (by simp [PhoneNumber.toJson]) r.number
  have profileKey := asOption?_option ProfileKey.faithful.decode_encode (by simp [ProfileKey.toJson, ofBytes, list])
    r.profileKey
  have read : r.toJson.fields? ["id", "aci", "pni", "e164", "registered", "profile_sharing", "profile_key"] =
      some ⟨true, [("id", r.id.toJson), ("aci", .option Aci.toJson r.aci), ("pni", .option Pni.toJson r.pni),
        ("e164", .option PhoneNumber.toJson r.number), ("registered", r.registered.toJson),
        ("profile_sharing", .bool r.profileSharing), ("profile_key", .option ProfileKey.toJson r.profileKey)]⟩ := rfl
  rw [ofJson?, read, Option.bind_eq_bind, Option.bind_some, Fields.required?_of_lookup rfl,
    Fields.optional?_of_lookup rfl, Fields.optional?_of_lookup rfl, Fields.optional?_of_lookup rfl,
    Fields.required?_of_lookup rfl, Fields.required?_of_lookup rfl, Fields.optional?_of_lookup rfl,
    RecipientId.faithful.decode_encode, aci, pni, number, RegisteredState.faithful.decode_encode, profileKey]
  rfl

theorem Recipient.isPlain_toJson (r : Recipient) : r.toJson.isPlain = true := by
  have id := isPlainTo_of_le (show 1 ≤ 126 by decide) (RecipientId.faithful.plain r.id)
  have aci := isPlainTo_of_le (show 1 ≤ 126 by decide) (isPlainTo_option Aci.faithful.plain r.aci)
  have pni := isPlainTo_of_le (show 1 ≤ 126 by decide) (isPlainTo_option Pni.faithful.plain r.pni)
  have number := isPlainTo_of_le (show 1 ≤ 126 by decide) (isPlainTo_option PhoneNumber.faithful.plain r.number)
  have registered := isPlainTo_of_le (show 1 ≤ 126 by decide) (RegisteredState.faithful.plain r.registered)
  have profileKey := isPlainTo_of_le (show 1 ≤ 126 by decide) (isPlainTo_option ProfileKey.faithful.plain r.profileKey)
  simp [Json.isPlain, Json.nestingLimit, toJson, isPlainTo, areMembersPlainTo, id, aci, pni, number, registered,
    profileKey]

end Enrolment
