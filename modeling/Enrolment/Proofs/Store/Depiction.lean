import Enrolment.Proofs.Store.Archive
import Enrolment.Proofs.Store.Database
import Enrolment.Proofs.Text.Timestamp
import Enrolment.Store.Memory
import Mathlib.Data.List.Nodup
/-!
The tables of a database depict a store in memory if they hold the same, row by row, in the forms
that the columns have. Every operation answers alike on both and leaves tables that still depict the
store (`depicts_perform`), so that what is shown of the store in memory holds of the database as well. Only
the times of keys may differ: a column has their text, and with it the moment that the text shows.
-/
namespace Enrolment.Store

theorem addressText_injective : Function.Injective addressText := by
  intro a b same
  have read := Json.document?_render a.isPlain_toJson
  rw [show a.toJson.render = b.toJson.render from same, Json.document?_render b.isPlain_toJson] at read
  have back := PeerAddress.ofJson?_toJson a
  rw [← Option.some.inj read, PeerAddress.ofJson?_toJson] at back
  exact (Option.some.inj back).symm

/-! ## What the cells of a row show -/

def Cell.ShowsValue (cell : Cell) (value : Json) : Prop := ∃ text, cell = .text text ∧ Json.value? text = some value

def Cell.ShowsSession (cell : Cell) (session : Session) : Prop :=
  ∃ text, cell = .text text ∧ (Json.document? text).bind Session.ofJson? = some session

def Cell.ofText? (text : Option String) : Cell := text.elim .null .text

def Cell.ofBytes? (bytes : Option Bytes) : Cell := bytes.elim .null .blob

/-- The row of a recipient. It has one form only, since recipients are looked up by their texts. -/
def RecipientRow.of (r : Recipient) : RecipientRow where
  aci := .ofText? (r.aci.map (·.uuid.toText))
  pni := .ofText? (r.pni.map (·.uuid.toText))
  number := .ofText? (r.number.map (·.text))
  registered := .text r.registered.name
  profileSharing := r.profileSharing
  profileKey := .ofBytes? (r.profileKey.map (·.bytes))

def GroupRow.Shows (row : GroupRow) (g : Group) : Prop :=
  row.revision = .integer g.revision.toUInt64.toInt64 ∧
    ∃ text, row.members = .text text ∧ (Json.document? text).bind Members.ofJson? = some g.members

def sessionName (key : Namespace × PeerAddress) : Namespace × String := (key.1, addressText key.2)

abbrev SessionRows : Table (Namespace × String) Cell → Table (Namespace × PeerAddress) Session → Prop :=
  Table.Rows sessionName fun _ cell session => cell.ShowsSession session

abbrev GroupRows : Table GroupId GroupRow → Table GroupId Group → Prop :=
  Table.Rows id fun id row g => row.Shows g ∧ g.id = id

def senderName (key : PeerAddress × Uuid) : String × String := (addressText key.1, key.2.toText)

structure Tables.Depicts (t : Tables) (m : Memory) : Prop where
  values : Table.Rows id (fun _ cell value => cell.ShowsValue value) t.values m.values
  identities : t.identities = m.identities
  signed : Table.Rows id (fun k row key => row.key? k.2 = some key.civil) t.signed m.signed
  lastResort : Table.Rows id (fun k row key => row.1.key? k.2 = some key.key.civil ∧ row.2 = key.lastResort)
    t.lastResort m.lastResort
  sessions : SessionRows t.sessions m.sessions
  distinct : (m.sessions.map (·.1)).Nodup
  senderKeys : Table.Rows senderName (fun _ record record' => record = record') t.senderKeys m.senderKeys
  sequence : t.recipientSequence = m.recipientCount
  recipients : Table.Rows id (fun id row r => row = RecipientRow.of r ∧ r.id = id) t.recipients m.recipients
  groups : GroupRows t.groups m.groups

theorem depicts_empty : Tables.empty.Depicts Memory.empty :=
  ⟨.nil, rfl, .nil, .nil, .nil, List.nodup_nil, .nil, rfl, .nil, .nil⟩

private theorem id_injective {κ : Type} : Function.Injective (id : κ → κ) := fun _ _ same => same

theorem sessionName_injective : Function.Injective sessionName := by
  intro a b same
  obtain ⟨space, address⟩ := Prod.mk.inj same
  exact Prod.ext space (addressText_injective address)

theorem senderName_injective : Function.Injective senderName := by
  intro a b same
  obtain ⟨sender, distribution⟩ := Prod.mk.inj same
  exact Prod.ext (addressText_injective sender) (Uuid.toText_injective distribution)

theorem showsSession_iff {cell : Cell} {session : Session} : cell.ShowsSession session ↔ cell.session? = some session := by
  cases cell <;> simp [Cell.ShowsSession, Cell.session?, Cell.text?]

theorem showsSession_sessionText (s : Session) : (Cell.text (sessionText s)).ShowsSession s :=
  showsSession_iff.2 (Cell.session?_sessionText s)

theorem shows_ofGroup (g : Group) : (GroupRow.of g).Shows g :=
  ⟨rfl, _, rfl, by rw [membersText, Json.document?_render g.members.isPlain_toJson, Option.bind_some, g.members.ofJson?_toJson]⟩

theorem key?_ofKey (key : SignedPreKey) : (SignedRow.of key).key? key.id = some key.civil := by
  simp [SignedRow.of, SignedRow.key?, Timestamp.ofText?_toText, SignedPreKey.civil]

/-! ## Operations -/

/-- What an operation writes as a document can be read back. -/
def Operation.IsFaithful : Operation → Prop
  | .write _ value => value.isPlain = true
  | _ => True

/-- What a database answers where memory answers this. -/
def Operation.told : (op : Operation) → Except Fault op.Result → Except Fault op.Result
  | .signedPreKey _ _, answer => answer.map (·.map SignedPreKey.civil)
  | .lastResortPreKey _ _, answer => answer.map (·.map LastResortPreKey.civil)
  | _, answer => answer

variable {α : Type} {t : Tables} {m : Memory}

def Script.Agrees (s : Script α) (t : Tables) (outcome : Except Fault α × Memory) : Prop :=
  (s.run t).1 = outcome.1 ∧ (s.run t).2.Depicts outcome.2

open Script

private theorem agrees_of_run {s : Script α} {outcome : Except Fault α × Memory} {t' : Tables}
    (same : s.run t = (outcome.1, t')) (depicts : t'.Depicts outcome.2) : s.Agrees t outcome :=
  ⟨congrArg Prod.fst same, by rwa [same]⟩

private theorem get?_of_rows {κ β γ : Type} [DecidableEq κ] {shows : κ → β → γ → Prop} {t : Table κ β} {u : Table κ γ}
    (rows : Table.Rows id shows t u) (k : κ) : Option.Rel (shows k) (t.get? k) (u.get? k) :=
  rows.get? id_injective k

private theorem agrees_read (depicts : t.Depicts m) (key : String) :
    (Script.read key).Agrees t (m.perform (.read key)) := by
  have found := get?_of_rows depicts.values key
  refine agrees_of_run (?_ : _ = (Except.ok (m.values.get? key), t)) depicts
  simp only [Script.read, run_bind, run_query]
  generalize t.values.get? key = cell, m.values.get? key = value at found
  cases found with
  | none => rfl
  | some shown =>
    obtain ⟨text, rfl, readBack⟩ := shown
    simp [column, Cell.text?, readBack, Except.map]

private theorem agrees_signedPreKey (depicts : t.Depicts m) (space : Namespace) (id : PreKeyId) :
    (Script.signedPreKey space id).Agrees t (.ok ((m.signed.get? (space, id)).map SignedPreKey.civil), m) := by
  have found := get?_of_rows depicts.signed (space, id)
  refine agrees_of_run (?_ : _ = (Except.ok ((m.signed.get? (space, id)).map SignedPreKey.civil), t)) depicts
  simp only [Script.signedPreKey, run_bind, run_query]
  generalize t.signed.get? (space, id) = row, m.signed.get? (space, id) = key at found
  cases found with
  | none => rfl
  | some shown => simp [shown, Except.map]

private theorem agrees_lastResortPreKey (depicts : t.Depicts m) (space : Namespace) (id : PreKeyId) :
    (Script.lastResortPreKey space id).Agrees t
      (.ok ((m.lastResort.get? (space, id)).map LastResortPreKey.civil), m) := by
  have found := get?_of_rows depicts.lastResort (space, id)
  refine agrees_of_run (?_ : _ = (Except.ok ((m.lastResort.get? (space, id)).map LastResortPreKey.civil), t)) depicts
  simp only [Script.lastResortPreKey, run_bind, run_query]
  generalize t.lastResort.get? (space, id) = row, m.lastResort.get? (space, id) = key at found
  cases found with
  | none => rfl
  | some shown =>
    obtain ⟨key, flag⟩ := shown
    simp [key, flag, Except.map, LastResortPreKey.civil]

theorem run_sessionOf {cell : Cell} {session : Session} (shown : cell.ShowsSession session) (t : Tables) :
    (sessionOf cell).run t = (.ok session, t) :=
  run_sessionOf_ok (showsSession_iff.1 shown) t

private theorem run_session (depicts : t.Depicts m) (space : Namespace) (address : PeerAddress) :
    (Script.session space address).run t = (.ok (m.sessions.get? (space, address)), t) := by
  have found := depicts.sessions.get? sessionName_injective (space, address)
  simp only [sessionName] at found
  simp only [Script.session, run_bind, run_query]
  generalize t.sessions.get? (space, addressText address) = cell, m.sessions.get? (space, address) = session at found
  cases found with
  | none => rfl
  | some shown => simp [run_sessionOf shown, Except.map]

private theorem agrees_pushSession (depicts : t.Depicts m) (space : Namespace) (address : PeerAddress) (state : Bytes) :
    (Script.pushSession space address state).Agrees t (m.perform (.pushSession space address state)) := by
  let session := ((m.sessions.get? (space, address)).getD .empty).push state
  have ran : (Script.pushSession space address state).run t =
      (.ok (), { t with sessions := t.sessions.put (space, addressText address) (.text (sessionText session)) }) := by
    simp [Script.pushSession, run_session depicts, putSession, session]
  refine agrees_of_run ran { depicts with sessions := ?_, distinct := ?_ }
  · exact depicts.sessions.put (k := (space, address)) sessionName_injective (showsSession_sessionText session)
  · exact Table.nodup_put depicts.distinct _ _

private theorem legible_of_rows {rows : Table (Namespace × String) Cell} {sessions : Table (Namespace × PeerAddress) Session}
    (shows : SessionRows rows sessions) (space : Namespace) : Legible space rows := by
  induction shows with
  | nil => simp [Legible]
  | @cons row _ rows _ head _ ih =>
    have first : row.2.session?.isSome = true := by simp [showsSession_iff.1 head.2]
    simp only [Legible, List.forall_mem_cons] at ih ⊢
    exact ⟨fun _ => first, ih⟩

private theorem archivedRows_rows {rows : Table (Namespace × String) Cell} {sessions : Table (Namespace × PeerAddress) Session}
    (shows : SessionRows rows sessions) (space : Namespace) :
    SessionRows (archivedRows space rows) (Memory.archive space sessions) := by
  induction shows with
  | nil => exact .nil
  | @cons row row' _ _ head _ ih =>
    refine .cons ?_ ih
    dsimp only at head ⊢
    by_cases here : row'.1.1 = space
    · have place : row.1.1 = space := by rw [head.1]; exact here
      rw [if_pos place, if_pos here]
      exact ⟨head.1, showsSession_iff.2 (by rw [Cell.session?_archived, showsSession_iff.1 head.2, Option.map_some])⟩
    · have place : row.1.1 ≠ space := by rw [head.1]; exact here
      rw [if_neg place, if_neg here]
      exact head

private theorem currentRows_eq {rows : Table (Namespace × String) Cell} {sessions : Table (Namespace × PeerAddress) Session}
    (shows : SessionRows rows sessions) (space : Namespace) : currentRows space rows = Memory.currentCount space sessions := by
  simp only [currentRows, Memory.currentCount, ← List.countP_eq_length_filter]
  induction shows with
  | nil => rfl
  | @cons row row' _ _ head _ ih =>
    have place : row.1.1 = row'.1.1 := by rw [head.1]; rfl
    rw [List.countP_cons, List.countP_cons, ih, place, showsSession_iff.1 head.2, Option.any_some]

theorem map_fst_archive (space : Namespace) (sessions : Table (Namespace × PeerAddress) Session) :
    (Memory.archive space sessions).map (·.1) = sessions.map (·.1) := by
  simp only [Memory.archive, List.map_map]
  apply List.map_congr_left
  intro row _
  by_cases here : row.1.1 = space <;> simp [here]

private theorem agrees_archiveSessions (depicts : t.Depicts m) (space : Namespace) :
    (Script.archiveSessions space).Agrees t (m.perform (.archiveSessions space)) := by
  have distinct : (t.sessions.map (·.1)).Nodup := by
    rw [depicts.sessions.map_fst]
    exact List.Nodup.map sessionName_injective depicts.distinct
  have ran := run_archiveSessions distinct (legible_of_rows depicts.sessions space)
  rw [currentRows_eq depicts.sessions] at ran
  refine agrees_of_run ran { depicts with sessions := archivedRows_rows depicts.sessions space, distinct := ?_ }
  rw [show (m.perform (.archiveSessions space)).2.sessions = Memory.archive space m.sessions from rfl, map_fst_archive]
  exact depicts.distinct

/-! ## Recipients -/

theorem ofText?_eq_text {α : Type} (write : α → String) (injective : Function.Injective write) (o : Option α)
    (a : α) : Cell.ofText? (o.map write) = .text (write a) ↔ o = some a := by
  cases o with
  | none => simp [Cell.ofText?]
  | some b => simpa [Cell.ofText?] using injective.eq_iff

theorem aciText_injective : Function.Injective fun aci : Aci => aci.uuid.toText := by
  rintro ⟨a⟩ ⟨b⟩ same
  exact congrArg Aci.mk (Uuid.toText_injective same)

theorem pniText_injective : Function.Injective fun pni : Pni => pni.uuid.toText := by
  rintro ⟨a⟩ ⟨b⟩ same
  exact congrArg Pni.mk (Uuid.toText_injective same)

theorem numberText_injective : Function.Injective PhoneNumber.text := by
  intro a b same
  have parsed := a.parse_text
  rw [same, b.parse_text] at parsed
  exact (Except.ok.inj parsed).symm

private theorem run_recipientWhere (depicts : t.Depicts m) (test : RecipientRow → Bool) (test' : Recipient → Bool)
    (agree : ∀ r, test (.of r) = test' r) :
    (recipientWhere test).run t = (.ok ((m.recipients.find? fun row => test' row.2).map (·.1)), t) := by
  have found := depicts.recipients.find? (fun row => test row.2) (fun row => test' row.2)
    (by rintro k row r ⟨rfl, _⟩; exact agree r)
  simp only [recipientWhere, run_query, found, id]

private theorem run_orRecipientWhere (depicts : t.Depicts m) (found : Option RecipientId) (test : RecipientRow → Bool)
    (test' : Recipient → Bool) (agree : ∀ r, test (.of r) = test' r) :
    (orRecipientWhere found test).run t =
      (.ok (found.or ((m.recipients.find? fun row => test' row.2).map (·.1))), t) := by
  cases found with
  | none => exact run_recipientWhere depicts test test' agree
  | some id => rfl

private theorem agrees_selfRecipient (depicts : t.Depicts m) (aci : Aci) (pni : Pni) (number : PhoneNumber) :
    (Script.selfRecipient aci pni number).Agrees t (m.perform (.selfRecipient aci pni number)) := by
  have byAci := run_recipientWhere depicts (·.aci = .text aci.uuid.toText) (·.aci = some aci)
    fun r => decide_eq_decide.2 (ofText?_eq_text (fun aci : Aci => aci.uuid.toText) aciText_injective r.aci aci)
  have byPni (found) := run_orRecipientWhere depicts found (·.pni = .text pni.uuid.toText) (·.pni = some pni)
    fun r => decide_eq_decide.2 (ofText?_eq_text (fun pni : Pni => pni.uuid.toText) pniText_injective r.pni pni)
  have byNumber (found) := run_orRecipientWhere depicts found (·.number = .text number.text) (·.number = some number)
    fun r => decide_eq_decide.2 (ofText?_eq_text PhoneNumber.text numberText_injective r.number number)
  have search : (m.perform (.selfRecipient aci pni number)) =
      (.ok (m.selfRecipient aci pni number).1, (m.selfRecipient aci pni number).2) := rfl
  rw [search]
  unfold Memory.selfRecipient
  cases found : Memory.findSelf? m.recipients aci pni number with
  | some id =>
    have ran : (Script.selfRecipient aci pni number).run t = (.ok id, { t with recipients := t.recipients.modify id fun r =>
        { r with aci := .text aci.uuid.toText, pni := .text pni.uuid.toText, number := .text number.text } }) := by
      unfold Memory.findSelf? at found
      simp [Script.selfRecipient, byAci, byPni, byNumber, found, Option.or_assoc, Except.toOption]
    refine agrees_of_run ran { depicts with recipients := ?_ }
    exact depicts.recipients.modify id_injective (by rintro row r ⟨rfl, same⟩; exact ⟨rfl, same⟩)
  | none =>
    have ran : (Script.selfRecipient aci pni number).run t =
        (.ok ⟨Int64.ofNat (t.recipientSequence + 1)⟩, { t with
          recipientSequence := t.recipientSequence + 1
          recipients := t.recipients.put ⟨Int64.ofNat (t.recipientSequence + 1)⟩
            (.new aci.uuid.toText pni.uuid.toText number.text) }) := by
      unfold Memory.findSelf? at found
      simp [Script.selfRecipient, byAci, byPni, byNumber, found, Option.or_assoc, Except.toOption]
    rw [depicts.sequence] at ran
    refine agrees_of_run ran { depicts with sequence := rfl, recipients := ?_ }
    exact depicts.recipients.put id_injective ⟨rfl, rfl⟩

private theorem agrees_updateRecipient (depicts : t.Depicts m) (id : RecipientId) {f : RecipientRow → RecipientRow}
    {g : Recipient → Recipient} (agree : ∀ r, f (.of r) = .of (g r)) (keeps : ∀ r, (g r).id = r.id) :
    (Script.updateRecipient id f).Agrees t (m.updateRecipient id g) := by
  have found := get?_of_rows depicts.recipients id
  have changed : Table.Rows (fun id => id) (fun id row r => row = RecipientRow.of r ∧ r.id = id) (t.recipients.modify id f)
      (m.recipients.modify id g) :=
    depicts.recipients.modify id_injective (by rintro row r ⟨rfl, rfl⟩; exact ⟨agree r, keeps r⟩)
  have ran : (Script.updateRecipient id f).run t =
      (if (t.recipients.get? id).isSome then .ok () else .error (.of (.missingRecipient id)),
        { t with recipients := t.recipients.modify id f }) := by
    cases there : (t.recipients.get? id).isSome <;> simp [Script.updateRecipient, there]
  unfold Memory.updateRecipient
  unfold Table.modify at changed ran
  generalize t.recipients.get? id = row, m.recipients.get? id = r at found changed ran
  cases found with
  | none => exact agrees_of_run ran depicts
  | some _ => exact agrees_of_run ran { depicts with recipients := changed }

private theorem run_numberOf (number : Option PhoneNumber) (t : Tables) :
    (numberOf (.ofText? (number.map (·.text)))).run t = (.ok number, t) := by
  cases number <;> simp [numberOf, Cell.ofText?, column, Cell.optional?, Cell.text?, PhoneNumber.parse_text]

private theorem run_uuidOf (name : String) (uuid : Option Uuid) (t : Tables) :
    (uuidOf name (.ofText? (uuid.map Uuid.toText))).run t = (.ok uuid, t) := by
  cases uuid <;> simp [uuidOf, Cell.ofText?, column, Cell.optional?, Cell.text?, Uuid.ofText?_toText, Except.map]

private theorem run_profileKeyOf (id : RecipientId) (profileKey : Option ProfileKey) (t : Tables) :
    (profileKeyOf id (.ofBytes? (profileKey.map (·.bytes)))).run t = (.ok profileKey, t) := by
  cases profileKey with
  | none => rfl
  | some key =>
    simp [profileKeyOf, Cell.ofBytes?, column, Cell.optional?, Cell.bytes?, ProfileKey.ofBytes?, key.length_eq, Except.map]

theorem run_recipient_of {r : Recipient} (there : t.recipients.get? r.id = some (.of r)) :
    (Script.recipient r.id).run t = (.ok (some r), t) := by
  have aci := run_uuidOf "aci" (r.aci.map Aci.uuid) t
  have pni := run_uuidOf "pni" (r.pni.map Pni.uuid) t
  have state : RegisteredState.ofName? r.registered.name = some r.registered := by cases r.registered <;> rfl
  rw [Option.map_map] at aci pni
  simp only [Script.recipient, run_bind, run_query, there]
  simp only [RecipientRow.of, run_numberOf, run_profileKeyOf, show (fun a : Aci => a.uuid.toText) = Uuid.toText ∘ Aci.uuid from rfl,
    show (fun p : Pni => p.uuid.toText) = Uuid.toText ∘ Pni.uuid from rfl, aci, pni, column, Cell.text?,
    run_orFault_some, state]
  have again : (r.aci.map Aci.uuid).map Aci.mk = r.aci ∧ (r.pni.map Pni.uuid).map Pni.mk = r.pni := by
    constructor
    · cases r.aci <;> rfl
    · cases r.pni <;> rfl
  rw [again.1, again.2]
  rfl

private theorem agrees_recipient (depicts : t.Depicts m) (id : RecipientId) :
    (Script.recipient id).Agrees t (m.perform (.recipient id)) := by
  have found := get?_of_rows depicts.recipients id
  refine agrees_of_run (?_ : _ = (Except.ok (m.recipients.get? id), t)) depicts
  generalize there : t.recipients.get? id = row, m.recipients.get? id = r at found
  cases found with
  | none => simp [Script.recipient, there]
  | some shown =>
    obtain ⟨rfl, rfl⟩ := shown
    exact run_recipient_of there

/-! ## Groups -/

private theorem revision_toInt (revision : UInt32) : revision.toUInt64.toInt64.toInt = revision.toNat := by
  have small := revision.toNat_lt
  have same : revision.toUInt64.toBitVec.toNat = revision.toNat := revision.toNat_toUInt64
  show revision.toUInt64.toBitVec.toInt = revision.toNat
  rw [BitVec.toInt_eq_toNat_of_lt (by omega), same]

abbrev GroupRow.ShownAt (id : GroupId) : Option GroupRow → Option Group → Prop :=
  Option.Rel fun row g => row.Shows g ∧ g.id = id

theorem run_group_of_shown {id : GroupId} {stored : Option Group} (found : GroupRow.ShownAt id (t.groups.get? id) stored) :
    (Script.group id).run t = (.ok stored, t) := by
  simp only [Script.group, run_bind, run_query]
  generalize t.groups.get? id = row at found
  cases found with
  | none => rfl
  | @some row g shown =>
    obtain ⟨⟨revision, text, members, read⟩, rfl⟩ := shown
    have small : (g.revision.toNat : Int) < UInt32.size := by
      have := g.revision.toNat_lt
      simp only [UInt32.size]
      omega
    simp only [column, revision, members, Cell.text?, Cell.integer?, read, revision_toInt, run_bind, run_orFault_some]
    rw [if_pos (by simpa using small)]
    simp

private theorem toInt64_of_toInt {n : Int64} (nonneg : 0 ≤ n.toInt) (small : n.toInt < UInt32.size) :
    (UInt32.ofNat n.toInt.toNat).toUInt64.toInt64 = n := by
  refine Int64.toInt_inj.1 ?_
  rw [revision_toInt, UInt32.toNat_ofNat_of_lt' (by omega)]
  omega

theorem run_group_of_damaged {id : GroupId} {row : GroupRow} (found : t.groups.get? id = some row)
    (damaged : ∀ g, ¬ row.Shows g) : ∃ e, (Script.group id).run t = (.error e, t) := by
  simp only [Script.group, run_bind, run_query, found]
  cases isText : row.members with
  | text text =>
    simp only [column, Cell.text?, run_orFault_some]
    cases read : (Json.document? text).bind Members.ofJson? with
    | none => exact ⟨_, rfl⟩
    | some members =>
      simp only [run_orFault_some]
      cases isInteger : row.revision with
      | integer n =>
        simp only [Cell.integer?, run_orFault_some]
        split
        · rename_i within
          obtain ⟨nonneg, small⟩ : 0 ≤ n.toInt ∧ n.toInt < UInt32.size := by simpa using within
          refine absurd ⟨?_, text, isText, read⟩ (damaged ⟨id, .ofNat n.toInt.toNat, members⟩)
          rw [isInteger, toInt64_of_toInt nonneg small]
        · exact ⟨_, rfl⟩
      | _ => exact ⟨_, rfl⟩
  | _ => exact ⟨_, rfl⟩

theorem run_group {groups : Table GroupId Group} (rows : GroupRows t.groups groups) (id : GroupId) :
    (Script.group id).run t = (.ok (groups.get? id), t) :=
  run_group_of_shown (get?_of_rows rows id)

theorem putGroup_rows {groups : Table GroupId Group} (rows : GroupRows t.groups groups) (g : Group) :
    GroupRows (t.groups.put g.id (.of g)) (groups.put g.id g) :=
  rows.put id_injective ⟨shows_ofGroup g, rfl⟩

/-! ## All of it -/

theorem depicts_perform (depicts : t.Depicts m) {op : Operation} (faithful : op.IsFaithful) :
    (Script.ofOperation op).Agrees t (op.told (m.perform op).1, (m.perform op).2) := by
  cases op with
  | read key => exact agrees_read depicts key
  | write key value =>
    have shown : (Cell.text value.render).ShowsValue value := ⟨_, rfl, Json.value?_render faithful⟩
    exact ⟨rfl, { depicts with values := depicts.values.put id_injective shown }⟩
  | erase key => exact ⟨rfl, { depicts with values := depicts.values.erase id_injective key }⟩
  | identityKeys space =>
    exact agrees_of_run (congrArg (fun table => (Except.ok (Table.get? table space), t)) depicts.identities) depicts
  | putIdentityKeys space keys =>
    exact ⟨rfl, { depicts with identities := congrArg (Table.put · space keys) depicts.identities }⟩
  | signedPreKey space id => exact agrees_signedPreKey depicts space id
  | putSignedPreKey space key =>
    exact ⟨rfl, { depicts with signed := depicts.signed.put id_injective (key?_ofKey key) }⟩
  | lastResortPreKey space id => exact agrees_lastResortPreKey depicts space id
  | putLastResortPreKey space key =>
    exact ⟨rfl, { depicts with lastResort := depicts.lastResort.put id_injective ⟨key?_ofKey key.key, rfl⟩ }⟩
  | session space address =>
    exact agrees_of_run (run_session depicts space address) depicts
  | pushSession space address state => exact agrees_pushSession depicts space address state
  | archiveSessions space => exact agrees_archiveSessions depicts space
  | putSenderKey sender distribution record =>
    exact ⟨rfl, { depicts with senderKeys := depicts.senderKeys.put (k := (sender, distribution)) senderName_injective rfl }⟩
  | senderKeyCount =>
    exact agrees_of_run (congrArg (fun count => (Except.ok count, t)) depicts.senderKeys.length_eq) depicts
  | clearSenderKeys =>
    exact ⟨congrArg Except.ok depicts.senderKeys.length_eq, { depicts with senderKeys := .nil }⟩
  | selfRecipient aci pni number => exact agrees_selfRecipient depicts aci pni number
  | recipient id => exact agrees_recipient depicts id
  | markRegistered id => exact agrees_updateRecipient depicts id (fun _ => rfl) fun _ => rfl
  | setProfileSharing id enabled => exact agrees_updateRecipient depicts id (fun _ => rfl) fun _ => rfl
  | setProfileKey id key => exact agrees_updateRecipient depicts id (fun _ => rfl) fun _ => rfl
  | group id => exact agrees_of_run (run_group depicts.groups id) depicts
  | putGroup g => exact ⟨rfl, { depicts with groups := putGroup_rows depicts.groups g }⟩

end Enrolment.Store
