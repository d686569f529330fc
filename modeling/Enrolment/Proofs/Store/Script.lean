import Enrolment.Proofs.Plan.Contract
import Enrolment.Store.Database
/-!
How scripts run. A script notes truly whether it changed the tables, so that a database that keeps
the tables only then loses nothing: on a thread that can work, an operation answers and changes the
thread's view as its script does on that view (`Database.perform_of_free`); on any other thread it
fails and changes nothing (`Database.perform_cases`). No script changes a value under another key than
the one that its operation edits (`get?_run`), and only the one that puts a group changes groups
(`groups_run`).
-/
namespace Enrolment.Store

def Operation.edited? : Operation → Option String
  | .write key _ | .erase key => some key
  | _ => none

def Operation.putsGroup : Operation → Bool
  | .putGroup _ => true
  | _ => false

namespace Script

variable {α β : Type}

@[simp] theorem run_pure (a : α) (t : Tables) : (pure a : Script α).run t = (.ok a, t) := rfl

@[simp] theorem run_throw (f : Fault) (t : Tables) : (throw f : Script α).run t = (.error f, t) := rfl

@[simp] theorem run_query (f : Tables → α) (t : Tables) : (query f).run t = (.ok (f t), t) := rfl

@[simp] theorem run_execute (f : Tables → α × Tables) (t : Tables) : (execute f).run t = (.ok (f t).1, (f t).2) := rfl

@[simp] theorem run_bind (s : Script α) (f : α → Script β) (t : Tables) :
    (s >>= f).run t = match s.run t with
      | (.ok a, t') => (f a).run t'
      | (.error e, t') => (.error e, t') := by
  unfold run
  rw [ExceptT.run_bind, Plan.run_bind]
  generalize Plan.run _ (ExceptT.run s) t = outcome
  obtain ⟨_ | _, _⟩ := outcome <;> rfl

@[simp] theorem run_map (s : Script α) (f : α → β) (t : Tables) :
    (f <$> s).run t = ((s.run t).1.map f, (s.run t).2) := by
  rw [map_eq_pure_bind, run_bind]
  generalize s.run t = outcome
  obtain ⟨_ | _, _⟩ := outcome <;> rfl

@[simp] theorem run_atomically (s : Script α) (t : Tables) :
    (atomically s).run t = ((s.run t).1, if (s.run t).1.toOption.isSome then (s.run t).2 else t) := by
  show (match s.run t with | (.ok a, changed) => (Except.ok a, changed) | (.error e, _) => (.error e, t)) = _
  generalize s.run t = outcome
  obtain ⟨_ | _, _⟩ := outcome <;> rfl

@[simp] theorem run_orFault_some (f : Fault) (a : α) (t : Tables) : (orFault f (some a)).run t = (.ok a, t) := rfl

@[simp] theorem run_orFault_none (f : Fault) (t : Tables) : (orFault f (none : Option α)).run t = (.error f, t) := rfl

/-! ## The statements of a script -/

def Calls (kind : statements.Call → Prop) (s : Script α) : Prop := Plan.Calls kind (ExceptT.run s)

section

variable {kind : statements.Call → Prop}

theorem calls_pure (a : α) : Calls kind (pure a) := trivial

theorem calls_throw (f : Fault) : Calls kind (throw f : Script α) := trivial

theorem calls_query {f : Tables → α} (is : kind ⟨α, fun _ => false, fun t => (f t, t)⟩) : Calls kind (query f) :=
  ⟨is, fun _ _ _ => trivial⟩

theorem Calls.bind {s : Script α} {f : α → Script β} (first : Calls kind s) (rest : ∀ a, Calls kind (f a)) :
    Calls kind (s >>= f) := by
  unfold Calls
  rw [ExceptT.run_bind]
  apply Plan.Calls.bind first
  intro result
  cases result with
  | ok a => exact rest a
  | error e => trivial

theorem calls_orFault (f : Fault) (o : Option α) : Calls kind (orFault f o) := by
  cases o <;> trivial

theorem calls_read {key : String} (is : kind ⟨Option Cell, fun _ => false, fun t => (t.values.get? key, t)⟩) :
    Calls kind (read key) := by
  apply Calls.bind (calls_query is)
  intro cell
  cases cell with
  | none => exact calls_pure _
  | some cell => exact Calls.bind (calls_orFault _ _) fun _ => Calls.bind (calls_orFault _ _) fun _ => calls_pure _

theorem calls_group {id : GroupId} (is : kind ⟨Option GroupRow, fun _ => false, fun t => (t.groups.get? id, t)⟩) :
    Calls kind (group id) := by
  apply Calls.bind (calls_query is)
  intro row
  cases row with
  | none => exact calls_pure _
  | some row =>
    apply Calls.bind (calls_orFault _ _)
    intro text
    apply Calls.bind (calls_orFault _ _)
    intro members
    apply Calls.bind (calls_orFault _ _)
    intro revision
    dsimp only
    split
    · exact calls_pure _
    · exact calls_throw _

end

/-! ## Noting changes -/

/-- A statement that says it does not write leaves the tables as they are, and one that does leaves all
values and groups as they are that its operation is not about. -/
structure Truthful (op : Operation) (statement : statements.Call) : Prop where
  silent : ∀ t, statement.writes t = false → (statement.run t).2 = t
  spares : ∀ t key, op.edited? ≠ some key → (statement.run t).2.values.get? key = t.values.get? key
  sparesGroups : ∀ t, op.putsGroup = false → (statement.run t).2.groups = t.groups

variable {op : Operation}

private theorem truthful_query (f : Tables → α) : Truthful op ⟨α, fun _ => false, fun t => (f t, t)⟩ :=
  ⟨fun _ _ => rfl, fun _ _ _ => rfl, fun _ _ => rfl⟩

private theorem calls_execute {f : Tables → α × Tables}
    (spares : ∀ t key, op.edited? ≠ some key → (f t).2.values.get? key = t.values.get? key)
    (sparesGroups : ∀ t, op.putsGroup = false → (f t).2.groups = t.groups) : Calls (Truthful op) (execute f) :=
  ⟨⟨fun _ silent => Bool.noConfusion silent, spares, sparesGroups⟩, fun _ _ _ => trivial⟩

private theorem noting_run {p : Plan statements (Except Fault α)} (truthful : Plan.Calls (Truthful op) p) (t : Tables)
    (noted : Bool) :
    let outcome := Plan.run (I := statements) (σ := Tables × Bool) (fun statement state =>
      ((statement.run state.1).1, ((statement.run state.1).2, state.2 || statement.writes state.1))) p (t, noted)
    (outcome.1, outcome.2.1) = Plan.run (I := statements) (fun statement => statement.run) p t ∧
      (outcome.2.2 = false → noted = false ∧ outcome.2.1 = t) := by
  unfold Plan.Calls at truthful
  induction p generalizing t noted with
  | done a => exact ⟨rfl, fun silent => ⟨silent, rfl⟩⟩
  | ask statement next ih =>
    obtain ⟨same, silent⟩ := ih (statement.run t).1 (truthful.2 _ () trivial) (statement.run t).2
      (noted || statement.writes t)
    refine ⟨same, ?_⟩
    intro quiet
    obtain ⟨before, unchanged⟩ := silent quiet
    rw [Bool.or_eq_false_iff] at before
    exact ⟨before.1, unchanged.trans (truthful.1.silent t before.2)⟩

theorem runNoting_eq {s : Script α} (truthful : Calls (Truthful op) s) (t : Tables) :
    ((s.runNoting t).1, (s.runNoting t).2.1) = s.run t ∧
      ((s.runNoting t).2.2 = false → (s.run t).2 = t) := by
  obtain ⟨same, silent⟩ := noting_run truthful t false
  exact ⟨same, fun quiet => (congrArg Prod.snd same).symm.trans (silent quiet).2⟩

theorem quiet_of_calls {s : Script α} (silent : Calls (fun statement => ∀ t, statement.writes t = false) s) (t : Tables) :
    (s.runNoting t).2.2 = false := by
  refine Plan.Calls.run_same (fun state : Tables × Bool => state.2) ?_ silent (t, false)
  intro statement state quiet
  show (state.2 || statement.writes state.1) = state.2
  rw [quiet, Bool.or_false]

theorem get?_run {s : Script α} (truthful : Calls (Truthful op) s) {key : String} (other : op.edited? ≠ some key)
    (t : Tables) :
    (s.run t).2.values.get? key = t.values.get? key :=
  Plan.Calls.run_same (fun t : Tables => t.values.get? key) (fun _ t truthful => truthful.spares t key other) truthful t

theorem groups_run {s : Script α} (truthful : Calls (Truthful op) s) (other : op.putsGroup = false) (t : Tables) :
    (s.run t).2.groups = t.groups :=
  Plan.Calls.run_same Tables.groups (fun _ t truthful => truthful.sparesGroups t other) truthful t

theorem calls_atomically {s : Script α} (truthful : Calls (Truthful op) s) : Calls (Truthful op) (atomically s) := by
  refine ⟨⟨?_, ?_, ?_⟩, fun _ _ _ => trivial⟩
  · intro t silent
    show ((atomically s).run t).2 = t
    rw [run_atomically]
    split
    · exact (runNoting_eq truthful t).2 silent
    · rfl
  · intro t key other
    show ((atomically s).run t).2.values.get? key = t.values.get? key
    rw [run_atomically]
    split
    · exact get?_run truthful other t
    · rfl
  · intro t other
    show ((atomically s).run t).2.groups = t.groups
    rw [run_atomically]
    split
    · exact groups_run truthful other t
    · rfl

private theorem calls_sessionOf (cell : Cell) : Calls (Truthful op) (sessionOf cell) :=
  Calls.bind (calls_orFault _ _) fun _ => calls_orFault _ _

private theorem calls_archiveRows (space : Namespace) (rows : List (String × Cell)) :
    Calls (Truthful op) (archiveRows space rows) := by
  induction rows with
  | nil => exact calls_pure _
  | cons row rest ih =>
    apply Calls.bind (calls_sessionOf _)
    intro session
    split
    · exact Calls.bind (calls_execute (fun _ _ _ => rfl) fun _ _ => rfl) fun _ => Calls.bind ih fun _ => calls_pure _
    · exact ih

private theorem calls_recipientWhere (test : RecipientRow → Bool) : Calls (Truthful op) (recipientWhere test) :=
  calls_query (truthful_query _)

private theorem calls_selfRecipient (aci : Aci) (pni : Pni) (number : PhoneNumber) :
    Calls (Truthful op) (selfRecipient aci pni number) := by
  refine calls_atomically (Calls.bind (calls_recipientWhere _) ?_)
  intro byAci
  have next (found : Option RecipientId) (test : RecipientRow → Bool) : Calls (Truthful op) (orRecipientWhere found test) := by
    cases found with
    | none => exact calls_recipientWhere _
    | some id => exact calls_pure _
  apply Calls.bind (next _ _)
  intro byPni
  apply Calls.bind (next _ _)
  intro byNumber
  cases byNumber <;> exact calls_execute (fun _ _ _ => rfl) fun _ _ => rfl

private theorem calls_updateRecipient (id : RecipientId) (f : RecipientRow → RecipientRow) :
    Calls (Truthful op) (updateRecipient id f) := by
  apply Calls.bind (calls_execute (fun _ _ _ => rfl) fun _ _ => rfl)
  intro found
  cases found
  · exact calls_throw _
  · exact calls_pure _

private theorem calls_uuidOf (name : String) (cell : Cell) : Calls (Truthful op) (uuidOf name cell) := by
  apply Calls.bind (calls_orFault _ _)
  intro text
  cases text with
  | none => exact calls_pure _
  | some text => exact Calls.bind (calls_orFault _ _) fun _ => calls_pure _

private theorem calls_numberOf (cell : Cell) : Calls (Truthful op) (numberOf cell) := by
  apply Calls.bind (calls_orFault _ _)
  intro text
  cases text with
  | none => exact calls_pure _
  | some text =>
    dsimp only
    split
    · exact calls_pure _
    · exact calls_throw _

private theorem calls_profileKeyOf (id : RecipientId) (cell : Cell) : Calls (Truthful op) (profileKeyOf id cell) := by
  apply Calls.bind (calls_orFault _ _)
  intro bytes
  cases bytes with
  | none => exact calls_pure _
  | some bytes => exact Calls.bind (calls_orFault _ _) fun _ => calls_pure _

private theorem calls_recipient (id : RecipientId) : Calls (Truthful op) (recipient id) := by
  apply Calls.bind (calls_query (truthful_query _))
  intro row
  cases row with
  | none => exact calls_pure _
  | some row =>
    apply Calls.bind (calls_numberOf _)
    intro number
    apply Calls.bind (calls_orFault _ _)
    intro stateName
    apply Calls.bind (calls_profileKeyOf _ _)
    intro profileKey
    apply Calls.bind (calls_uuidOf _ _)
    intro aci
    exact Calls.bind (calls_uuidOf _ _) fun pni => Calls.bind (calls_orFault _ _) fun state => calls_pure _

theorem truthful_ofOperation (op : Operation) : Calls (Truthful op) (ofOperation op) := by
  cases op with
  | read key => exact calls_read (truthful_query _)
  | signedPreKey space id =>
    apply Calls.bind (calls_query (truthful_query _))
    intro row
    cases row with
    | none => exact calls_pure _
    | some row => exact Calls.bind (calls_orFault _ _) fun _ => calls_pure _
  | lastResortPreKey space id =>
    apply Calls.bind (calls_query (truthful_query _))
    intro row
    cases row with
    | none => exact calls_pure _
    | some row => exact Calls.bind (calls_orFault _ _) fun _ => calls_pure _
  | session space address =>
    apply Calls.bind (calls_query (truthful_query _))
    intro cell
    cases cell with
    | none => exact calls_pure _
    | some cell => exact Calls.bind (calls_sessionOf _) fun _ => calls_pure _
  | pushSession space address state =>
    refine Calls.bind (Calls.bind (calls_query (truthful_query _)) fun cell => ?_) fun _ =>
      calls_execute (fun _ _ _ => rfl) fun _ _ => rfl
    cases cell with
    | none => exact calls_pure _
    | some cell => exact Calls.bind (calls_sessionOf _) fun _ => calls_pure _
  | archiveSessions space =>
    exact calls_atomically (Calls.bind (calls_query (truthful_query _)) fun rows => calls_archiveRows space rows)
  | selfRecipient aci pni number => exact calls_selfRecipient aci pni number
  | recipient id => exact calls_recipient id
  | markRegistered id => exact calls_updateRecipient _ _
  | setProfileSharing id enabled => exact calls_updateRecipient _ _
  | setProfileKey id key => exact calls_updateRecipient _ _
  | group id => exact calls_group (truthful_query _)
  | identityKeys _ | senderKeyCount => exact calls_query (truthful_query _)
  | write key value =>
    refine calls_execute (fun t other different => ?_) fun _ _ => rfl
    exact (Table.get?_put _ _ _ _).trans (if_neg fun same => different (congrArg some same))
  | erase key =>
    refine calls_execute (fun t other different => ?_) fun _ _ => rfl
    exact (Table.get?_erase _ _ _).trans (if_neg fun same => different (congrArg some same))
  | putGroup _ => exact calls_execute (fun _ _ _ => rfl) fun _ puts => Bool.noConfusion puts
  | putIdentityKeys _ _ | putSignedPreKey _ _ | putLastResortPreKey _ _ | putSenderKey _ _ _ | clearSenderKeys =>
    exact calls_execute (fun _ _ _ => rfl) fun _ _ => rfl

end Script
end Enrolment.Store
