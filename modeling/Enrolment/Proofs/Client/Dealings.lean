import Enrolment.Proofs.Client.Aftermath
/-!
What a client exchanges with the account service and with its source of keys, and what it writes down in the
meantime. An activity that deals with them is gone through call by call, on the side of success only.
-/
namespace Enrolment.Client

open Store Activity

namespace Journal

def isDealing : Effect → Bool
  | .keys _ | .service _ => true
  | _ => false

/-- What went to the source of keys and to the service, and what came back. -/
def dealings (j : Journal) : Journal := j.filter fun exchange => isDealing exchange.1

def isService : Effect → Bool
  | .service _ => true
  | _ => false

/-- What the service was asked, and what it answered. -/
def served (j : Journal) : Journal := j.filter fun exchange => isService exchange.1

def password? : Plan.Exchange effects → Option String
  | ⟨.keys .password, .ok password⟩ => some password
  | _ => none

def passwords (j : Journal) : List String := j.filterMap password?

def profileKey? : Plan.Exchange effects → Option ProfileKey
  | ⟨.keys .profileKey, .ok key⟩ => some key
  | _ => none

def profileKeys (j : Journal) : List ProfileKey := j.filterMap profileKey?

@[simp] theorem dealings_append (j k : Journal) : dealings (j ++ k) = j.dealings ++ k.dealings := List.filter_append ..

@[simp] theorem served_append (j k : Journal) : served (j ++ k) = j.served ++ k.served := List.filter_append ..

@[simp] theorem passwords_append (j k : Journal) : passwords (j ++ k) = j.passwords ++ k.passwords := List.filterMap_append

@[simp] theorem profileKeys_append (j k : Journal) : profileKeys (j ++ k) = j.profileKeys ++ k.profileKeys :=
  List.filterMap_append

theorem served_dealings (j : Journal) : j.dealings.served = j.served := by
  rw [served, dealings, List.filter_filter, served]
  congr 1
  funext exchange
  cases exchange.1 <;> rfl

private theorem filterMap_dealings {α : Type} (j : Journal) (pick : Plan.Exchange effects → Option α)
    (picks : ∀ exchange, isDealing exchange.1 = false → pick exchange = none) : j.dealings.filterMap pick = j.filterMap pick := by
  induction j with
  | nil => rfl
  | cons exchange j ih =>
    rw [dealings, List.filter_cons]
    by_cases is : isDealing exchange.1 = true
    · rw [if_pos is, List.filterMap_cons, List.filterMap_cons, ← ih, dealings]
    · rw [if_neg is, List.filterMap_cons, picks _ (by simpa using is), ← ih, dealings]

theorem passwords_dealings (j : Journal) : j.dealings.passwords = j.passwords := by
  refine filterMap_dealings j password? fun exchange other => ?_
  obtain ⟨call, answer⟩ := exchange
  cases call <;> first | rfl | cases other

theorem profileKeys_dealings (j : Journal) : j.dealings.profileKeys = j.profileKeys := by
  refine filterMap_dealings j profileKey? fun exchange other => ?_
  obtain ⟨call, answer⟩ := exchange
  cases call <;> first | rfl | cases other

/-- The service was asked nothing, and no password and no profile key was made. -/
structure Quiet (j : Journal) : Prop where
  served : j.served = []
  passwords : j.passwords = []
  profileKeys : j.profileKeys = []

theorem Quiet.append {j k : Journal} (first : j.Quiet) (second : k.Quiet) : Quiet (j ++ k) where
  served := by rw [served_append, first.served, second.served, List.append_nil]
  passwords := by rw [passwords_append, first.passwords, second.passwords, List.append_nil]
  profileKeys := by rw [profileKeys_append, first.profileKeys, second.profileKeys, List.append_nil]

end Journal

theorem isKept_of_mem_journal {κ σ ε α : Type} {c : Installation κ σ} {t : Thread} (honest : c.keyFactory.Honest)
    {a : Activity ε α} {request : KeyRequest} {x : request.Result} (asked : ⟨.keys request, .ok x⟩ ∈ c.journal t a) :
    request.IsKept x := by
  unfold Installation.journal at asked
  generalize a.run = p at asked
  induction p generalizing c with
  | done _ => cases asked
  | ask call next ih =>
    obtain here | later := List.mem_cons.1 asked
    · generalize answered : (Installation.handle t call c).1 = answer at here
      cases here
      exact honest request c.keys x answered
    · refine ih _ ?_ later
      cases call <;> exact honest

/-! ## Going through an activity -/

def ReadTruly (r : Readings) : (call : Effect) → call.Answer → Prop
  | .store (.read key), answer => answer = r key
  | _, _ => True

/-- What is read is what is there, whatever is written is there or nothing happens, and all dealings are noted. -/
def dealing : Plan.Contract effects (Readings × Journal) where
  allowed call _ := call.IsFaithful
  answered call s answer s' :=
    rereading.answered call s.1 answer s'.1 ∧ ReadTruly s.1 call answer ∧ s'.2 = s.2 ++ Journal.dealings [⟨call, answer⟩]

variable {κ σ ε ε' α β : Type} {c : Installation κ σ} {t : Thread}

private theorem honours_dealing :
    Plan.Honours (Plan.noting (Installation.handle (κ := κ) (σ := σ) t)) dealing
      fun s s' => s.1.readings t = s'.1 ∧ Journal.dealings s.2 = s'.2 := by
  rintro call ⟨c, j⟩ ⟨r, h⟩ ⟨rfl, rfl⟩ faithful
  obtain ⟨r', answered, same⟩ := honours_rereading call c _ rfl faithful
  refine ⟨(r', _), ⟨answered, ?_, rfl⟩, same, Journal.dealings_append _ _⟩
  cases call with
  | store op => cases op <;> first | rfl | trivial
  | _ => trivial

def Deals (a : Activity ε α) (good : α → Readings × Journal → Prop) (s : Readings × Journal) : Prop :=
  Ensures dealing a good (fun _ _ => True) s

theorem Deals.run {a : Activity ε α} {good : α → Readings × Journal → Prop} (deals : Deals a good (c.readings t, []))
    {x : α} (done : (c.run t a).1 = .ok x) : good x ((c.run t a).2.readings t, (c.journal t a).dealings) := by
  obtain ⟨⟨r, h⟩, held, same, noted⟩ := Plan.Meets.run honours_dealing deals (t := (c, [])) ⟨rfl, rfl⟩
  rw [Plan.run_noting] at held same noted
  rw [show (a.run.run (Installation.handle t) c).1 = _ from done] at held
  obtain rfl : (c.run t a).2.readings t = r := same
  obtain rfl : (c.journal t a).dealings = h := noted
  exact held

variable {good : α → Readings × Journal → Prop} {s : Readings × Journal}

theorem Deals.mono {a : Activity ε α} {good' : α → Readings × Journal → Prop} (deals : Deals a good s)
    (implies : ∀ x s', good x s' → good' x s') : Deals a good' s :=
  Ensures.mono deals implies fun _ _ => id

theorem deals_pure {x : α} (held : good x s) : Deals (ε := ε) (pure x) good s := held

theorem deals_bind {a : Activity ε α} {f : α → Activity ε β} {good : β → Readings × Journal → Prop} :
    Deals (a >>= f) good s ↔ Deals a (fun x s' => Deals (f x) good s') s :=
  ensures_bind

theorem deals_mapError {a : Activity ε α} {f : ε → ε'} : Deals (mapError f a) good s ↔ Deals a good s := ensures_mapError

theorem deals_during {a : Activity Fault α} {doing : Doing} : Deals (during doing a) good s ↔ Deals a good s :=
  ensures_mapError

theorem deals_get? {slot : Slot α} {good : Option α → Readings × Journal → Prop}
    (found : ∀ x, (s.1 slot.key).bind slot.interpret = .ok x → good x s) : Deals (get? slot) good s := by
  refine ensures_read trivial ?_
  rintro answer s' ⟨same, rfl, more⟩
  obtain rfl : s' = s := Prod.ext same (more.trans (List.append_nil _))
  cases read : (s'.1 slot.key).bind slot.interpret with
  | ok x => exact found x read
  | error e => trivial

theorem deals_getOr {slot : Slot α} {default : α} (found : ∀ x, slot.valueOr default (s.1 slot.key) = .ok x → good x s) :
    Deals (getOr slot default) good s := by
  refine ensures_readOr trivial ?_
  rintro answer s' ⟨same, rfl, more⟩
  obtain rfl : s' = s := Prod.ext same (more.trans (List.append_nil _))
  cases read : slot.valueOr default (s'.1 slot.key) with
  | ok x => exact found x read
  | error e => trivial

theorem deals_put {slot : Slot α} [slot.Lawful] {x : α} {good : Unit → Readings × Journal → Prop}
    (written : good () (s.1.set slot.key (some (slot.encode x)), s.2)) : Deals (put slot x) good s := by
  refine ensures_store (slot.isPlain_encode x) ?_
  rintro answer s' ⟨edited, -, more⟩
  obtain ⟨rfl, set⟩ | ⟨⟨e, rfl⟩, -⟩ := edited
  · obtain rfl : s' = (s.1.set slot.key (some (slot.encode x)), s.2) := Prod.ext set (more.trans (List.append_nil _))
    exact written
  · trivial

theorem deals_store {op : Operation} {good : op.Result → Readings × Journal → Prop} (quiet : op.edited? = none)
    (done : ∀ x, good x s) : Deals (store op) good s := by
  have faithful : op.IsFaithful := by cases op <;> trivial
  refine ensures_store faithful ?_
  rintro answer s' ⟨same, -, more⟩
  have kept : s'.1 = s.1 := by cases op <;> first | exact same | cases quiet
  obtain rfl : s' = s := Prod.ext kept (more.trans (List.append_nil _))
  cases answer with
  | ok x => exact done x
  | error e => trivial

theorem deals_updatePreKeys {space : Namespace} {edit : PreKeyLedger → PreKeyLedger}
    {good : PreKeyLedger → Readings × Journal → Prop}
    (edited : ∀ l, (Account.preKeys space).valueOr .initial (s.1 (Account.preKeys space).key) = .ok l →
      good (edit l) (s.1.set (Account.preKeys space).key (some ((Account.preKeys space).encode (edit l))), s.2)) :
    Deals (updatePreKeys space edit) good s := by
  refine deals_bind.2 (deals_getOr fun l read => ?_)
  exact deals_bind.2 (deals_put (deals_pure (edited l read)))

theorem deals_keys {request : KeyRequest} {good : request.Result → Readings × Journal → Prop}
    (made : ∀ x, good x (s.1, s.2 ++ [⟨.keys request, .ok x⟩])) : Deals (keys request) good s := by
  refine ensures_keys trivial ?_
  rintro answer s' ⟨same, -, more⟩
  obtain rfl : s' = (s.1, s.2 ++ [⟨.keys request, answer⟩]) := Prod.ext same more
  cases answer with
  | ok x => exact made x
  | error e => trivial

theorem deals_service {request : Service.Request} {good : request.Result → Readings × Journal → Prop}
    (answered : ∀ x, good x (s.1, s.2 ++ [⟨.service request, .ok x⟩])) : Deals (service request) good s := by
  refine ensures_service trivial ?_
  rintro answer s' ⟨same, -, more⟩
  obtain rfl : s' = (s.1, s.2 ++ [⟨.service request, answer⟩]) := Prod.ext same more
  cases answer with
  | ok x => exact answered x
  | error e => trivial

theorem deals_spares {a : Activity ε α} {key : String} (calls : Calls (SparesKey key) a) :
    Deals a (fun _ s' => s'.1 key = s.1 key) s := by
  have kept : Ensures dealing a (fun _ s' => s'.1 key = s.1 key) (fun _ s' => s'.1 key = s.1 key) s := by
    refine calls.ensures (fun call s' spares (kept : s'.1 key = s.1 key) => ⟨?_, ?_⟩) (rfl : s.1 key = s.1 key)
    · cases call with
      | store op => exact spares.1
      | _ => trivial
    · exact fun _ _ answered => (rereading_spares spares answered.1).trans kept
  exact kept.mono (fun _ _ => id) fun _ _ _ => trivial

/-- A value that was there already, or else one that the source of keys was asked for. -/
inductive Chosen (note : α → Plan.Exchange effects) : Option α → α → Journal → Prop
  | there (x : α) : Chosen note (some x) x []
  | made (x : α) : Chosen note none x [note x]

theorem Chosen.quiet {note : α → Plan.Exchange effects} {there : Option α} {x : α} {made : Journal}
    (chosen : Chosen note there x made) (quiet : ∀ x, Journal.Quiet [note x]) : made.Quiet := by
  cases chosen with
  | there => exact ⟨rfl, rfl, rfl⟩
  | made => exact quiet x

theorem deals_orNew (request : KeyRequest) {there : Option request.Result}
    {good : request.Result → Readings × Journal → Prop}
    (chosen : ∀ x made, Chosen (fun x => ⟨.keys request, .ok x⟩) there x made → good x (s.1, s.2 ++ made)) :
    Deals (orNew there (keys request)) good s := by
  cases there with
  | some x =>
    refine deals_pure ?_
    have held := chosen x [] (.there x)
    rwa [List.append_nil] at held
  | none => exact deals_keys fun x => chosen x _ (.made x)

end Enrolment.Client
