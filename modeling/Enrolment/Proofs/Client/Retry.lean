import Enrolment.Proofs.Client.Counters
import Enrolment.Proofs.Client.Likeness
/-!
Attempts that the service refuses, and one that it accepts in the end. What they leave is what the
last attempt would have left alone, except that the counters of prekeys have moved on once for every
upload before (`retry_converges`).
-/
namespace Enrolment.Client

open Store Activity Holdings

/-- Nothing but keys can have been stored when the attempt stopped; this is so whenever the service
refused it. -/
def RegistrationError.IsEarly (e : RegistrationError) : Prop :=
  ∀ step ∈ e.step?, step = .identityBinding ∨ step = .keyProvisioning

variable {κ σ : Type} {c : Installation κ σ} {t : Thread} {m : Memory}

/-! ## What attempts leave -/

theorem verification_turn (turn : Turn c t m) {a : Application} {c₁ : Installation κ σ}
    {result : Except RegistrationError (Prepared × Service.VerifyResponse)} (first : c.run t (verification a) = (result, c₁)) :
    Journal.replay m (c.journal t (verification a)) = m ∧ Turn c₁ t m ∧ c₁.queue = c.queue := by
  obtain ⟨idle, turn₁⟩ := turn.run (verification_idle a)
  have queue := queue_run (c := c) (t := t) (sparesQueue_verification a)
  replace idle : Journal.replay m (c.journal t (verification a)) = m := by
    cases result : (c.run t (verification a)).1 <;> rw [result] at idle <;> exact idle
  rw [first] at turn₁ queue
  rw [idle] at turn₁
  exact ⟨idle, turn₁, queue⟩

theorem rekeying_turn (turn : Turn c t m) {p : Prepared} {aci : Aci} {pni : Pni} {c₁ : Installation κ σ}
    {result : Except RegistrationError (List Provisioned)} (first : c.run t (rekeying p aci pni) = (result, c₁)) :
    Pending m (Journal.replay m (c.journal t (rekeying p aci pni))) ∧
      Turn c₁ t (Journal.replay m (c.journal t (rekeying p aci pni))) ∧ c₁.queue = c.queue ∧
      ∀ provisioned, result = .ok provisioned → Settled aci pni (Journal.replay m (c.journal t (rekeying p aci pni))) := by
  obtain ⟨pending, turn₁⟩ := turn.run (rekeying_pending p aci pni)
  obtain ⟨settled, -⟩ := turn.run (rekeying_settled p aci pni)
  have queue := queue_run (c := c) (t := t) (sparesQueue_rekeying p aci pni)
  replace pending := either_same pending
  rw [first] at turn₁ queue settled
  refine ⟨pending, turn₁, queue, ?_⟩
  rintro provisioned rfl
  exact settled

theorem early_pending (turn : Turn c t m) {a : Application} {e : RegistrationError}
    (failed : (c.run t (register a)).1 = .error e) (early : e.IsEarly) :
    Pending m (Journal.replay m (c.journal t (register a))) ∧ (c.run t (register a)).2.queue = c.queue := by
  have course := attempted c t a
  generalize c.run t (register a) = outcome, c.journal t (register a) = j at course failed ⊢
  cases course with
  | unverified first =>
    obtain ⟨idle, -, queue⟩ := verification_turn turn first
    rw [idle]
    exact ⟨Pending.refl m, queue⟩
  | unkeyed first second =>
    obtain ⟨idle, turn₁, queue⟩ := verification_turn turn first
    obtain ⟨pending, -, queue', -⟩ := rekeying_turn turn₁ second
    rw [Journal.replay_append, idle]
    exact ⟨pending, queue'.trans queue⟩
  | @keyed p verified provisioned c₁ c₂ c₃ result first second third =>
    obtain ⟨e', rfl⟩ : ∃ e, result = .error e := by
      cases result with
      | error e => exact ⟨e, rfl⟩
      | ok x => cases failed
    obtain rfl := Except.error.inj failed
    rcases step?_of_conclusion (congrArg Prod.fst third) with is | is | is <;>
      rcases early _ is with step | step <;> cases step

/-! ## Uploads of one attempt -/

structure Delivered (h : Holdings) (space : Namespace) : Prop where
  once : (h.uploads space).length = 1
  published : ∃ ledger, h.ledger? space = .ok ledger ∧ ledger.signedRegistered = true

variable {h h' : Holdings}

private theorem Delivered.around {space other : Namespace} (delivered : Delivered h other) (around : Around space h h')
    (different : other ≠ space) : Delivered h' other := by
  obtain ⟨once, ledger, found, marked⟩ := delivered
  refine ⟨by rwa [around.uploads other different], ledger, ?_, marked⟩
  rwa [around.ledger? different]

private theorem provisionAll_delivered (credentials : Service.Credentials) {spaces : List Namespace}
    (distinct : spaces.Nodup) (unsent : ∀ space ∈ spaces, h.uploads space = [])
    (done : ∀ space, space ∉ spaces → Delivered h space) :
    Ensures (contract fun _ => True) (provisionAll credentials spaces) (fun _ h => ∀ space, Delivered h space)
      (fun _ h => ∀ space, (h.uploads space).length ≤ 1) h := by
  induction spaces generalizing h with
  | nil => exact ensures_pure fun space => done space (by simp)
  | cons space spaces ih =>
    obtain ⟨fresh, distinct⟩ := List.nodup_cons.1 distinct
    have nothing := unsent space List.mem_cons_self
    -- No other namespace was sent anything for meanwhile.
    have elsewhere {h' : Holdings} (around : Around space h h') {other : Namespace} (different : other ≠ space) :
        (h'.uploads other).length ≤ 1 := by
      rw [around.uploads other different]
      by_cases later : other ∈ spaces
      · rw [unsent other (List.mem_cons_of_mem _ later)]
        exact Nat.zero_le 1
      · exact (done other (by simp [different, later])).once.le
    refine ensures_bind.2 ((provisionKeys_ensures space credentials fun _ _ => trivial).mono ?_ ?_)
    · rintro _ h' ⟨key, spare, -, sent⟩
      refine Ensures.bind (ih distinct ?_ ?_) fun _ h delivered => ensures_pure delivered
      · intro other later
        have different : other ≠ space := fun same => fresh (same ▸ later)
        rw [sent.toAround.uploads other different, unsent other (List.mem_cons_of_mem _ later)]
      · intro other outside
        by_cases same : other = space
        · subst same
          obtain ⟨_, _, _, _, counted⟩ := sent.counted
          obtain ⟨_, _, uploaded⟩ := sent.sent
          exact ⟨by rw [uploaded, nothing]; rfl, _, counted, rfl⟩
        · exact (done other (by simp [same, outside])).around sent.toAround same
    · rintro _ h' (unsent | ⟨key, spare, sent⟩) other
      · by_cases same : other = space
        · subst same
          rw [unsent.unsent, nothing]
          exact Nat.zero_le 1
        · exact elsewhere unsent.toAround same
      · by_cases same : other = space
        · subst same
          obtain ⟨_, _, uploaded⟩ := sent.sent
          rw [uploaded, nothing]
          exact Nat.le_refl 1
        · exact elsewhere sent.toAround same

private theorem Delivered.write {space : Namespace} (delivered : Delivered h space) {key : String} (apart : key ∉ ledgerKeys)
    (value : Option Json) : Delivered (h.write key value) space := by
  obtain ⟨once, ledger, found, marked⟩ := delivered
  exact ⟨once, ledger, (ledger?_write apart value h space).trans found, marked⟩

private def Silent (h : Holdings) : Prop := ∀ space, h.uploads space = []

/-- An attempt sends prekeys at most once for each namespace, and once if it succeeds. -/
theorem register_delivered (a : Application) (silent : ∀ space, h.uploads space = []) :
    Ensures (contract fun _ => True) (register a) (fun _ h => ∀ space, Delivered h space)
      (fun _ h => ∀ space, (h.uploads space).length ≤ 1) h := by
  have few {h : Holdings} (silent : Silent h) (space : Namespace) : (h.uploads space).length ≤ 1 := by
    rw [silent space]
    exact Nat.zero_le 1
  have verified : Ensures (contract fun _ => True) (verification a) (fun _ => Silent) (fun _ => Silent) h :=
    (reach_verification a).ensures (Within.keeps (by simp) asksProof_harmless) silent
  rw [register_eq]
  apply Ensures.bind (verified.mono (fun _ _ => id) fun _ _ => few)
  rintro ⟨p, verified⟩ h silent
  have bound : Ensures (contract fun _ => True) (bindIdentity verified.aci verified.pni) (fun _ => Silent)
      (fun _ => Silent) h :=
    (reach_bindIdentity _ _).ensures (Within.keeps (fun _ _ _ _ => id) dropsSessions_harmless) silent
  have rekeyed : Ensures (contract fun _ => True) (rekeying p verified.aci verified.pni)
      (fun _ h => ∀ space, Delivered h space) (fun _ h => ∀ space, (h.uploads space).length ≤ 1) h := by
    apply Ensures.bind (ensures_mapError.2 (bound.mono (fun _ _ => id) fun _ _ => few))
    intro _ h silent
    apply ensures_mapError.2
    apply provisionAll_delivered
    · decide
    · intro space _
      exact silent space
    · intro space outside
      exact absurd (by cases space <;> decide) outside
  apply Ensures.bind rekeyed
  intro provisioned h delivered
  have apart : ∀ key ∈ concludedKeys, key ∉ ledgerKeys := by decide
  have concluded : Ensures (contract fun _ => True) (conclusion a p verified.aci verified.pni)
      (fun _ h => ∀ space, Delivered h space) (fun _ h => ∀ space, Delivered h space) h :=
    (reach_conclusion _ _ _ _).ensures (Within.keeps
      (fun key member value h delivered space => (delivered space).write (apart key member) value) concludes_harmless)
      delivered
  exact ensures_map.2 (concluded.mono (fun _ _ => id) fun _ h delivered space => (delivered space).once.le)

/-! ## Several attempts -/

namespace Journal

def reached (space : Namespace) (j : Journal) : Bool := !(j.uploads space).isEmpty

def sent (ids : Upload → PreKeyId) (space : Namespace) (js : List Journal) : List PreKeyId :=
  (js.flatMap (uploads · space)).map ids

private theorem sent_append (ids : Upload → PreKeyId) (space : Namespace) (js : List Journal) (j : Journal) :
    sent ids space (js ++ [j]) = sent ids space js ++ (j.uploads space).map ids := by
  rw [sent, List.flatMap_append, List.map_append, List.flatMap_singleton, sent]

def firstDrawn (space : Namespace) (js : List Journal) : List PreKeyId :=
  ((js.find? (reached space)).map drawn).getD []

private theorem find?_reached {ids : Upload → PreKeyId} {space : Namespace} {js : List Journal} :
    js.find? (reached space) = none ↔ sent ids space js = [] := by
  rw [sent, List.map_eq_nil_iff, List.find?_eq_none, List.flatMap_eq_nil_iff]
  simp [reached]

private theorem firstDrawn_append {space : Namespace} {js : List Journal} {j : Journal} {ids : Upload → PreKeyId}
    (some_ : sent ids space js ++ (j.uploads space).map ids ≠ []) :
    (if sent ids space js = [] then j.drawn else firstDrawn space js) ⊆ firstDrawn space (js ++ [j]) := by
  split
  · rename_i nothing
    have here : j.uploads space ≠ [] := by
      intro empty
      simp [nothing, empty] at some_
    have reaches : reached space j = true := by simp [reached, here]
    rw [firstDrawn, List.find?_append, find?_reached.2 nothing]
    simp [reaches]
  · rename_i something
    obtain ⟨first, found⟩ := Option.ne_none_iff_exists'.1 (mt find?_reached.1 something)
    rw [firstDrawn, firstDrawn, List.find?_append, found]
    exact List.Subset.refl _

end Journal

structure Since (m : Memory) (js : List Journal) (m' : Memory) : Prop where
  kept : ∀ space keys, m.identities.get? space = some keys → m'.identities.get? space = some keys
  once : ∀ space, (js.flatMap (Journal.uploads · space)).length = js.countP (Journal.reached space)
  counted : ∀ space ledger, (of m []).ledger? space = .ok ledger → ∃ ledger', (of m' []).ledger? space = .ok ledger' ∧
    Follows (signedCounter ledger) (Journal.firstDrawn space js) (Journal.sent Upload.signedId space js)
      (signedCounter ledger') ∧
    Follows (lastResortCounter ledger) (Journal.firstDrawn space js) (Journal.sent Upload.lastResortId space js)
      (lastResortCounter ledger')

theorem Since.refl (m : Memory) : Since m [] m :=
  ⟨fun _ _ => id, fun _ => rfl, fun _ ledger found => ⟨ledger, found, .refl _ _, .refl _ _⟩⟩

theorem Since.next {m' m'' : Memory} {js : List Journal} {j : Journal} (since : Since m js m')
    (onward : Onward (of m' []) (of m'' j)) (few : ∀ space, (j.uploads space).length ≤ 1) : Since m (js ++ [j]) m'' where
  kept space keys found := onward.kept space keys (since.kept space keys found)
  once space := by
    rw [List.flatMap_append, List.length_append, since.once, List.countP_append, List.countP_singleton,
      List.flatMap_singleton, Nat.add_left_cancel_iff, Journal.reached]
    have atMost := few space
    cases uploads : j.uploads space with
    | nil => rfl
    | cons upload rest =>
      rw [uploads, List.length_cons] at atMost
      rw [List.length_cons, Nat.le_zero.1 (Nat.le_of_succ_le_succ atMost)]
      rfl
  counted space ledger found := by
    obtain ⟨ledger', found', signed, lastResort⟩ := since.counted space ledger found
    obtain ⟨ledger'', found'', signed', lastResort'⟩ := (onward.counted space).moved ledger' found'
    refine ⟨ledger'', found'', ?_⟩
    rw [Journal.sent_append, Journal.sent_append]
    exact ⟨(signed.trans signed').subset Journal.firstDrawn_append,
      (lastResort.trans lastResort').subset Journal.firstDrawn_append⟩

private theorem register_turn (turn : Turn c t m) (a : Application) :
    Onward (of m []) (of (Journal.replay m (c.journal t (register a))) (c.journal t (register a))) ∧
      Turn (c.run t (register a)).2 t (Journal.replay m (c.journal t (register a))) := by
  obtain ⟨onward, done⟩ := holds_of_ensures turn [] (register_onward a (Onward.refl m))
  rw [List.nil_append] at onward
  exact ⟨either_same onward, done⟩

theorem register_since {m' : Memory} {js : List Journal} (turn : Turn c t m') (since : Since m js m') (a : Application) :
    Since m (js ++ [c.journal t (register a)]) (Journal.replay m' (c.journal t (register a))) := by
  obtain ⟨onward, -⟩ := register_turn turn a
  obtain ⟨delivered, -⟩ := holds_of_ensures turn [] (register_delivered a fun _ => rfl)
  rw [List.nil_append] at delivered
  apply since.next onward
  cases result : (c.run t (register a)).1 with
  | ok enrolled =>
    rw [result] at delivered
    intro space
    exact (delivered space).once.le
  | error e =>
    rw [result] at delivered
    exact delivered

/-- Attempts that stopped early, one after another, and what was asked in each of them. -/
inductive Refusals (c : Installation κ σ) : Installation κ σ → List Journal → Prop
  | start : Refusals c c []
  | again {c' : Installation κ σ} {js : List Journal} (t : Thread) (a : Application) {e : RegistrationError} :
    Refusals c c' js → c'.store.Admits t → (c'.run t (register a)).1 = .error e → e.IsEarly →
    Refusals c (c'.run t (register a)).2 (js ++ [c'.journal t (register a)])

private theorem since_refusals {c' : Installation κ σ} {js : List Journal} (serves : c.store.Serves m)
    (honest : c.keyFactory.Honest) (refusals : Refusals c c' js) :
    ∃ m', c'.keyFactory.Honest ∧ c'.store.Serves m' ∧ c'.queue = c.queue ∧ Pending m m' ∧ Since m js m' := by
  induction refusals with
  | start => exact ⟨m, honest, serves, rfl, Pending.refl m, Since.refl m⟩
  | again t a _ admits failed early ih =>
    obtain ⟨m', honest', serves', queue, pending, since⟩ := ih
    have turn : Turn _ t m' := ⟨honest', serves', admits⟩
    obtain ⟨pending', queue'⟩ := early_pending turn failed early
    obtain ⟨-, turn'⟩ := register_turn turn a
    exact ⟨_, turn'.honest, turn'.serves, queue'.trans queue, pending.trans pending', register_since turn since a⟩

/-! ## Where the counters end -/

def Counter.advance (steps : Nat) (counter : Counter) : Counter :=
  ⟨counter.next.map PreKeyId.next^[steps], counter.active.map PreKeyId.next^[steps]⟩

/-- Where a counter ends with the attempts that were refused, told from where it ends without them: one
step further for each upload that came to nothing. Where it had not begun, it has gone as far from the
id that was sent first, which was drawn. -/
def Ahead (start : Counter) (drawn sent : List PreKeyId) (refused : Nat) (direct retried : Counter) : Prop :=
  match start.next with
  | some _ => retried = direct.advance refused
  | none => ∃ first ∈ drawn, sent.head? = some first ∧
    retried = Counter.advance refused ⟨some first.next, some first⟩

section

variable {start direct retried counter : Counter} {drawn drawn' sent sent' : List PreKeyId} {refused : Nat}

private theorem Follows.last (follows : Follows start drawn sent counter) (length : sent.length = refused + 1) :
    ∃ first, Due start.next drawn first ∧ sent.head? = some first ∧
      counter = Counter.advance refused ⟨some first.next, some first⟩ := by
  obtain ⟨rfl, -⟩ | ⟨-, first, due, is, rfl⟩ := follows
  · cases length
  · rw [length] at is ⊢
    refine ⟨first, due, ?_, ?_⟩
    · rw [is]
      rfl
    · rw [is, List.iterate_add]
      simp [Counter.advance]

private theorem Follows.ahead (follows : Follows start drawn sent retried) (length : sent.length = refused + 1)
    (alone : Follows start drawn' sent' direct) (once : sent'.length = 1) :
    Ahead start drawn sent refused direct retried := by
  obtain ⟨first, due, head, rfl⟩ := follows.last length
  obtain ⟨first', due', -, rfl⟩ := alone.last once
  unfold Ahead
  cases stands : start.next with
  | some id =>
    rw [stands] at due due'
    obtain same | ⟨absent, -⟩ := due
    · obtain same' | ⟨absent, -⟩ := due'
      · obtain rfl := Option.some.inj (same.symm.trans same')
        rfl
      · cases absent
    · cases absent
  | none =>
    rw [stands] at due
    obtain absent | ⟨-, member⟩ := due
    · cases absent
    · exact ⟨first, member, head, rfl⟩

end

/-- Where the counters of a namespace end after attempts of which some were refused. -/
structure Overtaken (space : Namespace) (js : List Journal) (refused : Nat) (before direct retried : PreKeyLedger) :
    Prop where
  signedRegistered : retried.signedRegistered = direct.signedRegistered
  signed : Ahead (signedCounter before) (Journal.firstDrawn space js) (Journal.sent Upload.signedId space js) refused
    (signedCounter direct) (signedCounter retried)
  lastResort : Ahead (lastResortCounter before) (Journal.firstDrawn space js) (Journal.sent Upload.lastResortId space js)
    refused (lastResortCounter direct) (lastResortCounter retried)

/-! ## The attempt that succeeds -/

private theorem succeeded_settled (turn : Turn c t m) {a : Application} {enrolled : Enrolled}
    (succeeded : (c.run t (register a)).1 = .ok enrolled) :
    ∃ (p : Prepared) (c₂ : Installation κ σ) (m₂ : Memory), (c.run t (prepare a)).1 = .ok p ∧ Turn c₂ t m₂ ∧
      Pending m m₂ ∧ Settled enrolled.aci enrolled.pni m₂ ∧ c₂.queue = c.queue ∧
      (c.run t (register a)).2.queue = (c₂.run t (conclusion a p enrolled.aci enrolled.pni)).2.queue ∧
      Journal.replay m (c.journal t (register a)) =
        Journal.replay m₂ (c₂.journal t (conclusion a p enrolled.aci enrolled.pni)) := by
  have course := attempted c t a
  generalize c.run t (register a) = outcome, c.journal t (register a) = j at course succeeded ⊢
  cases course with
  | unverified first => cases succeeded
  | unkeyed first second => cases succeeded
  | @keyed p verified provisioned c₁ c₂ c₃ result first second third =>
    obtain ⟨idle, turn₁, queue⟩ := verification_turn turn first
    obtain ⟨pending, turn₂, queue', settled⟩ := rekeying_turn turn₁ second
    obtain ⟨linked, rfl⟩ : ∃ linked, result = .ok linked := by
      cases result with
      | error e => cases succeeded
      | ok linked => exact ⟨linked, rfl⟩
    obtain rfl := Except.ok.inj succeeded
    refine ⟨p, c₂, _, prepare_of_verification (congrArg Prod.fst first), turn₂, pending, settled provisioned rfl,
      queue'.trans queue, ?_, ?_⟩
    · rw [third]
    · rw [Journal.replay_append, idle, Journal.replay_append]

private theorem succeeded_delivered (turn : Turn c t m) {a : Application} {enrolled : Enrolled}
    (succeeded : (c.run t (register a)).1 = .ok enrolled) (space : Namespace) :
    Delivered (of (Journal.replay m (c.journal t (register a))) (c.journal t (register a))) space := by
  obtain ⟨delivered, -⟩ := holds_of_ensures turn [] (register_delivered a fun _ => rfl)
  rw [List.nil_append, succeeded] at delivered
  exact delivered space

variable {κ' σ' : Type}

private theorem ledgers_ahead {m' : Memory} {d : Installation κ' σ'} {u : Thread} {js : List Journal} {a : Application}
    {enrolled alone : Enrolled} (turn : Turn c t m') (since : Since m js m')
    (succeeded : (c.run t (register a)).1 = .ok enrolled) (turn' : Turn d u m)
    (direct : (d.run u (register a)).1 = .ok alone) (space : Namespace) :
    ∃ before direct retried, (d.run u (preKeys space)).1 = .ok before ∧
      ((d.run u (register a)).2.run u (preKeys space)).1 = .ok direct ∧
      ((c.run t (register a)).2.run t (preKeys space)).1 = .ok retried ∧
      Overtaken space (js ++ [c.journal t (register a)]) (js.countP (Journal.reached space)) before direct retried := by
  obtain ⟨-, done⟩ := register_turn turn a
  obtain ⟨onward, done'⟩ := register_turn turn' a
  have delivered := succeeded_delivered turn succeeded space
  have delivered' := succeeded_delivered turn' direct space
  obtain ⟨ledger, found, marked⟩ := delivered.published
  obtain ⟨ledger', found', marked'⟩ := delivered'.published
  cases start : (of m []).ledger? space with
  | error e => cases found'.symm.trans ((onward.counted space).stuck e start)
  | ok before =>
    obtain ⟨_, moved, signed, lastResort⟩ := (register_since turn since a).counted space before start
    obtain ⟨_, moved', signed', lastResort'⟩ := (onward.counted space).moved before start
    obtain rfl := Except.ok.inj (found.symm.trans moved)
    obtain rfl := Except.ok.inj (found'.symm.trans moved')
    have shown : Shown d [] (of m []) := ⟨turn'.honest, m, turn'.serves, rfl⟩
    have shown' : Shown (d.run u (register a)).2 [] (of _ []) := ⟨done'.honest, _, done'.serves, rfl⟩
    have shown'' : Shown (c.run t (register a)).2 [] (of _ []) := ⟨done.honest, _, done.serves, rfl⟩
    have sent (ids : Upload → PreKeyId) :
        (Journal.sent ids space (js ++ [c.journal t (register a)])).length = js.countP (Journal.reached space) + 1 := by
      rw [Journal.sent, List.length_map, List.flatMap_append, List.length_append, since.once, List.flatMap_singleton]
      exact congrArg _ delivered.once
    have once (ids : Upload → PreKeyId) : (((d.journal u (register a)).uploads space).map ids).length = 1 := by
      rw [List.length_map]
      exact delivered'.once
    refine ⟨before, ledger', ledger, ?_, ?_, ?_, ?_⟩
    · exact (shown.preKeys turn'.admits space).trans start
    · exact (shown'.preKeys done'.admits space).trans found'
    · exact (shown''.preKeys done.admits space).trans found
    · exact {
        signedRegistered := marked.trans marked'.symm
        signed := signed.ahead (sent _) signed' (once _)
        lastResort := lastResort.ahead (sent _) lastResort' (once _) }

/-- After attempts that were refused, an attempt that succeeds leaves what it would have left without them, except for
keys, and counters that are further on. Of both sources of keys it is assumed that a prekey carries the id that it was
asked for (`KeyFactory.Honest`): the uploads by which the counters are told have the ids of the prekeys that were made. -/
theorem retry_converges {c' : Installation κ σ} {d : Installation κ' σ'} {u : Thread} {js : List Journal}
    {a : Application} {enrolled alone : Enrolled} (serves : c.store.Serves m) (honest : c.keyFactory.Honest)
    (refusals : Refusals c c' js) (admits : c'.store.Admits t) (succeeded : (c'.run t (register a)).1 = .ok enrolled)
    (serves' : d.store.Serves m) (honest' : d.keyFactory.Honest) (queue : d.queue = c.queue) (admits' : d.store.Admits u)
    (direct : (d.run u (register a)).1 = .ok alone) (aci : alone.aci = enrolled.aci) (pni : alone.pni = enrolled.pni)
    (prepared : (d.run u (prepare a)).1 = (c'.run t (prepare a)).1) :
    ∃ m₁ m₂, (c'.run t (register a)).2.store.Serves m₁ ∧ (d.run u (register a)).2.store.Serves m₂ ∧ Alike m₁ m₂ ∧
      (c'.run t (register a)).2.queue = (d.run u (register a)).2.queue ∧
      ∀ space,
        (∀ keys, m.identities.get? space = some keys →
          m₁.identities.get? space = some keys ∧ m₂.identities.get? space = some keys) ∧
        ∃ before direct retried, (d.run u (preKeys space)).1 = .ok before ∧
          ((d.run u (register a)).2.run u (preKeys space)).1 = .ok direct ∧
          ((c'.run t (register a)).2.run t (preKeys space)).1 = .ok retried ∧
          Overtaken space (js ++ [c'.journal t (register a)]) (js.countP (Journal.reached space)) before direct
            retried := by
  obtain ⟨m', honest₁, serves₁, queue₁, pending, since⟩ := since_refusals serves honest refusals
  have turn : Turn c' t m' := ⟨honest₁, serves₁, admits⟩
  have turn' : Turn d u m := ⟨honest', serves', admits'⟩
  obtain ⟨p, c₂, k, ready, turn₂, kept, settled, queue₂, ends, replayed⟩ := succeeded_settled turn succeeded
  obtain ⟨p', d₂, n, ready', turn₂', kept', settled', queue₂', ends', replayed'⟩ := succeeded_settled turn' direct
  obtain rfl : p' = p := Except.ok.inj (ready'.symm.trans (prepared.trans ready))
  rw [aci, pni] at settled' ends' replayed'
  -- Both attempts come to their conclusion with contents that differ in nothing that it depends on.
  have alike := settled_alike ((kept.symm.trans pending.symm).trans kept') settled settled'
  obtain ⟨-, sameQueue, alike⟩ := conclusion_alike turn₂ turn₂' alike
    (queue₂.trans (queue₁.trans (queue.symm.trans queue₂'.symm))) a p' enrolled.aci enrolled.pni
  obtain ⟨-, done⟩ := register_turn turn a
  obtain ⟨onward, done'⟩ := register_turn turn' a
  refine ⟨_, _, done.serves, done'.serves, ?_, ends.trans (sameQueue.trans ends'.symm), ?_⟩
  · rwa [replayed, replayed']
  · intro space
    refine ⟨?_, ledgers_ahead turn since succeeded turn' direct space⟩
    intro keys found
    exact ⟨(register_since turn since a).kept space keys found, onward.kept space keys found⟩

open Rehearsal in
private def refusing : Installation KeyScript ServiceScript :=
  .rehearsed Installation.rehearsedKeys ⟨[], [.rejected 503 "later"], []⟩

open Rehearsal in
/-- A client whose uploads are taken, and which makes up what the other one does in its second attempt. -/
private def accepting : Installation KeyScript ServiceScript :=
  .rehearsed { Installation.rehearsedKeys with registrationIds := [⟨13⟩, ⟨14⟩] } .empty

/-- An upload that is refused costs two ids, and nothing else is left of the attempt. -/
theorem retry_converges_after_refusal :
    let retried := ((refusing.run ⟨0, none⟩ (register .rehearsed)).2.run ⟨0, none⟩ (register .rehearsed)).2
    let alone := (accepting.run ⟨0, none⟩ (register .rehearsed)).2
    ∃ m₁ m₂, retried.store.Serves m₁ ∧ alone.store.Serves m₂ ∧ Alike m₁ m₂ ∧ retried.queue = alone.queue := by
  have refused : (refusing.run ⟨0, none⟩ (register .rehearsed)).1 = .error (.stopped .keyProvisioning
      ⟨[.uploading .aci], .network (.rejected "/v2/keys" 503 ⟨.ofStatus 503, "later"⟩)⟩) := by decide +kernel
  have early : RegistrationError.IsEarly (.stopped .keyProvisioning
      ⟨[.uploading .aci], .network (.rejected "/v2/keys" 503 ⟨.ofStatus 503, "later"⟩)⟩) := by
    rintro step ⟨⟩
    exact Or.inr rfl
  have admits : refusing.store.Admits ⟨0, none⟩ := trivial
  have succeeded : ((refusing.run ⟨0, none⟩ (register .rehearsed)).2.run ⟨0, none⟩ (register .rehearsed)).1 =
      .ok ⟨⟨⟨0x000000000000400080000000000000a1⟩⟩, ⟨⟨0x000000000000400080000000000000b1⟩⟩, ⟨1⟩,
        [⟨.aci, ⟨1⟩, ⟨2⟩⟩, ⟨.pni, ⟨100⟩, ⟨200⟩⟩], false, false⟩ := by decide +kernel
  have direct : (accepting.run ⟨0, none⟩ (register .rehearsed)).1 =
      .ok ⟨⟨⟨0x000000000000400080000000000000a1⟩⟩, ⟨⟨0x000000000000400080000000000000b1⟩⟩, ⟨1⟩,
        [⟨.aci, ⟨16777215⟩, ⟨1⟩⟩, ⟨.pni, ⟨100⟩, ⟨200⟩⟩], false, false⟩ := by decide +kernel
  have prepared : (accepting.run ⟨0, none⟩ (prepare .rehearsed)).1 =
      ((refusing.run ⟨0, none⟩ (register .rehearsed)).2.run ⟨0, none⟩ (prepare .rehearsed)).1 := by decide +kernel
  obtain ⟨m₁, m₂, serves₁, serves₂, alike, queue, -⟩ := retry_converges
    (show refusing.store.Serves .empty from rfl) Rehearsal.KeyScript.factory_honest
    (Refusals.start.again _ _ admits refused early) (admits_run admits _) succeeded (show accepting.store.Serves .empty from rfl)
    Rehearsal.KeyScript.factory_honest rfl trivial direct rfl rfl prepared
  exact ⟨m₁, m₂, serves₁, serves₂, alike, queue⟩

end Enrolment.Client
