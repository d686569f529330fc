import Enrolment.Proofs.Store.Agreement
/-!
Searches for the account's own recipient, one after another, in a store that is empty at first. A
search binds the recipient that it finds to new identifiers, and leaves other recipients bound to the
same ones. So several may come to carry an identifier, and a store in memory, whose rows have no order,
may find another one of them than a database. Main result: it does so as soon as it can
(`finds_alike_iff`).
-/
namespace Enrolment.Store

/-- What the account's own recipient is searched by. -/
structure Identifiers where
  aci : Aci
  pni : Pni
  number : PhoneNumber

def Identifiers.CarriedBy (who : Identifiers) (r : Recipient) : Prop :=
  r.aci = some who.aci ∨ r.pni = some who.pni ∨ r.number = some who.number

def Identifiers.search (who : Identifiers) : Operation := .selfRecipient who.aci who.pni who.number

namespace Memory

def find (m : Memory) (who : Identifiers) : RecipientId × Memory := m.selfRecipient who.aci who.pni who.number

/-- What searches find in memory, and what they leave there. At any time the recipients may also come
to lie in another order. -/
inductive Finds : List Identifiers → List RecipientId → Memory → Prop
  | nothing : Finds [] [] .empty
  | reorders {searches : List Identifiers} {found : List RecipientId} {m : Memory} (finds : Finds searches found m)
    {rows : Table RecipientId Recipient} (same : m.recipients.Perm rows) : Finds searches found { m with recipients := rows }
  | searches {searches : List Identifiers} {found : List RecipientId} {m : Memory} (finds : Finds searches found m)
    (who : Identifiers) : Finds (searches ++ [who]) (found ++ [(m.find who).1]) (m.find who).2

end Memory

namespace Database

def find (d : Database) (t : Thread) (who : Identifiers) : Except Fault RecipientId × Database := d.perform t who.search

/-- What searches find in a database, and what they leave there. -/
def finds (d : Database) (t : Thread) (searches : List Identifiers) : List (Except Fault RecipientId) × Database :=
  searches.foldl (fun state who => (state.1 ++ [(state.2.find t who).1], (state.2.find t who).2)) ([], d)

theorem finds_concat (d : Database) (t : Thread) (searches : List Identifiers) (who : Identifiers) :
    d.finds t (searches ++ [who]) =
      ((d.finds t searches).1 ++ [((d.finds t searches).2.find t who).1], ((d.finds t searches).2.find t who).2) := by
  rw [finds, List.foldl_append]
  rfl

end Database

namespace Memory

variable {m : Memory} {searches : List Identifiers} {found : List RecipientId} {who : Identifiers}

/-! ## Who carries an account identifier -/

theorem carriedBy_of_findSelf? {rows : Table RecipientId Recipient} {id : RecipientId}
    (found : findSelf? rows who.aci who.pni who.number = some id) : ∃ r, (id, r) ∈ rows ∧ who.CarriedBy r := by
  have first {test : RecipientId × Recipient → Bool} (found : (rows.find? test).map (·.1) = some id) :
      ∃ r, (id, r) ∈ rows ∧ test (id, r) = true := by
    obtain ⟨row, there, rfl⟩ := Option.map_eq_some_iff.1 found
    exact ⟨row.2, List.mem_of_find?_eq_some there, List.find?_some there⟩
  unfold findSelf? at found
  dsimp only at found
  obtain byAci | ⟨-, found⟩ := Option.or_eq_some_iff.1 found
  · obtain ⟨r, there, carries⟩ := first byAci
    exact ⟨r, there, .inl (by simpa using carries)⟩
  · obtain byPni | ⟨-, byNumber⟩ := Option.or_eq_some_iff.1 found
    · obtain ⟨r, there, carries⟩ := first byPni
      exact ⟨r, there, .inr (.inl (by simpa using carries))⟩
    · obtain ⟨r, there, carries⟩ := first byNumber
      exact ⟨r, there, .inr (.inr (by simpa using carries))⟩

theorem recipients_find (m : Memory) (who : Identifiers) : ∃ r,
    (m.find who).2.recipients = m.recipients.put (m.find who).1 (bindSelf r who.aci who.pni who.number) := by
  unfold find selfRecipient
  cases found : findSelf? m.recipients who.aci who.pni who.number with
  | none => exact ⟨_, rfl⟩
  | some id =>
    obtain ⟨r, there, -⟩ := carriedBy_of_findSelf? found
    cases row : m.recipients.get? id with
    | none =>
      have absent := List.find?_eq_none.1 (Option.map_eq_none_iff.1 row) (id, r) there
      simp at absent
    | some r => exact ⟨r, by simp [Table.modify, row]⟩

/-- No two recipients have one number, and no two carry one account identifier. -/
structure Sole (m : Memory) : Prop where
  distinct : (m.recipients.map (·.1)).Nodup
  few : ∀ aci, (m.carriers (·.aci = some aci)).length ≤ 1

theorem Sole.reorders (sole : m.Sole) {rows : Table RecipientId Recipient} (same : m.recipients.Perm rows) :
    Sole { m with recipients := rows } where
  distinct := (same.map _).nodup_iff.1 sole.distinct
  few aci := (same.filter _).length_eq ▸ sole.few aci

theorem Sole.eq_of_aci (sole : m.Sole) {aci : Aci} {row other : RecipientId × Recipient} (there : row ∈ m.recipients)
    (carries : row.2.aci = some aci) (there' : other ∈ m.recipients) (carries' : other.2.aci = some aci) : row = other := by
  have carrier : row ∈ m.carriers (·.aci = some aci) := List.mem_filter.2 ⟨there, by simpa using carries⟩
  have carrier' : other ∈ m.carriers (·.aci = some aci) := List.mem_filter.2 ⟨there', by simpa using carries'⟩
  obtain ⟨only, is⟩ := List.length_eq_one_iff.1 (Nat.le_antisymm (sole.few aci) (List.length_pos_of_mem carrier))
  rw [is, List.mem_singleton] at carrier carrier'
  rw [carrier, carrier']

theorem Sole.find_eq (sole : m.Sole) {row : RecipientId × Recipient} (there : row ∈ m.recipients)
    (carries : row.2.aci = some who.aci) : (m.find who).1 = row.1 := by
  have carrier : row ∈ m.carriers (·.aci = some who.aci) := List.mem_filter.2 ⟨there, by simpa using carries⟩
  obtain ⟨first, found⟩ := exists_find?_of_carriers (List.ne_nil_of_mem carrier)
  have same := sole.eq_of_aci (List.mem_of_find?_eq_some found) (by simpa using List.find?_some found) there carries
  have found : findSelf? m.recipients who.aci who.pni who.number = some row.1 := by
    simp only [findSelf?, found, same, Option.map_some, Option.some_or]
  simp only [Memory.find, selfRecipient, found]

theorem Sole.erased (sole : m.Sole) (who : Identifiers) :
    (m.recipients.erase (m.find who).1).filter (fun row => row.2.aci = some who.aci) = [] := by
  rw [List.filter_eq_nil_iff]
  intro row kept carries
  obtain ⟨there, different⟩ := List.mem_filter.1 kept
  have here : (m.find who).1 = row.1 := sole.find_eq there (by simpa using carries)
  simp [here] at different

theorem Sole.find (sole : m.Sole) (who : Identifiers) : (m.find who).2.Sole := by
  obtain ⟨r, bound⟩ := m.recipients_find who
  refine ⟨by rw [bound]; exact Table.nodup_put sole.distinct _ _, fun aci => ?_⟩
  have changed := (Table.put_perm sole.distinct (m.find who).1 (bindSelf r who.aci who.pni who.number)).filter
    fun row => decide (row.2.aci = some aci)
  rw [carriers, bound, changed.length_eq]
  by_cases same : who.aci = aci
  · subst same
    rw [List.filter_cons_of_pos (by simp [bindSelf]), sole.erased]
    exact Nat.le_refl 1
  · rw [List.filter_cons_of_neg (by simp [bindSelf, same])]
    exact Nat.le_trans ((List.filter_sublist.filter _).length_le) (sole.few aci)

theorem Finds.sole (finds : Finds searches found m) : m.Sole := by
  induction finds with
  | nothing => exact ⟨List.nodup_nil, fun _ => Nat.zero_le _⟩
  | reorders _ same ih => exact ih.reorders same
  | searches _ who ih => exact ih.find who

/-! ## Several to choose from -/

theorem exists_first {test : Recipient → Bool} {row : RecipientId × Recipient} (carries : row ∈ m.carriers test) :
    ∃ rows, m.recipients.Perm rows ∧ rows.find? (fun row => test row.2) = some row := by
  obtain ⟨there, passes⟩ := List.mem_filter.1 carries
  exact ⟨row :: List.erase m.recipients row, List.perm_cons_erase there, List.find?_cons_of_pos passes⟩

theorem find?_of_nobody {test : Recipient → Bool} (nobody : m.carriers test = []) {rows : Table RecipientId Recipient}
    (same : m.recipients.Perm rows) : rows.find? (fun row => test row.2) = none := by
  have none_ := same.symm.filter fun row => test row.2
  rw [show m.recipients.filter (fun row => test row.2) = [] from nobody] at none_
  rw [← List.head?_filter, none_.eq_nil, List.head?_nil]

/-- A search that is not decided comes down to a test that several recipients pass, and takes the first. -/
theorem exists_test_of_undecided (undecided : ¬ m.Decides who.search) : ∃ test : Recipient → Bool,
    1 < (m.carriers test).length ∧ ∀ rows row, m.recipients.Perm rows → rows.find? (fun row => test row.2) = some row →
      findSelf? rows who.aci who.pni who.number = some row.1 := by
  simp only [Decides, Identifiers.search, not_and_or, Classical.not_imp, Nat.not_le] at undecided
  obtain many | ⟨noAci, many | ⟨noPni, many⟩⟩ := undecided
  · refine ⟨_, many, fun rows row same first => ?_⟩
    simp only [findSelf?, first, Option.map_some, Option.some_or]
  · refine ⟨_, many, fun rows row same first => ?_⟩
    simp only [findSelf?, find?_of_nobody noAci same, first, Option.map_none, Option.map_some, Option.none_or,
      Option.some_or]
  · refine ⟨_, many, fun rows row same first => ?_⟩
    simp only [findSelf?, find?_of_nobody noAci same, find?_of_nobody noPni same, first, Option.map_none, Option.map_some,
      Option.none_or]

/-- Where a search is not decided, it finds one or another recipient, depending on their order. -/
theorem Finds.either_of_undecided (finds : Finds searches found m) (undecided : ¬ m.Decides who.search) :
    ∃ first second, first ≠ second ∧ (∃ m', Finds (searches ++ [who]) (found ++ [first]) m') ∧
      ∃ m', Finds (searches ++ [who]) (found ++ [second]) m' := by
  obtain ⟨test, many, takes⟩ := exists_test_of_undecided undecided
  have found_ {row : RecipientId × Recipient} (carries : row ∈ m.carriers test) :
      ∃ m', Finds (searches ++ [who]) (found ++ [row.1]) m' := by
    obtain ⟨rows, same, first⟩ := exists_first carries
    have searched := (finds.reorders same).searches who
    have is : (Memory.find { m with recipients := rows } who).1 = row.1 := by
      simp only [Memory.find, selfRecipient, takes rows row same first]
    rw [is] at searched
    exact ⟨_, searched⟩
  have distinct : ((m.carriers test).map (·.1)).Nodup := finds.sole.distinct.sublist (List.filter_sublist.map _)
  generalize m.carriers test = rows at many distinct found_
  rcases rows with _ | ⟨first, _ | ⟨second, rest⟩⟩
  · cases many
  · exact absurd many (Nat.lt_irrefl 1)
  · have different : first.1 ≠ second.1 := by
      rw [List.map_cons, List.map_cons] at distinct
      exact fun same => (List.nodup_cons.1 distinct).1 (same ▸ List.mem_cons_self)
    exact ⟨first.1, second.1, different, found_ (by simp), found_ (by simp)⟩

theorem Finds.goesOn (finds : Finds searches found m) (later : List Identifiers) :
    ∃ more m', Finds (searches ++ later) (found ++ more) m' := by
  induction later generalizing searches found m with
  | nil => exact ⟨[], m, by simpa using finds⟩
  | cons who later ih =>
    obtain ⟨more, m', further⟩ := ih (finds.searches who)
    exact ⟨_ :: more, m', by simpa using further⟩

end Memory

/-! ## Both kinds of stores -/

theorem Paired.reorderRecipients {t : Thread} {d : Database} {m : Memory} (paired : Paired t d m)
    {rows : Table RecipientId Recipient} (perm : m.recipients.Perm rows) : Paired t d { m with recipients := rows } := by
  obtain ⟨⟨written, depicts, same⟩, abreast, civil⟩ := paired
  have reordered := same.recipients.perm.trans perm
  exact ⟨⟨written, depicts, { same with recipients := ⟨same.recipients.distinct, reordered⟩ }⟩, abreast,
    ⟨civil.signed, civil.lastResort⟩⟩

/-- As long as every search is decided, a database and a store in memory find the same. -/
theorem Memory.Finds.paired {searches : List Identifiers} {found : List RecipientId} {m : Memory}
    (finds : Finds searches found m) (t : Thread) (shared : Bool)
    (decided : ∀ before who after, searches = before ++ who :: after →
      ∀ found m, Finds before found m → m.Decides who.search) :
    ((Database.new .empty shared).finds t searches).1 = found.map .ok ∧
      Paired t ((Database.new .empty shared).finds t searches).2 m := by
  induction finds with
  | nothing => exact ⟨rfl, paired_new t shared⟩
  | reorders _ same ih =>
    obtain ⟨answers, paired⟩ := ih decided
    exact ⟨answers, paired.reorderRecipients same⟩
  | @searches searches found m finds who ih =>
    obtain ⟨answers, paired⟩ := ih fun before other after is => decided before other (after ++ [who]) (by simp [is])
    have decides := decided searches who [] rfl found m finds
    obtain ⟨answer, paired'⟩ := paired.perform (show who.search.ReadsBack from trivial) decides
    rw [Database.finds_concat, answers, List.map_append]
    exact ⟨congrArg (_ ++ [·]) answer, paired'⟩

/-- No two recipients ever carry one account identifier. A store in memory finds the same recipients as
a database, and ends with the same ones, in every order that its rows can have, if and only if at every
search for which nobody carries the account identifier at most one recipient carries the phone number
identifier or, if none does, the number. -/
theorem finds_alike_iff (t : Thread) (shared : Bool) (searches : List Identifiers) :
    (∀ found m, Memory.Finds searches found m → ∀ aci, (m.carriers (·.aci = some aci)).length ≤ 1) ∧
      ((∀ found m, Memory.Finds searches found m →
          ((Database.new .empty shared).finds t searches).1 = found.map .ok ∧
            ∀ id, (((Database.new .empty shared).finds t searches).2.perform t (.recipient id)).1 =
              .ok (m.recipients.get? id)) ↔
        ∀ before who after, searches = before ++ who :: after →
          ∀ found m, Memory.Finds before found m → m.Decides who.search) := by
  refine ⟨fun found m finds => finds.sole.few, fun alike before who after is found m finds => ?_,
    fun decided found m finds => ?_⟩
  · by_contra undecided
    obtain ⟨first, second, different, ⟨m₁, one⟩, m₂, other⟩ := finds.either_of_undecided undecided
    obtain ⟨more₁, m₁', one⟩ := one.goesOn after
    obtain ⟨more₂, m₂', other⟩ := other.goesOn after
    rw [List.append_assoc, List.singleton_append, ← is] at one other
    have same := (alike _ _ one).1.symm.trans (alike _ _ other).1
    simp only [List.map_append, List.append_assoc, List.append_cancel_left_eq, List.map_cons, List.cons_append] at same
    exact different (Except.ok.inj (List.cons.inj same).1)
  · obtain ⟨answers, paired⟩ := finds.paired t shared decided
    exact ⟨answers, fun id => (paired.perform (show (Operation.recipient id).ReadsBack from trivial) trivial).1⟩

/-- The third search finds the second recipient by its account identifier, and binds it to the phone
number identifier that the first one still carries. Nobody carries the account identifier of the fourth,
which comes upon both: a database takes the first one, a store in memory may take the second. -/
theorem found_otherwise :
    let searches : List Identifiers := [⟨⟨⟨1⟩⟩, ⟨⟨11⟩⟩, ⟨"+00000001", by decide +kernel⟩⟩,
      ⟨⟨⟨2⟩⟩, ⟨⟨12⟩⟩, ⟨"+00000002", by decide +kernel⟩⟩, ⟨⟨⟨2⟩⟩, ⟨⟨11⟩⟩, ⟨"+00000002", by decide +kernel⟩⟩]
    let last : Identifiers := ⟨⟨⟨3⟩⟩, ⟨⟨11⟩⟩, ⟨"+00000003", by decide +kernel⟩⟩
    ∃ m m', Memory.Finds searches [⟨1⟩, ⟨2⟩, ⟨2⟩] m ∧ m.carriers (·.aci = some last.aci) = [] ∧
      (m.carriers (·.pni = some last.pni)).map (·.1) = [⟨1⟩, ⟨2⟩] ∧
      Memory.Finds (searches ++ [last]) [⟨1⟩, ⟨2⟩, ⟨2⟩, ⟨2⟩] m' ∧
      ((Database.new .empty false).finds default (searches ++ [last])).1 = [.ok ⟨1⟩, .ok ⟨2⟩, .ok ⟨2⟩, .ok ⟨1⟩] := by
  intro searches last
  have three := ((Memory.Finds.nothing.searches searches[0]).searches searches[1]).searches searches[2]
  have four := (three.reorders (.swap _ _ _)).searches last
  exact ⟨_, _, three, by decide +kernel, by decide +kernel, four, by decide +kernel⟩

end Enrolment.Store
