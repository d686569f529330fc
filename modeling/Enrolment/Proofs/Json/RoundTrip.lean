import Enrolment.Json.Printer
import Enrolment.Json.Reader
import Enrolment.Proofs.Text.Numeral
/-!
A plain document is read back from its text. Plain are the documents that denote values and hold no
numbers but integers of 64 bits: names do not repeat, and nothing lies deeper than readers of values
allow. Main statements: `document?_render` and `value?_render`.
-/
namespace Enrolment.Json

open Text

mutual

/-- A document of integers, texts, truth values and nothing, at most `depth` levels deep, in whose
objects no name repeats. -/
def isPlainTo (depth : Nat) : Json → Bool
  | .null | .bool _ | .str _ => true
  | .int n => integerInRange n
  | .real _ _ _ | .void => false
  | .arr items =>
    match depth with
    | 0 => false
    | depth + 1 => areItemsPlainTo depth items
  | .obj members =>
    match depth with
    | 0 => false
    | depth + 1 => areMembersPlainTo depth members && decide (members.map (·.1)).Nodup

def areItemsPlainTo (depth : Nat) : List Json → Bool
  | [] => true
  | item :: rest => isPlainTo depth item && areItemsPlainTo depth rest

def areMembersPlainTo (depth : Nat) : List (String × Json) → Bool
  | [] => true
  | (_, value) :: rest => isPlainTo depth value && areMembersPlainTo depth rest

end

def isPlain (j : Json) : Bool := j.isPlainTo nestingLimit

/-! ## Strings -/

private theorem hexNatural_four (n : Nat) (small : n < 65536) :
    hexNatural? [hexDigit (n / 4096 % 16), hexDigit (n / 256 % 16), hexDigit (n / 16 % 16), hexDigit (n % 16)] =
      some n := by
  have read := hexNatural_hexFixed 4 n
  have digits : hexFixed 4 n =
      [hexDigit (n / 4096 % 16), hexDigit (n / 256 % 16), hexDigit (n / 16 % 16), hexDigit (n % 16)] := by
    simp [hexFixed, Nat.div_div_eq_div_mul]
  rw [digits] at read
  rw [read]
  exact congrArg some (Nat.mod_eq_of_lt small)

theorem readUnits_escaped (c : Char) (rest : List Char) :
    readUnits (escaped c ++ rest) = (readUnits rest).map fun read => (.char c :: read.1, read.2) := by
  by_cases control : c.toNat < 32 ∧ c ≠ '\n' ∧ c ≠ '\r' ∧ c ≠ '\t' ∧ c.toNat ≠ 8 ∧ c.toNat ≠ 12
  · obtain ⟨low, newline, carriage, tab, back, feed⟩ := control
    have quote : c ≠ '"' := by rintro rfl; revert low; decide
    have slash : c ≠ '\\' := by rintro rfl; revert low; decide
    have written : escaped c = '\\' :: 'u' :: hexDigit (c.toNat / 4096 % 16) :: hexDigit (c.toNat / 256 % 16) ::
        hexDigit (c.toNat / 16 % 16) :: [hexDigit (c.toNat % 16)] := by
      simp [escaped, quote, slash, newline, carriage, tab, back, feed, low, hexFixed, Nat.div_div_eq_div_mul]
    have unit : ofUnit c.toNat = .char c := by
      have high : ¬ (0xD800 ≤ c.toNat) := by omega
      have trail : ¬ (0xDC00 ≤ c.toNat) := by omega
      simp [ofUnit, high, trail]
    rw [written]
    simp only [List.cons_append, List.nil_append]
    rw [readUnits, hexNatural_four _ (by omega)]
    cases readUnits rest <;> simp [unit]
  · by_cases special : c ∈ ['"', '\\', '\n', '\r', '\t', '\x08', '\x0c']
    · simp only [List.mem_cons, List.not_mem_nil, or_false] at special
      rcases special with rfl | rfl | rfl | rfl | rfl | rfl | rfl <;>
        (simp [escaped, readUnits]; cases readUnits rest <;> rfl)
    · simp only [List.mem_cons, List.not_mem_nil, or_false, not_or] at special
      obtain ⟨quote, slash, newline, carriage, tab, back, feed⟩ := special
      have backNat : c.toNat ≠ 8 := fun h => back (Char.ext (UInt32.toNat_inj.1 h))
      have feedNat : c.toNat ≠ 12 := fun h => feed (Char.ext (UInt32.toNat_inj.1 h))
      have high : ¬ c.toNat < 32 := fun low => control ⟨low, newline, carriage, tab, backNat, feedNat⟩
      have written : escaped c = [c] := by simp [escaped, quote, slash, newline, carriage, tab, backNat, feedNat, high]
      rw [written, List.cons_append, List.nil_append, readUnits.eq_def]
      split
      · simp_all
      · simp_all
      · simp_all
      · simp_all
      · rename_i same
        obtain ⟨rfl, rfl⟩ := List.cons.inj same
        simp only [high, if_false]
        cases readUnits rest <;> rfl

theorem readUnits_flatMap_escaped (cs rest : List Char) :
    readUnits (cs.flatMap escaped ++ '"' :: rest) = some (cs.map .char, rest) := by
  induction cs with
  | nil => simp [readUnits]
  | cons c cs ih => rw [List.flatMap_cons, List.append_assoc, readUnits_escaped, ih]; rfl

theorem joinUnits?_map_char (cs : List Char) : joinUnits? (cs.map .char) = some cs := by
  induction cs with
  | nil => rfl
  | cons c cs ih => simp [joinUnits?, ih]

theorem readUnits_stringChars (s : String) (rest : List Char) :
    readUnits ((stringChars s).tail ++ rest) = some (s.toList.map .char, rest) := by
  simpa [stringChars] using readUnits_flatMap_escaped s.toList rest

/-! ## Numbers -/

/-- What may follow a value without changing it: nothing, or a mark that ends it. -/
def Ends (rest : List Char) : Prop := ∀ c, rest.head? = some c → c = ',' ∨ c = ']' ∨ c = '\x7d'

theorem ends_nil : Ends [] := by simp [Ends]

theorem ends_itemsTail (items : List Json) (rest : List Char) : Ends (itemsTail items ++ rest) := by
  cases items <;> simp [Ends, itemsTail]

theorem ends_membersTail (members : List (String × Json)) (rest : List Char) :
    Ends (membersTail members ++ rest) := by
  cases members <;> simp [Ends, membersTail]

theorem Ends.not_digit {rest : List Char} (ends : Ends rest) (c : Char) (first : rest.head? = some c) :
    isDigit c = false := by
  rcases ends c first with rfl | rfl | rfl <;> rfl

theorem readNumber_decimal (negative : Bool) (n : Nat) {rest : List Char} (ends : Ends rest) :
    readNumber negative (decimal n ++ rest) = some (ofNumeral negative (decimal n) [] none, rest) := by
  have taken := takeWhile_isDigit_append (fun c => isDigit_of_mem_decimal (n := n) (c := c)) ends.not_digit
  have left := dropWhile_isDigit_append (fun c => isDigit_of_mem_decimal (n := n) (c := c)) ends.not_digit
  have leading : ((decimal n).head? == some '0' && (decimal n).length != 1) = false := by
    rcases Nat.eq_zero_or_pos n with rfl | positive
    · simp [decimal_zero]
    · simp [head?_decimal_ne_zero positive]
  have exponent : readExponent rest = some (none, rest) := by
    cases rest with
    | nil => rfl
    | cons c rest => rcases ends c rfl with rfl | rfl | rfl <;> rfl
  simp only [readNumber, readDigits, taken, left, leading, List.isEmpty_eq_false_iff.2 (decimal_ne_nil n),
    Bool.or_false, Bool.false_eq_true, if_false]
  cases rest with
  | nil => simp [exponent]
  | cons c rest => rcases ends c rfl with rfl | rfl | rfl <;> simp [exponent]

theorem ofNumeral_natural {n : Nat} (inRange : integerInRange (n : Int) = true) :
    ofNumeral false (decimal n) [] none = .int n := by
  simp [ofNumeral, ofDigits_decimal, inRange]

theorem ofNumeral_negative {n : Nat} (positive : 0 < n) (inRange : integerInRange (-(n : Int)) = true) :
    ofNumeral true (decimal n) [] none = .int (-(n : Int)) := by
  have nonzero : n ≠ 0 := by omega
  simp [ofNumeral, ofDigits_decimal, inRange, nonzero]

/-! ## Values -/

theorem skipSpace_cons {c : Char} {s : List Char} (visible : isSpace c = false) : skipSpace (c :: s) = c :: s := by
  simp [skipSpace, visible]

private theorem digit_is_no_mark {c : Char} (digit : isDigit c = true) :
    isSpace c = false ∧ c ≠ ']' ∧ c ≠ '\x7d' ∧ c ≠ '"' ∧ c ≠ '[' ∧ c ≠ '\x7b' ∧ c ≠ '-' := by
  refine ⟨?_, ?_, ?_, ?_, ?_, ?_, ?_⟩
  · rw [Bool.eq_false_iff]
    intro space
    simp only [isSpace, Bool.or_eq_true, beq_iff_eq] at space
    rcases space with ((rfl | rfl) | rfl) | rfl <;> revert digit <;> decide
  all_goals rintro rfl; revert digit; decide

theorem toChars_starts (j : Json) : ∃ c s, j.toChars = c :: s ∧ isSpace c = false ∧ c ≠ ']' ∧ c ≠ '\x7d' := by
  have digits (n : Nat) : ∃ c s, decimal n = c :: s ∧ isSpace c = false ∧ c ≠ ']' ∧ c ≠ '\x7d' := by
    cases h : decimal n with
    | nil => exact absurd h (decimal_ne_nil n)
    | cons c s =>
      obtain ⟨space, bracket, brace, _⟩ := digit_is_no_mark (isDigit_of_mem_decimal (n := n) (c := c) (by simp [h]))
      exact ⟨c, s, rfl, space, bracket, brace⟩
  have extended (n : Nat) (more : List Char) :
      ∃ c s, decimal n ++ more = c :: s ∧ isSpace c = false ∧ c ≠ ']' ∧ c ≠ '\x7d' := by
    obtain ⟨c, s, same, facts⟩ := digits n
    exact ⟨c, s ++ more, by simp [same], facts⟩
  cases j with
  | null => exact ⟨_, _, rfl, by decide⟩
  | bool b => cases b <;> exact ⟨_, _, rfl, by decide⟩
  | int n =>
    cases n with
    | ofNat n => exact digits n
    | negSucc n => exact ⟨_, _, rfl, by decide⟩
  | real negative d e =>
    cases negative with
    | true => exact ⟨_, _, rfl, by decide⟩
    | false => cases e <;> exact extended _ _
  | str s => exact ⟨_, _, rfl, by decide⟩
  | void => exact ⟨_, _, rfl, by decide⟩
  | arr items => cases items <;> exact ⟨_, _, rfl, by decide⟩
  | obj members =>
    rcases members with _ | ⟨⟨name, value⟩, rest⟩ <;> exact ⟨_, _, rfl, by decide⟩

private theorem readName_stringChars (name : String) (rest : List Char) :
    readName (stringChars name ++ ':' :: rest) = some (some name, rest) := by
  have units := readUnits_stringChars name (':' :: rest)
  simp only [stringChars, List.tail_cons] at units
  rw [readName, stringChars, List.cons_append, skipSpace_cons (by decide)]
  simp only [units, skipSpace_cons (show isSpace ':' = false by decide), joinUnits?_map_char, Option.map_some,
    String.ofList_toList]

private theorem ofMembers_some (members : List (String × Json)) :
    ofMembers (members.map fun member => (some member.1, member.2)) = .obj members := by
  have named : (members.map fun member => (some member.1, member.2)).mapM
      (fun member => member.1.map fun name => (name, member.2)) = some members := by
    induction members with
    | nil => rfl
    | cons member rest ih => simp [ih]
  simp only [ofMembers, named]

private theorem readValue_digit {c : Char} {s : List Char} (fuel : Nat) (digit : isDigit c = true) :
    readValue (fuel + 1) (c :: s) = readNumber false (c :: s) := by
  obtain ⟨space, _, _, quote, bracket, brace, minus⟩ := digit_is_no_mark digit
  rw [readValue.eq_def]
  simp only [skipSpace_cons space]
  split <;> simp_all

private theorem readValue_int (n : Int) (fuel : Nat) {rest : List Char} (inRange : integerInRange n = true)
    (ends : Ends rest) : readValue (fuel + 1) (integerChars n ++ rest) = some (.int n, rest) := by
  cases n with
  | ofNat n =>
    have read := readNumber_decimal false n ends
    rw [ofNumeral_natural inRange] at read
    cases h : decimal n with
    | nil => exact absurd h (decimal_ne_nil n)
    | cons c s =>
      have digit : isDigit c = true := isDigit_of_mem_decimal (n := n) (by simp [h])
      rw [h, List.cons_append] at read
      rw [integerChars, h, List.cons_append, readValue_digit fuel digit, read]
      rfl
  | negSucc n =>
    have read := readNumber_decimal true (n + 1) ends
    rw [ofNumeral_negative (Nat.succ_pos n) (by simpa [Int.negSucc_eq] using inRange)] at read
    rw [integerChars, List.cons_append, readValue, skipSpace_cons (by decide)]
    simpa [Int.negSucc_eq] using read

private theorem readValue_bracket {s after : List Char} {item : Json} {fuel : Nat}
    (starts : ∃ c t, s = c :: t ∧ isSpace c = false ∧ c ≠ ']' ∧ c ≠ '\x7d')
    (first : readValue fuel s = some (item, after)) :
    readValue (fuel + 1) ('[' :: s) =
      (readItems fuel after).map fun read => (.arr (item :: read.1), read.2) := by
  obtain ⟨c, t, rfl, space, bracket, _⟩ := starts
  rw [readValue, skipSpace_cons (by decide)]
  simp only [skipSpace_cons space, first]
  split
  · rename_i closes
    exact absurd (List.cons.inj closes).1 bracket
  · rfl

private theorem readValue_brace {name : String} {value : Json} {s after : List Char} {fuel : Nat}
    (first : readValue fuel s = some (value, after)) :
    readValue (fuel + 1) ('\x7b' :: (stringChars name ++ ':' :: s)) =
      (readMembers fuel after).map fun read => (ofMembers ((some name, value) :: read.1), read.2) := by
  have named := readName_stringChars name s
  have opens : skipSpace (stringChars name ++ ':' :: s) = stringChars name ++ ':' :: s := skipSpace_cons (by decide)
  rw [readValue, skipSpace_cons (by decide)]
  simp only [opens, named, first]
  rfl

mutual

/-- The fuel of a reader is enough as long as it exceeds the length of the text. -/
theorem readValue_toChars {depth : Nat} : ∀ (j : Json) (fuel : Nat) (rest : List Char), j.isPlainTo depth = true →
    Ends rest → (j.toChars ++ rest).length < fuel → readValue fuel (j.toChars ++ rest) = some (j, rest)
  | _, 0, _, _, _, enough => absurd enough (Nat.not_lt_zero _)
  | .null, fuel + 1, rest, _, _, _ => by
    simp [toChars, readValue, skipSpace, isSpace, keyword, isDigit]
    rfl
  | .bool true, fuel + 1, rest, _, _, _ => by
    simp [toChars, readValue, skipSpace, isSpace, keyword, isDigit]
    rfl
  | .bool false, fuel + 1, rest, _, _, _ => by
    simp [toChars, readValue, skipSpace, isSpace, keyword, isDigit]
    rfl
  | .int n, fuel + 1, rest, plain, ends, _ => readValue_int n fuel (by simpa [isPlainTo] using plain) ends
  | .real _ _ _, _ + 1, _, plain, _, _ => by simp [isPlainTo] at plain
  | .void, _ + 1, _, plain, _, _ => by simp [isPlainTo] at plain
  | .str s, fuel + 1, rest, _, _, _ => by
    have units := readUnits_stringChars s rest
    simp only [stringChars, List.tail_cons] at units
    rw [toChars, stringChars, List.cons_append, readValue, skipSpace_cons (by decide)]
    simp only [units, Option.map_some, ofUnits, joinUnits?_map_char, String.ofList_toList]
  | .arr [], fuel + 1, rest, _, _, _ => by simp [toChars, readValue, skipSpace, isSpace]
  | .arr (item :: items), fuel + 1, rest, plain, ends, enough => by
    match depth, plain with
    | depth + 1, plain =>
      simp only [isPlainTo, areItemsPlainTo, Bool.and_eq_true] at plain
      simp only [toChars, List.cons_append, List.append_assoc, List.length_cons] at enough ⊢
      have first := readValue_toChars item fuel _ plain.1 (ends_itemsTail items rest) (by omega)
      have later := readItems_itemsTail items fuel rest plain.2 (by simp only [List.length_append] at enough ⊢; omega)
      have starts : ∃ c t, item.toChars ++ (itemsTail items ++ rest) = c :: t ∧ isSpace c = false ∧ c ≠ ']' ∧ c ≠ '\x7d' := by
        obtain ⟨c, t, same, facts⟩ := toChars_starts item
        exact ⟨c, t ++ (itemsTail items ++ rest), by rw [same, List.cons_append], facts⟩
      rw [readValue_bracket starts first, later]
      rfl
  | .obj [], fuel + 1, rest, _, _, _ => by simp [toChars, readValue, skipSpace, isSpace]
  | .obj ((name, value) :: members), fuel + 1, rest, plain, ends, enough => by
    match depth, plain with
    | depth + 1, plain =>
      simp only [isPlainTo, areMembersPlainTo, Bool.and_eq_true] at plain
      simp only [toChars, List.cons_append, List.append_assoc, List.length_cons, List.length_append] at enough ⊢
      have first := readValue_toChars value fuel _ plain.1.1 (ends_membersTail members rest)
        (by simp only [List.length_append]; omega)
      have later := readMembers_membersTail members fuel rest plain.1.2 (by simp only [List.length_append]; omega)
      rw [readValue_brace first, later]
      simpa using ofMembers_some ((name, value) :: members)

theorem readItems_itemsTail {depth : Nat} : ∀ (items : List Json) (fuel : Nat) (rest : List Char),
    areItemsPlainTo depth items = true → (itemsTail items ++ rest).length < fuel →
      readItems fuel (itemsTail items ++ rest) = some (items, rest)
  | _, 0, _, _, enough => absurd enough (Nat.not_lt_zero _)
  | [], fuel + 1, rest, _, _ => by simp [itemsTail, readItems, skipSpace, isSpace]
  | item :: items, fuel + 1, rest, plain, enough => by
    simp only [areItemsPlainTo, Bool.and_eq_true] at plain
    simp only [itemsTail, List.cons_append, List.append_assoc, List.length_cons, List.length_append] at enough ⊢
    have first := readValue_toChars item fuel _ plain.1 (ends_itemsTail items rest)
      (by simp only [List.length_append]; omega)
    have later := readItems_itemsTail items fuel rest plain.2 (by simp only [List.length_append]; omega)
    rw [readItems, skipSpace_cons (by decide)]
    simp only [first, later, Option.map_some]

theorem readMembers_membersTail {depth : Nat} : ∀ (members : List (String × Json)) (fuel : Nat) (rest : List Char),
    areMembersPlainTo depth members = true → (membersTail members ++ rest).length < fuel →
      readMembers fuel (membersTail members ++ rest) =
        some (members.map fun member => (some member.1, member.2), rest)
  | _, 0, _, _, enough => absurd enough (Nat.not_lt_zero _)
  | [], fuel + 1, rest, _, _ => by simp [membersTail, readMembers, skipSpace, isSpace]
  | (name, value) :: members, fuel + 1, rest, plain, enough => by
    simp only [areMembersPlainTo, Bool.and_eq_true] at plain
    simp only [membersTail, List.cons_append, List.append_assoc, List.length_cons, List.length_append] at enough ⊢
    have first := readValue_toChars value fuel _ plain.1 (ends_membersTail members rest)
      (by simp only [List.length_append]; omega)
    have later := readMembers_membersTail members fuel rest plain.2 (by simp only [List.length_append]; omega)
    rw [readMembers, skipSpace_cons (by decide)]
    simp only [readName_stringChars, first, later, Option.map_some, List.map_cons]

end

theorem document?_render {j : Json} (plain : j.isPlain = true) : document? j.render = some j := by
  have read := readValue_toChars j (j.toChars.length + 1) [] plain ends_nil (by simp)
  rw [List.append_nil] at read
  simp only [document?, render, String.toList_ofList, ofChars?, read]
  rfl

/-! ## Values of documents -/

theorem putMember_of_notMem {members : List (String × Json)} {name : String} {value : Json}
    (fresh : name ∉ members.map (·.1)) : putMember members name value = members ++ [(name, value)] := by
  induction members with
  | nil => rfl
  | cons member rest ih =>
    simp only [List.map_cons, List.mem_cons, not_or] at fresh
    rw [putMember, if_neg (Ne.symm fresh.1), ih fresh.2, List.cons_append]

mutual

theorem normalizeTo?_of_isPlainTo : ∀ (depth : Nat) (j : Json), j.isPlainTo depth = true → j.normalizeTo? depth = some j
  | _, .null, _ => rfl
  | _, .bool _, _ => rfl
  | _, .int _, _ => rfl
  | _, .str _, _ => rfl
  | _, .real _ _ _, plain => by simp [isPlainTo] at plain
  | _, .void, plain => by simp [isPlainTo] at plain
  | 0, .arr _, plain => by simp [isPlainTo] at plain
  | 0, .obj _, plain => by simp [isPlainTo] at plain
  | depth + 1, .arr items, plain => by
    simp only [isPlainTo] at plain
    simp [normalizeTo?, normalizeItems?_of_arePlain depth items plain]
  | depth + 1, .obj members, plain => by
    simp only [isPlainTo, Bool.and_eq_true, decide_eq_true_eq] at plain
    simp [normalizeTo?, normalizeMembers?_of_arePlain depth members [] plain.1 (by simpa using plain.2)]

theorem normalizeItems?_of_arePlain : ∀ (depth : Nat) (items : List Json), areItemsPlainTo depth items = true →
    normalizeItems? depth items = some items
  | _, [], _ => rfl
  | depth, item :: items, plain => by
    simp only [areItemsPlainTo, Bool.and_eq_true] at plain
    simp [normalizeItems?, normalizeTo?_of_isPlainTo depth item plain.1, normalizeItems?_of_arePlain depth items plain.2]

theorem normalizeMembers?_of_arePlain : ∀ (depth : Nat) (members before : List (String × Json)),
    areMembersPlainTo depth members = true → ((before ++ members).map (·.1)).Nodup →
      normalizeMembers? depth before members = some (before ++ members)
  | _, [], before, _, _ => by simp [normalizeMembers?]
  | depth, (name, value) :: members, before, plain, distinct => by
    simp only [areMembersPlainTo, Bool.and_eq_true] at plain
    have fresh : name ∉ before.map (·.1) := by
      simp only [List.map_append, List.map_cons] at distinct
      intro member
      exact (List.nodup_append.1 distinct).2.2 name member name (by simp) rfl
    have later := normalizeMembers?_of_arePlain depth members (before ++ [(name, value)]) plain.2 (by simpa using distinct)
    rw [normalizeMembers?, normalizeTo?_of_isPlainTo depth value plain.1]
    simp only [putMember_of_notMem fresh, later, List.append_assoc, List.cons_append, List.nil_append]

end

theorem value?_render {j : Json} (plain : j.isPlain = true) : value? j.render = some j := by
  simp only [value?, document?_render plain]
  exact normalizeTo?_of_isPlainTo nestingLimit j plain

end Enrolment.Json
