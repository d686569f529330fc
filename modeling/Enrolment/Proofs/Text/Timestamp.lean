import Enrolment.Timestamp
import Enrolment.Proofs.Text.Numeral
/-!
What comes back from the text of a moment, whatever its year: the moment itself, unless it lies in a leap
second that does not end its minute, which the text shows as the second after (`ofText?_toText`). Only the
former are ever read off a text (`isCivil_of_ofText?`).
-/
namespace Enrolment.Timestamp

open Text

private def Stops (rest : List Char) : Prop := ∀ c, rest.head? = some c → isDigit c = false

private theorem number_append {width : Option Nat} {ds rest : List Char} (all : ∀ c ∈ ds, isDigit c = true)
    (nonempty : ds ≠ []) (fits : ∀ w, width = some w → ds.length ≤ w) (stops : Stops rest) :
    number width (ds ++ rest) = some (ofDigits ds, rest) := by
  have run := takeWhile_isDigit_append all stops
  cases width with
  | none => simp [number, run, nonempty]
  | some w =>
    have taken : ds.take w = ds := List.take_of_length_le (fits w rfl)
    simp only [number, run, taken, List.isEmpty_eq_false_iff.2 nonempty, Bool.false_eq_true, if_false, List.drop_left]

private theorem dropBlank_cons {c : Char} {s : List Char} (visible : isBlank c = false) :
    dropBlank (c :: s) = c :: s := by
  simp [dropBlank, visible]

private theorem dropBlank_decimalFixed (width n : Nat) (rest : List Char) :
    dropBlank (decimalFixed (width + 1) n ++ rest) = decimalFixed (width + 1) n ++ rest := by
  cases h : decimalFixed (width + 1) n with
  | nil => simp [decimalFixed] at h
  | cons c ds => exact dropBlank_cons (isBlank_of_isDigit (isDigit_of_mem_decimalFixed (by rw [h]; exact List.mem_cons_self)))

private theorem number_decimalFixed {w width n : Nat} {rest : List Char} (wide : width + 1 ≤ w)
    (small : n < 10 ^ (width + 1)) (stops : Stops rest) :
    number (some w) (decimalFixed (width + 1) n ++ rest) = some (n, rest) := by
  rw [number_append (fun c => isDigit_of_mem_decimalFixed) (by simp [decimalFixed])
    (by rintro w ⟨⟩; rwa [length_decimalFixed]) stops, ofDigits_decimalFixed_of_lt small]

private theorem readPair_decimalFixed {n : Nat} {rest : List Char} (small : n < 100) (stops : Stops rest) :
    readPair (decimalFixed 2 n ++ rest) = some (n, rest) := by
  rw [readPair, dropBlank_decimalFixed, number_decimalFixed (Nat.le_refl _) small stops]

private theorem number_padded (n : Nat) {rest : List Char} (stops : Stops rest) :
    number none (List.replicate (4 - (decimal n).length) '0' ++ decimal n ++ rest) = some (n, rest) := by
  rw [number_append _ (by simp [decimal_ne_nil]) (by simp) stops, ofDigits_zeros, ofDigits_decimal]
  intro c member
  rcases List.mem_append.1 member with zero | digit
  · rw [List.eq_of_mem_replicate zero]
    rfl
  · exact isDigit_of_mem_decimal digit

private theorem readYear_yearText (y : Int) {rest : List Char} (stops : Stops rest) :
    readYear (dropBlank (yearText y ++ rest)) = some (y, rest) := by
  unfold yearText
  by_cases short : 0 ≤ y ∧ y ≤ 9999
  · rw [if_pos (by simpa using short), dropBlank_decimalFixed]
    have read := number_decimalFixed (w := 4) (Nat.le_refl _) (show y.toNat < 10 ^ 4 by omega) stops
    cases h : decimalFixed 4 y.toNat with
    | nil => simp [decimalFixed] at h
    | cons c ds =>
      have digit : isDigit c = true := isDigit_of_mem_decimalFixed (by rw [h]; exact List.mem_cons_self)
      rw [h, List.cons_append] at read
      rw [List.cons_append, readYear.eq_def]
      split
      · rename_i same
        rw [(List.cons.inj same).1] at digit
        exact absurd digit (by decide)
      · rename_i same
        rw [(List.cons.inj same).1] at digit
        exact absurd digit (by decide)
      · rw [read, Option.map_some]
        simp [Int.toNat_of_nonneg short.1]
  · rw [if_neg (by simpa using short)]
    by_cases negative : y < 0
    · have read := number_padded y.natAbs stops
      rw [if_pos negative, List.cons_append, dropBlank_cons (by decide), readYear, read, Option.map_some]
      simp only [Option.some.injEq, Prod.mk.injEq, and_true]
      omega
    · have read := number_padded y.natAbs stops
      rw [if_neg negative, List.cons_append, dropBlank_cons (by decide), readYear, read, Option.map_some]
      simp only [Option.some.injEq, Prod.mk.injEq, and_true]
      omega

private theorem readFraction_point {width n : Nat} (narrow : width + 1 ≤ 9) (small : n < 10 ^ (width + 1)) :
    readFraction ('.' :: decimalFixed (width + 1) n ++ ['Z']) = some (n * 10 ^ (9 - (width + 1)), ['Z']) := by
  have stops : Stops ['Z'] := by simp [Stops, isDigit]
  have read := number_decimalFixed (w := 9) narrow small stops
  have length : (decimalFixed (width + 1) n ++ ['Z']).length - ['Z'].length = width + 1 := by
    simp [length_decimalFixed]
  have left : ['Z'].dropWhile isDigit = ['Z'] := rfl
  rw [List.cons_append, readFraction, read]
  simp only [bind, Option.bind, pure, length, left]
  rfl

private theorem readFraction_fractionText {n : Nat} (small : n ≤ 999999999) :
    readFraction (fractionText n ++ ['Z']) = some (n, ['Z']) := by
  unfold fractionText
  split
  · subst n; rfl
  split
  · rw [readFraction_point (by decide) (by omega)]
    simp only [Option.some.injEq, Prod.mk.injEq, and_true]
    omega
  split
  · rw [readFraction_point (by decide) (by omega)]
    simp only [Option.some.injEq, Prod.mk.injEq, and_true]
    omega
  · rw [readFraction_point (by decide) (by omega)]
    simp

private theorem stops_of_mark {c : Char} {rest : List Char} (mark : isDigit c = false) : Stops (c :: rest) := by
  rintro d ⟨⟩
  exact mark

private theorem stops_fractionText (n : Nat) : Stops (fractionText n ++ ['Z']) := by
  unfold fractionText
  split
  · exact stops_of_mark (by decide)
  split
  · exact stops_of_mark (by decide)
  split <;> exact stops_of_mark (by decide)

/-! ## Civil time -/

private theorem bounds (t : Timestamp) : t.reading.month ≤ 12 ∧ t.reading.day ≤ 31 ∧ t.reading.hour ≤ 23 ∧
    t.reading.minute ≤ 59 ∧ t.reading.second ≤ 59 ∧ t.reading.nanosecond ≤ 1999999999 := by
  have valid := t.valid
  simp only [Reading.isValid, Bool.and_eq_true, decide_eq_true_eq] at valid
  obtain ⟨⟨⟨⟨⟨⟨⟨⟨-, -⟩, month⟩, -⟩, day⟩, hour⟩, minute⟩, second⟩, nanosecond⟩ := valid
  have days : daysInMonth t.reading.year t.reading.month ≤ 31 := by
    unfold daysInMonth; split <;> (try split) <;> omega
  exact ⟨month, Nat.le_trans day days, hour, minute, second, nanosecond⟩

/-- A leap second ends its minute, as on every clock. -/
def IsCivil (t : Timestamp) : Prop := t.reading.nanosecond < 1000000000 ∨ t.reading.second = 59

instance (t : Timestamp) : Decidable t.IsCivil := inferInstanceAs (Decidable (_ ∨ _))

/-- The moment that the text of another one shows. -/
def civil (t : Timestamp) : Timestamp :=
  if uncivil : 1000000000 ≤ t.reading.nanosecond ∧ t.reading.second < 59 then
    ⟨{ t.reading with second := t.reading.second + 1, nanosecond := t.reading.nanosecond - 1000000000 }, by
      have valid := t.valid
      simp only [Reading.isValid, Bool.and_eq_true, decide_eq_true_eq] at valid ⊢
      obtain ⟨⟨before, second⟩, nanosecond⟩ := valid
      exact ⟨⟨before, by omega⟩, by omega⟩⟩
  else t

theorem civil_of_isCivil {t : Timestamp} (civil : t.IsCivil) : t.civil = t := by
  unfold IsCivil at civil
  exact dif_neg (by omega)

theorem isCivil_civil (t : Timestamp) : t.civil.IsCivil := by
  obtain ⟨-, -, -, -, second, nanosecond⟩ := t.bounds
  unfold civil
  split
  · exact Or.inl (show t.reading.nanosecond - 1000000000 < 1000000000 by omega)
  · unfold IsCivil
    omega

theorem civil_eq_self_iff {t : Timestamp} : t.civil = t ↔ t.IsCivil :=
  ⟨fun same => same ▸ t.isCivil_civil, civil_of_isCivil⟩

private theorem ofClock_shown (t : Timestamp) :
    ofClock { t.reading with second := t.reading.second + t.reading.nanosecond / 1000000000,
                             nanosecond := t.reading.nanosecond % 1000000000 } = t.civil.reading := by
  obtain ⟨-, -, -, -, second, nanosecond⟩ := t.bounds
  unfold ofClock civil
  by_cases leap : t.reading.nanosecond < 1000000000
  · rw [dif_neg (by omega), if_neg (show ¬ t.reading.second + t.reading.nanosecond / 1000000000 = 60 by omega),
      Nat.div_eq_of_lt leap, Nat.mod_eq_of_lt leap]
    rfl
  · have whole : t.reading.nanosecond / 1000000000 = 1 := by omega
    have part : t.reading.nanosecond % 1000000000 = t.reading.nanosecond - 1000000000 := by omega
    rw [whole, part]
    by_cases last : t.reading.second = 59
    · have sum : 1000000000 + (t.reading.nanosecond - 1000000000) = t.reading.nanosecond := by omega
      rw [dif_neg (by omega), if_pos (show t.reading.second + 1 = 60 by omega), sum, ← last]
    · rw [dif_pos (by omega), if_neg (show ¬ t.reading.second + 1 = 60 by omega)]

/-! ## Texts -/

theorem toUtc_zero (t : Timestamp) : toUtc t.reading 0 = some t := by
  obtain ⟨-, -, hour, minute, -, -⟩ := t.bounds
  obtain ⟨r, valid⟩ := t
  simp only at hour minute
  have early : ¬ ((60 : Int) * r.hour + r.minute - 0 < 0) := by omega
  have late : ¬ ((1440 : Int) ≤ 60 * r.hour + r.minute - 0) := by omega
  have hour : ((60 * r.hour + r.minute - 0 : Int) % 1440).toNat / 60 = r.hour := by omega
  have minute : ((60 * r.hour + r.minute - 0 : Int) % 1440).toNat % 60 = r.minute := by omega
  simp only [toUtc, early, late, if_false, hour, minute]
  simp [ofReading?, valid]

theorem ofText?_toText (t : Timestamp) : ofText? t.toText = some t.civil := by
  obtain ⟨month, day, hour, minute, second, nanosecond⟩ := t.bounds
  have chars : toChars t.reading = yearText t.reading.year ++ '-' :: (decimalFixed 2 t.reading.month ++
      '-' :: (decimalFixed 2 t.reading.day ++ 'T' :: (decimalFixed 2 t.reading.hour ++
        ':' :: (decimalFixed 2 t.reading.minute ++
          ':' :: (decimalFixed 2 (t.reading.second + t.reading.nanosecond / 1000000000) ++
            (fractionText (t.reading.nanosecond % 1000000000) ++ ['Z'])))))) := by
    simp [toChars]
  have literal_cons (c : Char) (rest : List Char) (visible : isBlank c = false) : literal c (c :: rest) = some rest := by
    simp [literal, dropBlank_cons visible]
  simp only [ofText?, toText, String.toList_ofList, ofChars?, chars, readYear_yearText _ (stops_of_mark (c := '-') (by decide)),
    bind, Option.bind, readMark, literal_cons '-' _ (by decide), literal_cons ':' _ (by decide),
    readPair_decimalFixed (show t.reading.month < 100 by omega) (stops_of_mark (c := '-') (by decide)),
    readPair_decimalFixed (show t.reading.day < 100 by omega) (stops_of_mark (c := 'T') (by decide)),
    readPair_decimalFixed (show t.reading.hour < 100 by omega) (stops_of_mark (c := ':') (by decide)),
    readPair_decimalFixed (show t.reading.minute < 100 by omega) (stops_of_mark (c := ':') (by decide)),
    readPair_decimalFixed (show t.reading.second + t.reading.nanosecond / 1000000000 < 100 by omega) (stops_fractionText _),
    readFraction_fractionText (show t.reading.nanosecond % 1000000000 ≤ 999999999 by omega)]
  have offset : readOffset (dropBlank ['Z']) = some (0, []) := rfl
  have nothing : dropBlank [] = [] := rfl
  simp only [offset, nothing, List.isEmpty_nil, if_true, ofClock_shown, t.civil.valid]
  exact toUtc_zero t.civil

/-! ## What is read off a text -/

private theorem number_lt {w n : Nat} {s rest : List Char} (read : number (some w) s = some (n, rest)) :
    s.length - rest.length ≤ w ∧ n < 10 ^ (s.length - rest.length) := by
  dsimp only [number] at read
  split at read
  · cases read
  · simp only [Option.some.injEq, Prod.mk.injEq] at read
    obtain ⟨rfl, rfl⟩ := read
    have within : ((s.takeWhile isDigit).take w).length ≤ s.length :=
      (((List.take_prefix w _).trans (List.takeWhile_prefix isDigit)).sublist).length_le
    have width : s.length - (s.drop ((s.takeWhile isDigit).take w).length).length =
        ((s.takeWhile isDigit).take w).length := by
      rw [List.length_drop]
      omega
    rw [width]
    exact ⟨List.length_take_le _ _, ofDigits_lt fun c member => List.all_eq_true.1 List.all_takeWhile c (List.mem_of_mem_take member)⟩

private theorem readFraction_lt {n : Nat} {s rest : List Char} (read : readFraction s = some (n, rest)) :
    n < 1000000000 := by
  unfold readFraction at read
  split at read
  · rename_i digits
    obtain ⟨⟨m, after⟩, number, read⟩ := Option.bind_eq_some_iff.1 read
    obtain ⟨narrow, small⟩ := number_lt number
    obtain ⟨rfl, -⟩ := Prod.mk.inj (Option.some.inj read)
    calc m * 10 ^ (9 - (digits.length - after.length))
        < 10 ^ (digits.length - after.length) * 10 ^ (9 - (digits.length - after.length)) :=
          Nat.mul_lt_mul_of_pos_right small (Nat.pow_pos (by decide))
      _ = 10 ^ 9 := by rw [← Nat.pow_add, Nat.add_sub_of_le narrow]
  · obtain ⟨rfl, -⟩ := Prod.mk.inj (Option.some.inj read)
    decide

private theorem reading_of_ofReading? {r : Reading} {t : Timestamp} (moment : ofReading? r = some t) : t.reading = r := by
  unfold ofReading? at moment
  split at moment
  · exact congrArg Timestamp.reading (Option.some.inj moment).symm
  · cases moment

private theorem toUtc_second {r : Reading} {offset : Int} {t : Timestamp} (moved : toUtc r offset = some t) :
    t.reading.second = r.second ∧ t.reading.nanosecond = r.nanosecond := by
  unfold toUtc at moved
  split at moved
  · cases moved
  · rw [reading_of_ofReading? moved]
    exact ⟨rfl, rfl⟩

theorem isCivil_of_ofText? {text : String} {t : Timestamp} (read : ofText? text = some t) : t.IsCivil := by
  -- of what is read in turn, only the fraction of the second bears on it
  obtain ⟨⟨year, _⟩, -, read⟩ := Option.bind_eq_some_iff.1 read
  obtain ⟨_, -, read⟩ := Option.bind_eq_some_iff.1 read
  obtain ⟨⟨month, _⟩, -, read⟩ := Option.bind_eq_some_iff.1 read
  obtain ⟨_, -, read⟩ := Option.bind_eq_some_iff.1 read
  obtain ⟨⟨day, _⟩, -, read⟩ := Option.bind_eq_some_iff.1 read
  obtain ⟨_, -, read⟩ := Option.bind_eq_some_iff.1 read
  obtain ⟨⟨hour, _⟩, -, read⟩ := Option.bind_eq_some_iff.1 read
  obtain ⟨_, -, read⟩ := Option.bind_eq_some_iff.1 read
  obtain ⟨⟨minute, _⟩, -, read⟩ := Option.bind_eq_some_iff.1 read
  obtain ⟨_, -, read⟩ := Option.bind_eq_some_iff.1 read
  obtain ⟨⟨second, _⟩, -, read⟩ := Option.bind_eq_some_iff.1 read
  obtain ⟨⟨fraction, _⟩, some_, read⟩ := Option.bind_eq_some_iff.1 read
  obtain ⟨⟨offset, _⟩, -, read⟩ := Option.bind_eq_some_iff.1 read
  dsimp only at read
  have small := readFraction_lt some_
  split at read
  · split at read
    · obtain ⟨same, same'⟩ := toUtc_second read
      unfold IsCivil
      rw [same, same', ofClock]
      split
      · exact Or.inr rfl
      · exact Or.inl small
    · cases read
  · cases read

end Enrolment.Timestamp
