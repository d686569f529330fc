import Enrolment.Proofs.Text.Blank
import Enrolment.Proofs.Text.Numeral
import Enrolment.Settings
import Mathlib
/-!
How settings are written. In a variable an address is any text, a flag is a word in small or capital letters with
blanks around it, and a time is a numeral without any (`parse?_eq_some_iff`). In a document each has a type of its
own (`read?_eq_some_iff`).
-/
namespace Enrolment.Settings

inductive Kind
  | text
  | flag
  | count

namespace Kind

@[reducible] def Value : Kind → Type
  | text => String
  | flag => Bool
  | count => UInt64

def words : Bool → List String
  | true => ["1", "true", "yes", "on"]
  | false => ["0", "false", "no", "off"]

/-- A text is a word whose letters are each small or capital. -/
def Spells (spelled word : String) : Prop :=
  List.Forall₂ (fun c d => c = d ∨ c = d.toUpper) spelled.toList word.toList

/-- Which values a variable can be given, and what each stands for. -/
def Accepts : (k : Kind) → String → k.Value → Prop
  | text, given, s => given = s
  | flag, given, b => ∃ spelled, Text.Trims given spelled ∧ ∃ word ∈ words b, Spells spelled word
  | count, given, n => Text.Denotes given n.toNat

def inDocument : (k : Kind) → k.Value → Toml.Value
  | text, s => .text s
  | flag, b => .boolean b
  | count, n => .integer n.toNat

def parse? : (k : Kind) → String → Option k.Value
  | text => some
  | flag => flag?
  | count => counted?

def read? : (k : Kind) → Toml.Value → Option k.Value
  | text => text?
  | flag => boolean?
  | count => count?

/-! ## Flags -/

private theorem toLower_eq_iff {c d : Char} (small : d.toLower = d) : c.toLower = d ↔ c = d ∨ c = d.toUpper := by
  constructor
  · rintro rfl
    by_cases capital : c.isUpper
    · right
      rw [Char.toUpper_toLower_eq_toUpper, Char.toUpper_eq_of_not_isLower (Char.not_isLower_of_isUpper capital)]
    · left
      exact (Char.toLower_eq_of_not_isUpper capital).symm
  · rintro (rfl | rfl)
    · exact small
    · rw [Char.toLower_toUpper_eq_toLower, small]

private theorem map_toLower_eq_iff {s t : List Char} (small : ∀ d ∈ t, d.toLower = d) :
    s.map Char.toLower = t ↔ List.Forall₂ (fun c d => c = d ∨ c = d.toUpper) s t := by
  induction t generalizing s with
  | nil => simp
  | cons d t ih =>
    rw [List.forall_mem_cons] at small
    cases s with
    | nil => simp
    | cons c s => rw [List.map_cons, List.cons.injEq, toLower_eq_iff small.1, ih small.2, List.forall₂_cons]

private theorem small_of_mem_words (b : Bool) : ∀ word ∈ words b, ∀ d ∈ word.toList, d.toLower = d := by
  cases b <;> simp [words]

private theorem flag?_eq_some_iff_mem {given : String} {b : Bool} :
    flag? given = some b ↔ String.ofList ((Text.trim given).toList.map Char.toLower) ∈ words b := by
  -- the words for yes are looked for first, so none of them may be one for no
  have apart : ∀ word ∈ words true, word ∉ words false := by decide
  rw [Text.trim, String.toList_ofList, ← lowerAscii]
  show (if (words true).contains _ then some true else if (words false).contains _ then some false else none) = some b ↔ _
  generalize String.ofList _ = word
  simp only [List.contains_iff_mem]
  cases b <;> grind

theorem flag?_eq_some_iff {given : String} {b : Bool} : flag? given = some b ↔ flag.Accepts given b := by
  simp only [Accepts, Text.trims_iff, exists_eq_left, flag?_eq_some_iff_mem]
  constructor
  · intro member
    refine ⟨_, member, ?_⟩
    rw [Spells, String.toList_ofList, ← map_toLower_eq_iff]
    intro d there
    apply small_of_mem_words b _ member
    rwa [String.toList_ofList]
  · rintro ⟨word, member, spells⟩
    rwa [(map_toLower_eq_iff (small_of_mem_words b word member)).2 spells, String.ofList_toList]

/-! ## Times -/

theorem counted?_eq_some_iff {given : String} {n : UInt64} : counted? given = some n ↔ count.Accepts given n := by
  rw [counted?, Option.map_eq_some_iff, Accepts]
  constructor
  · rintro ⟨m, read, rfl⟩
    obtain ⟨small, denotes⟩ := Text.unsigned?_eq_some_iff.1 read
    rwa [UInt64.toNat_ofNat_of_lt' small]
  · intro denotes
    exact ⟨n.toNat, Text.unsigned?_eq_some_iff.2 ⟨n.toNat_lt, denotes⟩, UInt64.ofNat_toNat⟩

theorem count?_eq_some_iff {v : Toml.Value} {n : UInt64} : count? v = some n ↔ v = count.inDocument n := by
  constructor
  · intro read
    unfold count? at read
    split at read
    · split at read
      · rename_i m small
        cases read
        rw [inDocument, UInt64.toNat_ofNat_of_lt' small]
        rfl
      · cases read
    · cases read
  · rintro rfl
    show (if n.toNat < UInt64.size then some (UInt64.ofNat n.toNat) else none) = some n
    rw [if_pos n.toNat_lt, UInt64.ofNat_toNat]

/-! ## All settings -/

theorem parse?_eq_some_iff {k : Kind} {given : String} {x : k.Value} :
    k.parse? given = some x ↔ k.Accepts given x := by
  cases k with
  | text => exact Option.some_inj
  | flag => exact flag?_eq_some_iff
  | count => exact counted?_eq_some_iff

theorem read?_eq_some_iff {k : Kind} {v : Toml.Value} {x : k.Value} : k.read? v = some x ↔ v = k.inDocument x := by
  cases k with
  | text => cases v <;> simp [read?, text?, inDocument]
  | flag => cases v <;> simp [read?, boolean?, inDocument]
  | count => exact count?_eq_some_iff

end Kind
end Enrolment.Settings
