/-!
White space in text: the characters of the Unicode property White_Space, and trimming by them.
-/
namespace Enrolment.Text

/-- The White_Space property, which takes in the ASCII blanks and those of other scripts. -/
def isBlank (c : Char) : Bool :=
  let n := c.toNat
  (9 ≤ n && n ≤ 13) || n == 32 || n == 0x85 || n == 0xA0 || n == 0x1680 ||
    (0x2000 ≤ n && n ≤ 0x200A) || n == 0x2028 || n == 0x2029 || n == 0x202F || n == 0x205F ||
    n == 0x3000

theorem isBlank_of_isWhitespace {c : Char} (blank : c.isWhitespace = true) : isBlank c = true := by
  simp only [Char.isWhitespace, Bool.or_eq_true, decide_eq_true_eq] at blank
  rcases blank with ((rfl | rfl) | rfl) | rfl <;> rfl

def dropBlank (s : List Char) : List Char := s.dropWhile isBlank

def trimChars (s : List Char) : List Char := (dropBlank (dropBlank s).reverse).reverse

def trim (s : String) : String := String.ofList (trimChars s.toList)

def allBlank (s : String) : Bool := s.toList.all isBlank

end Enrolment.Text
