/-!
Numbers as ASCII digits: decimal numerals of any length, fixed-width decimals and hexadecimals, and
the readers that go with them.
-/
namespace Enrolment.Text

def isDigit (c : Char) : Bool := '0' ≤ c && c ≤ '9'

def digitChar (d : Nat) : Char := Char.ofNat (48 + d)

def digitValue (c : Char) : Nat := c.toNat - 48

def decimal (n : Nat) : List Char :=
  if n < 10 then [digitChar n] else decimal (n / 10) ++ [digitChar (n % 10)]
termination_by n
decreasing_by omega

def decimalFixed : Nat → Nat → List Char
  | 0, _ => []
  | width + 1, n => decimalFixed width (n / 10) ++ [digitChar (n % 10)]

def ofDigits (cs : List Char) : Nat := cs.foldl (fun n c => 10 * n + digitValue c) 0

def natural? (cs : List Char) : Option Nat :=
  if cs.isEmpty || !cs.all isDigit then none else some (ofDigits cs)

/-- An unsigned number below `bound`: a numeral, with at most one plus sign in front. -/
def unsigned? (bound : Nat) (text : String) : Option Nat :=
  let digits := match text.toList with
    | '+' :: rest => rest
    | all => all
  match natural? digits with
  | some n => if n < bound then some n else none
  | none => none

def decimalText (n : Nat) : String := String.ofList (decimal n)

def integerText : Int → String
  | .ofNat n => decimalText n
  | .negSucc n => "-" ++ decimalText (n + 1)

def hexDigit (d : Nat) : Char := if d < 10 then digitChar d else Char.ofNat (87 + d)

def hexValue? (c : Char) : Option Nat :=
  if isDigit c then some (digitValue c)
  else if 'a' ≤ c && c ≤ 'f' then some (c.toNat - 87)
  else if 'A' ≤ c && c ≤ 'F' then some (c.toNat - 55)
  else none

def hexFixed : Nat → Nat → List Char
  | 0, _ => []
  | width + 1, n => hexFixed width (n / 16) ++ [hexDigit (n % 16)]

def hexNumeral (n : Nat) : List Char :=
  if n < 16 then [hexDigit n] else hexNumeral (n / 16) ++ [hexDigit (n % 16)]
termination_by n
decreasing_by omega

def hexNatural? (cs : List Char) : Option Nat :=
  cs.foldlM (fun n c => (hexValue? c).map (16 * n + ·)) 0

theorem hexValue_hexDigit : ∀ d, d < 16 → hexValue? (hexDigit d) = some d := by decide

theorem hexNatural_hexFixed (width n : Nat) : hexNatural? (hexFixed width n) = some (n % Nat.pow 16 width) := by
  show _ = some (n % 16 ^ width)
  induction width generalizing n with
  | zero => simp [hexFixed, hexNatural?, Nat.mod_one]
  | succ width ih =>
    have last := hexValue_hexDigit (n % 16) (Nat.mod_lt _ (by decide))
    have front := ih (n / 16)
    unfold hexNatural? at front ⊢
    simp only [hexFixed, List.foldlM_append, front, List.foldlM_cons, List.foldlM_nil, last]
    simp only [Option.map_some, bind, Option.bind_some, pure]
    rw [Nat.pow_succ, Nat.mul_comm (16 ^ width) 16, Nat.mod_mul, Nat.add_comm]

end Enrolment.Text
