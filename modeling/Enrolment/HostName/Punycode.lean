import Enrolment.Text.Digits
/-!
Labels in ASCII. The characters beyond ASCII are put behind the others, in order of their code points, as
the differences from one to the next; a difference counts the places at which the next one could stand.
Differences are numbers to the base 36 with digits of varying weight, the lowest first, so that their end
is told by a digit below a threshold. The threshold follows the size of the differences so far.
-/
namespace Enrolment.HostName.Punycode

def digit (d : Nat) : Char := if d < 26 then Char.ofNat (97 + d) else Char.ofNat (22 + d)

def digitValue? (c : Char) : Option Nat :=
  if 'a' ≤ c && c ≤ 'z' then some (c.toNat - 97)
  else if 'A' ≤ c && c ≤ 'Z' then some (c.toNat - 65)
  else if '0' ≤ c && c ≤ '9' then some (c.toNat - 22)
  else none

theorem digitValue_digit : ∀ d, d < 36 → digitValue? (digit d) = some d := by decide

/-- The digits below this end a number. Places are counted in steps of 36, from 36 on. -/
def threshold (place bias : Nat) : Nat := if place ≤ bias then 1 else if bias + 26 ≤ place then 26 else place - bias

theorem threshold_bounds (place bias : Nat) : 1 ≤ threshold place bias ∧ threshold place bias ≤ 26 := by
  unfold threshold
  split
  · omega
  · split <;> omega

def shrink (delta places : Nat) : Nat :=
  if 455 < delta then shrink (delta / 35) (places + 36) else places + 36 * delta / (delta + 38)
termination_by delta
decreasing_by omega

def adapt (delta count : Nat) (first : Bool) : Nat :=
  let delta := if first then delta / 700 else delta / 2
  shrink (delta + delta / count) 0

def startBias : Nat := 72

def startPoint : Nat := 128

/-! ## Encoding -/

def encodeNumber (bias place n : Nat) : List Char :=
  let t := threshold place bias
  if n < t then [digit n] else digit (t + (n - t) % (36 - t)) :: encodeNumber bias (place + 36) ((n - t) / (36 - t))
termination_by n
decreasing_by
  have bounds := threshold_bounds place bias
  exact Nat.lt_of_le_of_lt (Nat.div_le_self _ _) (by omega)

structure Progress where
  output : List Char
  delta : Nat
  bias : Nat
  placed : Nat
  /-- Nothing but ASCII is placed so far. -/
  first : Bool
  deriving DecidableEq, Inhabited

def pass (point : Nat) (p : Progress) (c : Char) : Progress :=
  if c.toNat < point then { p with delta := p.delta + 1 }
  else if c.toNat = point then
    { output := p.output ++ encodeNumber p.bias 36 p.delta, delta := 0,
      bias := adapt p.delta (p.placed + 1) p.first, placed := p.placed + 1, first := false }
  else p

def place (s : List Char) : Nat → List Nat → Progress → Progress
  | _, [], p => p
  | from_, point :: points, p =>
    let p := s.foldl (pass point) { p with delta := p.delta + (point - from_) * (p.placed + 1) }
    place s (point + 1) points { p with delta := p.delta + 1 }

def encode (s : List Char) : List Char :=
  let basic := s.filter (·.toNat < startPoint)
  let points := ((s.filter fun c => startPoint ≤ c.toNat).map Char.toNat).mergeSort.eraseDups
  let front := if basic.isEmpty then [] else basic ++ ['-']
  front ++ (place s startPoint points ⟨[], 0, startBias, basic.length, true⟩).output

/-! ## Decoding -/

def decodeNumber (bias place weight n : Nat) : List Char → Option (Nat × List Char)
  | [] => none
  | c :: rest =>
    match digitValue? c with
    | none => none
    | some d =>
      let t := threshold place bias
      if d < t then some (n + d * weight, rest)
      else decodeNumber bias (place + 36) (weight * (36 - t)) (n + d * weight) rest

theorem length_decodeNumber {bias place weight n m : Nat} {s rest : List Char}
    (read : decodeNumber bias place weight n s = some (m, rest)) : rest.length < s.length := by
  induction s generalizing place weight n with
  | nil => simp [decodeNumber] at read
  | cons c s ih =>
    unfold decodeNumber at read
    split at read
    · simp at read
    · simp only at read
      split at read
      · simp only [Option.some.injEq, Prod.mk.injEq] at read
        simp [← read.2]
      · have := ih read
        simp only [List.length_cons]
        omega

def isScalar (n : Nat) : Bool := n < 0xD800 || (0xDFFF < n && n < 0x110000)

/-- Puts characters into the ones that are there. The next one has at least code point `point`, and can
stand at `index` or later if it has that one. -/
def fill (bias point index : Nat) (done : List Char) (s : List Char) : Option (List Char) :=
  match s with
  | [] => some done
  | c :: rest =>
    match _read : decodeNumber bias 36 1 index (c :: rest) with
    | none => none
    | some (n, rest) =>
      let count := done.length + 1
      let point := point + n / count
      if isScalar point then
        fill (adapt (n - index) count (index = 0)) point (n % count + 1)
          (done.insertIdx (n % count) (Char.ofNat point)) rest
      else none
termination_by s.length
decreasing_by exact length_decodeNumber _read

/-- Splits at the last hyphen; one in front of all is no end of anything. -/
def splitLast (s : List Char) : List Char × List Char :=
  let back := (s.reverse.takeWhile (· ≠ '-')).reverse
  let front := s.take (s.length - back.length - 1)
  if front.isEmpty then ([], s) else (front, back)

def decode? (s : List Char) : Option (List Char) :=
  let (basic, rest) := splitLast s
  fill startBias startPoint 0 basic rest

end Enrolment.HostName.Punycode
