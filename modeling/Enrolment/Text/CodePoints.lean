import Enrolment.Text.Hex
import Enrolment.Text.Split
/-!
Tables of code points, written as lines of text: hexadecimal numbers with blanks between them. A run
of code points is written with a hyphen between the first and the last one, and what belongs to a run
follows an equals sign.
-/
namespace Enrolment.Text

structure CodePointRun where
  first : Nat
  last : Nat
  deriving DecidableEq, Inhabited

namespace CodePointRun

def contains (r : CodePointRun) (c : Char) : Bool := r.first ≤ c.toNat && c.toNat ≤ r.last

def ofChars? (mark : Char) (s : List Char) : Option CodePointRun := do
  match splitOn mark s with
  | [one] => let n ← hexNatural? one; return ⟨n, n⟩
  | [first, last] => return ⟨← hexNatural? first, ← hexNatural? last⟩
  | _ => none

end CodePointRun

def tableEntries (table : List String) : List (List Char) := table.flatMap fun line => splitOn ' ' line.toList

def codePointRuns (table : List String) : List CodePointRun :=
  (tableEntries table).filterMap (CodePointRun.ofChars? '-')

def inRuns (runs : List CodePointRun) (c : Char) : Bool := runs.any (·.contains c)

end Enrolment.Text
