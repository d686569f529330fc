import Enrolment.Text.Percent
import Enrolment.Text.Split
/-!
What a database url says.

Two readers take it apart. One finds the directory to prepare, and takes the path as it is written;
the other one opens the database, and takes the path for percent-encoded and the part after the
question mark for options.
-/
namespace Enrolment.Store.Location

def dropStarts (start : List Char) (s : List Char) : List Char :=
  if start ≠ [] ∧ start.isPrefixOf s then dropStarts start (s.drop start.length) else s
termination_by s.length
decreasing_by
  rename_i found
  have := (List.isPrefixOf_iff_prefix.1 found.2).length_le
  have := List.length_pos_iff.2 found.1
  simp only [List.length_drop]
  omega

def scheme : List Char := "sqlite:".toList

def withoutScheme (url : List Char) : List Char := dropStarts scheme (dropStarts "sqlite://".toList url)

def filePath? (url : String) : Option String :=
  let path := (withoutScheme url.toList).takeWhile (· ≠ '?')
  if url = "sqlite::memory:" || !scheme.isPrefixOf url.toList || path.isEmpty || path = ":memory:".toList then none
  else some (String.ofList path)

structure Options where
  /-- The name of the database, for its engine to take apart. -/
  name : String
  inMemory : Bool
  readOnly : Bool
  immutable : Bool
  layer : Option String
  deriving DecidableEq, Inhabited

/-- Text in which a plus sign is a blank and a percent sign with two digits a byte. -/
def formText (s : List Char) : String :=
  Text.ofUtf8Lossy (Text.percentDecode (Text.utf8 (String.ofList (s.map fun c => if c = '+' then ' ' else c))))

def parameter (s : List Char) : String × String :=
  (formText (s.takeWhile (· ≠ '=')), formText ((s.dropWhile (· ≠ '=')).drop 1))

/-- Follows a parameter; one that is unknown, or has an unknown value, is refused. -/
def follow? (o : Options) : String × String → Option Options
  | ("mode", "ro") => some { o with readOnly := true }
  | ("mode", "rw") | ("mode", "rwc") => some o
  | ("mode", "memory") => some { o with inMemory := true }
  | ("cache", "private") | ("cache", "shared") => some o
  | ("immutable", "true") | ("immutable", "1") => some { o with immutable := true }
  | ("immutable", "false") | ("immutable", "0") => some { o with immutable := false }
  | ("vfs", layer) => some { o with layer := some layer }
  | _ => none

def options? (url : String) : Option Options := do
  let rest := withoutScheme url.toList
  let path := String.ofList (rest.takeWhile (· ≠ '?'))
  let inMemory := path = ":memory:"
  let name ← if inMemory then some "memory" else Text.ofUtf8? (Text.percentDecode (Text.utf8 path))
  let parameters := (Text.splitOn '&' ((rest.dropWhile (· ≠ '?')).drop 1)).filter (!·.isEmpty)
  (parameters.map parameter).foldlM follow? ⟨name, inMemory, false, false, none⟩

end Enrolment.Store.Location
