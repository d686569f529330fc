import Enrolment.Store.Location
/-!
What the database engine is asked to open.

A name is a path, unless it starts with `file:`. Then it is percent-encoded, ends at a number sign, and
may tell after a question mark how to open the file; an encoded zero ends what it stands in. An access
that is asked for in this way must not go beyond what is granted.
-/
namespace Enrolment.Store

inductive Access where
  | readOnly
  | readWrite
  | create
  deriving DecidableEq, Inhabited

namespace Access

def allows : Access → Access → Bool
  | create, _ => true
  | readWrite, asked => asked ≠ create
  | readOnly, asked => asked = readOnly

end Access

structure FileRequest where
  path : Bytes
  access : Access
  inMemory : Bool
  /-- The file never changes, so nothing is written to it. -/
  immutable : Bool
  /-- The name of the file system layer. -/
  layer : Bytes
  deriving DecidableEq, Inhabited

namespace FileRequest

def usualLayer : String := "unix"

def component (s : List Char) : Bytes := (Text.percentDecode (Text.utf8 (String.ofList s))).takeWhile (· ≠ 0)

def isYes (word : Bytes) : Bool :=
  let word := (Text.ofUtf8Lossy word).toList.map Char.toLower
  match word with
  | c :: _ =>
    if Text.isDigit c then Text.ofDigits (word.takeWhile Text.isDigit) % 256 ≠ 0
    else [ "on".toList, "yes".toList, "true".toList ].contains word
  | [] => false

/-- Follows an option of a name; unknown ones are passed over. Of several `immutable` the first counts. -/
def follow? (r : FileRequest) (option : Bytes × Bytes) : Option FileRequest :=
  let grant (asked : Access) : Option FileRequest :=
    if r.inMemory || r.access.allows asked then some { r with access := asked, inMemory := false } else none
  match (Text.ofUtf8Lossy option.1, Text.ofUtf8Lossy option.2) with
  | ("vfs", _) => some { r with layer := option.2 }
  | ("mode", "ro") => grant .readOnly
  | ("mode", "rw") => grant .readWrite
  | ("mode", "rwc") => grant .create
  | ("mode", "memory") => some { r with access := .readWrite, inMemory := true }
  | ("mode", _) => none
  | ("cache", "shared") | ("cache", "private") => some r
  | ("cache", _) => none
  | _ => some r

/-- The options after the question mark of a name; those without a name of their own do not count. -/
def options (query : List Char) : List (Bytes × Bytes) :=
  let all := (Text.splitOn '&' query).map fun s =>
    (component (s.takeWhile (· ≠ '=')), component ((s.dropWhile (· ≠ '=')).drop 1))
  all.filter (!·.1.isEmpty)

/-- Removes the authority in front of a path: none, or the machine itself. -/
def withoutAuthority? : List Char → Option (List Char)
  | '/' :: '/' :: rest =>
    let authority := rest.takeWhile (· ≠ '/')
    if authority.isEmpty || authority = "localhost".toList then some (rest.drop authority.length) else none
  | s => some s

def ofName? (name : String) (access : Access) (inMemory : Bool) : Option FileRequest :=
  let plain (path : Bytes) : FileRequest := ⟨path, access, inMemory, false, Text.utf8 usualLayer⟩
  if "file:".toList.isPrefixOf name.toList then do
    let rest := (← withoutAuthority? (name.toList.drop 5)).takeWhile (· ≠ '#')
    let options := options ((rest.dropWhile (· ≠ '?')).drop 1)
    let request := plain (component (rest.takeWhile (· ≠ '?')))
    let immutable := ((options.find? (·.1 = Text.utf8 "immutable")).map (isYes ·.2)).getD false
    options.foldlM follow? { request with immutable }
  else some (plain (Text.utf8 name))

def ofOptions? (o : Location.Options) : Option FileRequest :=
  let query := (if o.immutable then ["immutable=true"] else []) ++ (o.layer.map ("vfs=" ++ ·)).toList
  let name :=
    if query.isEmpty then o.name
    else "file:" ++ String.ofList (Text.percentEncode Char.isAlphanum o.name.toList) ++ "?" ++
      String.intercalate "&" query
  if name.toList.contains '\x00' then none
  else ofName? name (if o.readOnly then .readOnly else .create) o.inMemory

/-- Whether all is kept in memory: by demand, for want of a file name, or in the layer that is memory. -/
def keptInMemory (r : FileRequest) : Bool :=
  r.inMemory || r.path.isEmpty || r.path = Text.utf8 ":memory:" || r.layer = Text.utf8 "memdb"

end FileRequest
end Enrolment.Store
