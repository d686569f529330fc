import Enrolment.Store.Database
import Enrolment.Store.FileRequest
import Enrolment.Store.FileTree
/-!
Opening the account database that a url names, after its directory has been made. The database has to
be there and to take in its tables.
-/
namespace Enrolment.Store

def layers : List String := ["unix", "unix-excl", "unix-dotfile", "unix-none", "memdb"]

def journalSuffix : String := "-journal"

def prepareDirectory (files : FileTree) (url : String) : Except Fault Unit × FileTree :=
  match (Location.filePath? url).bind parentPath? with
  | none => (.ok (), files)
  | some parent =>
    let (made, files) := files.makeDirectory parent
    (if made then .ok () else .error (.during (.ofMedium .file) (.makingDirectory parent url)), files)

def openFile (files : FileTree) (r : FileRequest) : Except Fault (Option Place) × FileTree :=
  let failed : Except Fault (Option Place) × FileTree := (.error (.ofMedium .sql), files)
  if !layers.contains (Text.ofUtf8Lossy r.layer) then failed
  else if r.keptInMemory then (.ok none, files)
  else
    match files.filePlace? (Text.ofUtf8Lossy r.path) with
    | none => failed
    | some place =>
      if files.isFile place then (.ok (some place), files)
      else if r.access = .create then (.ok (some place), files.touch place)
      else failed

def refusal? (r : FileRequest) (place : Option Place) : Option DatabaseRefusal :=
  let name := (place.bind (·.getLast?)).getD ""
  if r.access = .readOnly || (r.immutable && (place.isSome || r.layer = Text.utf8 "memdb")) then some .readOnly
  else if FileTree.nameLimit < (name ++ journalSuffix).utf8ByteSize then some .cannotOpen
  else none

def openTables (files : FileTree) (url : String) : Except Fault (Option Place) × FileTree :=
  match Location.options? url with
  | none => (.error (.during (.ofMedium .sql) (.readingDatabaseUrl url)), files)
  | some options =>
    let failed (f : Fault) : Except Fault (Option Place) := .error (f.during (.openingDatabase url))
    match FileRequest.ofOptions? options with
    | none => (failed (.ofMedium .sql), files)
    | some request =>
      match openFile files request with
      | (.error f, files) => (failed f, files)
      | (.ok place, files) =>
        match refusal? request place with
        | some refusal => (failed (.during (.ofMedium .sql) (.makingTables refusal)), files)
        | none => (.ok place, files)

/-- The account database at a url. One that is not in a file is worked on over one connection. -/
structure Opened where
  database : Database
  file : Option Place
  files : FileTree
  deriving Inhabited

def openDatabase (files : FileTree) (url : String) : Except Fault Opened × FileTree :=
  match prepareDirectory files url with
  | (.error f, files) => (.error f, files)
  | (.ok (), files) =>
    let (result, files) := openTables files url
    (result.map fun file => ⟨.new .empty (Location.filePath? url).isNone, file, files⟩, files)

/-- Closes a database and opens it again; what is in no file is lost. -/
def Opened.reopen (o : Opened) : Opened :=
  { o with database := .new (if o.file.isSome then o.database.committed else .empty) o.database.shared }

end Enrolment.Store
