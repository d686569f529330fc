import Enrolment.Text.Split
import Enrolment.Text.Utf8
/-!
Directories and files. A place in the tree is the list of names that lead to it, from the working
directory or, with a first name `/`, from the root.

Directories are made along a path step by step. A file is opened at the place that a path spells,
whether or not the directories are there that it goes into and leaves again; only what stands at such a
step as a file is in the way.
-/
namespace Enrolment.Store

abbrev Place := List String

structure FileTree where
  directories : List Place
  files : List Place
  deriving DecidableEq, Inhabited

namespace FileTree

def withFiles (names : List String) : FileTree := ⟨[], names.map ([·])⟩

def nameLimit : Nat := 255

/-- How many bytes a path may have where directories are made. -/
def pathLimit : Nat := 4095

/-- How many bytes the place of a file may have in all, from the root on. -/
def placeLimit : Nat := 504

/-- How many bytes lead to the working directory. -/
def workingPlaceSize : Nat := 15

def fitsName (name : String) : Bool := name.utf8ByteSize ≤ nameLimit && !name.toList.contains '\x00'

def namesSize (names : List String) : Nat := (String.join (names.map ("/" ++ ·))).utf8ByteSize

def size (place : Place) : Nat :=
  if place.head? = some "/" then namesSize place.tail else workingPlaceSize + namesSize place

def names (path : String) : Place × List String :=
  (if path.toList.head? = some '/' then ["/"] else [],
    ((Text.splitOn '/' path.toList).map String.ofList).filter fun name => name ≠ "" && name ≠ ".")

def above (place : Place) : Place :=
  if place = ["/"] then place
  else if place.isEmpty || place.getLast? = some ".." then place ++ [".."]
  else place.dropLast

def step (place : Place) (name : String) : Place := if name = ".." then above place else place ++ [name]

def isDirectory (t : FileTree) (place : Place) : Bool :=
  place = ["/"] || place.all (· = "..") || t.directories.contains place

def isFile (t : FileTree) (place : Place) : Bool := t.files.contains place

def exists? (t : FileTree) (place : Place) : Bool := t.isDirectory place || t.isFile place

/-- Makes every directory along a path and tells whether it could; a file in the way stops it. -/
def makeDirectories (t : FileTree) (place : Place) : List String → Bool × FileTree
  | [] => (true, t)
  | name :: rest =>
    let place := step place name
    if t.isFile place || !fitsName name then (false, t)
    else
      makeDirectories (if t.isDirectory place then t else { t with directories := t.directories ++ [place] }) place rest

def makeDirectory (t : FileTree) (path : String) : Bool × FileTree :=
  let (start, names) := names path
  if path.utf8ByteSize ≤ pathLimit then t.makeDirectories start names else (false, t)

/-- The place that names spell, unless a file is in the way or a name is too long. -/
def spelled? (t : FileTree) (place : Place) : List String → Option Place
  | [] => some place
  | name :: rest =>
    let next := step place name
    if name ≠ ".." && (t.isFile place || !fitsName name || placeLimit < size next) then none
    else t.spelled? next rest

def filePlace? (t : FileTree) (path : String) : Option Place :=
  let (start, names) := names path
  match t.spelled? start names with
  | some place =>
    if t.isDirectory place || !t.isDirectory (above place) then none else some place
  | none => none

def touch (t : FileTree) (place : Place) : FileTree :=
  if t.isFile place then t else { t with files := t.files ++ [place] }

def list (t : FileTree) : List String :=
  let below := t.files.filter fun place => place.head? ≠ some "/" && place.head? ≠ some ".."
  (below.map (String.intercalate "/")).mergeSort fun a b => a ≤ b

end FileTree

/-! ## Directory parts -/

/-- Cuts off slashes, and names that stay where they are, from the end of a path's parts. -/
def trimParts (parts : List (List Char)) : List (List Char) :=
  (parts.reverse.dropWhile fun part => part = [] || part = ['.']).reverse

/-- The directory part of a path, in its own words; the root has none, and neither has an empty path.
A first name that stays where it is counts as a name. -/
def parentPath? (path : String) : Option String :=
  match Text.splitOn '/' path.toList with
  | [] :: parts =>
    match trimParts parts with
    | [] => none
    | trimmed =>
      match trimParts trimmed.dropLast with
      | [] => some "/"
      | front => some (String.ofList (['/'].intercalate ([] :: front)))
  | first :: parts =>
    match trimParts parts with
    | [] => some ""
    | trimmed => some (String.ofList (['/'].intercalate (first :: trimParts trimmed.dropLast)))
  | [] => none

end Enrolment.Store
