import Enrolment.Toml.Quoted
import Enrolment.Toml.Scalar
/-!
Reading TOML documents. Values and lines are read with fuel, one unit for each character; arrays,
tables in braces and dotted keys may be nested to a depth of 79.
-/
namespace Enrolment.Toml

def deepest : Nat := 79

def skipBlank (s : List Char) : List Char := s.dropWhile isBlank

def skipLines (inComment : Bool) : List Char → List Char
  | [] => []
  | c :: rest =>
    if c = '\n' then skipLines false rest
    else if inComment then if isTextChar c then skipLines true rest else c :: rest
    else if isBlank c then skipLines false rest
    else if c = '#' then skipLines true rest
    else c :: rest

def lineEnd? (s : List Char) : Option (List Char) :=
  let rest := match skipBlank s with
    | '#' :: rest => rest.dropWhile isTextChar
    | rest => rest
  match rest with
  | [] => some []
  | '\n' :: rest => some rest
  | _ => none

/-! ## Keys -/

def isKeyChar (c : Char) : Bool := c.isAlphanum || c = '_' || c = '-'

def readKey (s : List Char) : Option (String × List Char) :=
  match s with
  | '"' :: rest => (readBasic rest).map fun (key, rest) => (String.ofList key, rest)
  | '\'' :: rest => (readLiteral rest).map fun (key, rest) => (String.ofList key, rest)
  | s =>
    let key := s.takeWhile isKeyChar
    if key.isEmpty then none else some (String.ofList key, s.drop key.length)

def readPath : Nat → List Char → Option (List String × List Char)
  | 0, _ => none
  | room + 1, s =>
    match readKey (skipBlank s) with
    | none => none
    | some (key, rest) =>
      match skipBlank rest with
      | '.' :: rest => (readPath room rest).map fun (keys, rest) => (key :: keys, rest)
      | rest => some ([key], rest)

/-! ## Values -/

mutual

def readValue : Nat → Nat → List Char → Option (Value × List Char)
  | 0, _, _ => none
  | fuel + 1, room, s =>
    match s, room with
    | '[' :: _, 0 => none
    | '\x7b' :: _, 0 => none
    | '[' :: rest, room + 1 => (readItems fuel room rest).map fun (items, rest) => (.array items, rest)
    | '\x7b' :: rest, room + 1 =>
      match skipBlank rest with
      | '\x7d' :: rest => some (.table .closed [], rest)
      | rest => (readPairs fuel room [] rest).map fun (entries, rest) => (.table .closed entries, rest)
    | s, _ =>
      if s.head? = some '"' || s.head? = some '\'' then
        (readText s).map fun (cs, rest) => (.text (String.ofList cs), rest)
      else
        let (word, rest) := readWord s
        (scalar? word).map fun v => (v, rest)

def readItems : Nat → Nat → List Char → Option (List Value × List Char)
  | 0, _, _ => none
  | fuel + 1, room, s =>
    match skipLines false s with
    | ']' :: rest => some ([], rest)
    | s =>
      match readValue fuel room s with
      | none => none
      | some (item, rest) =>
        match skipLines false rest with
        | ']' :: rest => some ([item], rest)
        | ',' :: rest => (readItems fuel room rest).map fun (items, rest) => (item :: items, rest)
        | _ => none

def readPairs : Nat → Nat → Entries → List Char → Option (Entries × List Char)
  | 0, _, _, _ => none
  | fuel + 1, room, entries, s =>
    match readPath deepest s with
    | some (path, '=' :: rest) =>
      match readValue fuel room (skipBlank rest) with
      | none => none
      | some (value, rest) =>
        match entries.put path value, skipBlank rest with
        | some entries, '\x7d' :: rest => some (entries, rest)
        | some entries, ',' :: rest => readPairs fuel room entries rest
        | _, _ => none
    | _ => none

end

/-! ## Documents -/

structure Draft where
  entries : Entries
  heading : List String

def readStatement (fuel : Nat) (draft : Draft) (s : List Char) : Option (Draft × List Char) :=
  match skipBlank s with
  | '[' :: '[' :: rest =>
    match readPath deepest rest with
    | some (path, ']' :: ']' :: rest) =>
      (draft.entries.openElement path).map fun entries => (⟨entries, path⟩, rest)
    | _ => none
  | '[' :: rest =>
    match readPath deepest rest with
    | some (path, ']' :: rest) => (draft.entries.openTable path).map fun entries => (⟨entries, path⟩, rest)
    | _ => none
  | s =>
    match readPath deepest s with
    | some (path, '=' :: rest) =>
      match readValue fuel deepest (skipBlank rest) with
      | some (value, rest) =>
        (draft.entries.within (·.put path value) draft.heading).map fun entries =>
          (⟨entries, draft.heading⟩, rest)
      | none => none
    | _ => none

def readLines : Nat → Draft → List Char → Option Draft
  | 0, _, _ => none
  | fuel + 1, draft, s =>
    match lineEnd? s with
    | some [] => some draft
    | some rest => readLines fuel draft rest
    | none =>
      match readStatement (fuel + 1) draft s with
      | none => none
      | some (draft, rest) =>
        match lineEnd? rest with
        | some [] => some draft
        | some rest => readLines fuel draft rest
        | none => none

def unifyLines : List Char → List Char
  | [] => []
  | '\r' :: '\n' :: rest => '\n' :: unifyLines rest
  | c :: rest => c :: unifyLines rest

/-- The table that a whole text is. A byte order mark in front is dropped. -/
def document? (text : String) : Option Entries :=
  let s := match unifyLines text.toList with
    | '\ufeff' :: rest => rest
    | s => s
  (readLines (s.length + 1) ⟨[], []⟩ s).map (·.entries)

end Enrolment.Toml
