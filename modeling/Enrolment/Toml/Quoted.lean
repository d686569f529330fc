import Enrolment.Text.Digits
/-!
Quoted text: between double quotes, where a backslash begins an escape, or between single quotes,
where every character is itself. Three quotes take in line feeds as well.

The readers are given what follows the opening quotes. They expect the line ends of the whole document
to be line feeds, so that a carriage return is a control character like others.
-/
namespace Enrolment.Toml

/-- The tab is the only control character that text and comments may hold. -/
def isTextChar (c : Char) : Bool := c = '\t' || (' ' ≤ c && c ≠ '\x7f')

def isBlank (c : Char) : Bool := c = ' ' || c = '\t'

def escaped? (c : Char) : Option Char :=
  if c = 'b' then some '\x08'
  else if c = 't' then some '\t'
  else if c = 'n' then some '\n'
  else if c = 'f' then some '\x0c'
  else if c = 'r' then some '\r'
  else if c = '"' || c = '\\' then some c
  else none

def scalarValue? (digits : List Char) : Option Char :=
  match Text.hexNatural? digits with
  | some n => if n.isValidChar then some (Char.ofNat n) else none
  | none => none

private def prepend (c : Option Char) (rest : Option (List Char × List Char)) :
    Option (List Char × List Char) :=
  match c, rest with
  | some c, some (cs, rest) => some (c :: cs, rest)
  | _, _ => none

private def plain? (c : Char) : Option Char := if isTextChar c then some c else none

def readBasic : List Char → Option (List Char × List Char)
  | [] => none
  | '"' :: rest => some ([], rest)
  | '\\' :: 'u' :: a :: b :: c :: d :: rest => prepend (scalarValue? [a, b, c, d]) (readBasic rest)
  | '\\' :: 'U' :: a :: b :: c :: d :: e :: f :: g :: h :: rest =>
    prepend (scalarValue? [a, b, c, d, e, f, g, h]) (readBasic rest)
  | '\\' :: c :: rest => prepend (escaped? c) (readBasic rest)
  | c :: rest => prepend (plain? c) (readBasic rest)

def readLiteral : List Char → Option (List Char × List Char)
  | [] => none
  | '\'' :: rest => some ([], rest)
  | c :: rest => prepend (plain? c) (readLiteral rest)

/-- Up to two quotes may stand in front of the closing three. -/
private def closing (quote : Char) (rest : List Char) : List Char × List Char :=
  let inside := (rest.take 2).takeWhile (· = quote)
  (inside, rest.drop inside.length)

private def endsLine (s : List Char) : Bool := (s.dropWhile isBlank).head? = some '\n'

/-- Text between three double quotes. After a backslash at the end of a line, blanks and line feeds
are dropped up to the next other character: `folding` says that this is under way. -/
def readLongBasic (folding : Bool) : List Char → Option (List Char × List Char)
  | [] => none
  | '"' :: '"' :: '"' :: rest => some (closing '"' rest)
  | '\\' :: 'u' :: a :: b :: c :: d :: rest =>
    prepend (scalarValue? [a, b, c, d]) (readLongBasic false rest)
  | '\\' :: 'U' :: a :: b :: c :: d :: e :: f :: g :: h :: rest =>
    prepend (scalarValue? [a, b, c, d, e, f, g, h]) (readLongBasic false rest)
  | '\\' :: c :: rest =>
    if endsLine (c :: rest) then readLongBasic true rest
    else prepend (escaped? c) (readLongBasic false rest)
  | c :: rest =>
    if folding && (isBlank c || c = '\n') then readLongBasic true rest
    else prepend (if c = '\n' then some c else plain? c) (readLongBasic false rest)

def readLongLiteral : List Char → Option (List Char × List Char)
  | [] => none
  | '\'' :: '\'' :: '\'' :: rest => some (closing '\'' rest)
  | c :: rest => prepend (if c = '\n' then some c else plain? c) (readLongLiteral rest)

/-- A line feed right after three opening quotes is not part of the text. -/
private def dropFeed : List Char → List Char
  | '\n' :: rest => rest
  | s => s

def readText : List Char → Option (List Char × List Char)
  | '"' :: '"' :: '"' :: rest => readLongBasic false (dropFeed rest)
  | '"' :: rest => readBasic rest
  | '\'' :: '\'' :: '\'' :: rest => readLongLiteral (dropFeed rest)
  | '\'' :: rest => readLiteral rest
  | _ => none

end Enrolment.Toml
