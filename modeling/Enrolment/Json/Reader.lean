import Enrolment.Json.Basic
import Enrolment.Text.Magnitude
import Enrolment.Text.Utf8
/-!
Reading JSON text. The reader works on characters and bounds its recursion by their number; every
step takes at least one. It accepts any nesting, and leaves judging literals to `Json.void`.
-/
namespace Enrolment.Json

def isSpace (c : Char) : Bool := c == ' ' || c == '\n' || c == '\t' || c == '\r'

def skipSpace (s : List Char) : List Char := s.dropWhile isSpace

/-- What an escape contributes to a string: a character, or half of a surrogate pair. -/
inductive Unit16 where
  | char (c : Char)
  | high (n : Nat)
  | low (n : Nat)

def ofUnit (n : Nat) : Unit16 :=
  if 0xD800 ≤ n && n ≤ 0xDBFF then .high n
  else if 0xDC00 ≤ n && n ≤ 0xDFFF then .low n
  else .char (Char.ofNat n)

/-- The rest of a string after its opening quote, up to the closing one. A control character or an
unknown escape is an error. -/
def readUnits : List Char → Option (List Unit16 × List Char)
  | [] => none
  | '"' :: rest => some ([], rest)
  | '\\' :: 'u' :: a :: b :: c :: d :: rest =>
    match Text.hexNatural? [a, b, c, d], readUnits rest with
    | some n, some (units, rest) => some (ofUnit n :: units, rest)
    | _, _ => none
  | '\\' :: c :: rest =>
    let plain :=
      if c == '"' || c == '\\' || c == '/' then some c
      else if c == 'b' then some '\x08'
      else if c == 'f' then some '\x0c'
      else if c == 'n' then some '\n'
      else if c == 'r' then some '\r'
      else if c == 't' then some '\t'
      else none
    match plain, readUnits rest with
    | some p, some (units, rest) => some (.char p :: units, rest)
    | _, _ => none
  | c :: rest =>
    if c.toNat < 32 then none
    else
      match readUnits rest with
      | some (units, rest) => some (.char c :: units, rest)
      | none => none

/-- Joins surrogate pairs; half a pair alone has no character. -/
def joinUnits? : List Unit16 → Option (List Char)
  | [] => some []
  | .char c :: rest => (joinUnits? rest).map (c :: ·)
  | .high h :: .low l :: rest =>
    (joinUnits? rest).map (Char.ofNat (0x10000 + (h - 0xD800) * 1024 + (l - 0xDC00)) :: ·)
  | _ => none

def ofUnits (units : List Unit16) : Json :=
  match joinUnits? units with
  | some cs => .str (String.ofList cs)
  | none => .void

/-! ## Numbers -/

def extend (n : Nat) : List Char → Nat × List Char
  | [] => (n, [])
  | c :: rest =>
    let longer := 10 * n + Text.digitValue c
    if longer < UInt64.size then extend longer rest else (n, c :: rest)

/-- Whether a number is small enough for a double. Its digits count as far as they fit 64 bits; those
left of the point that do not, count as places. -/
def isFinite (whole fraction : List Char) (exponent : Int) : Bool :=
  let (significand, places) := extend 0 whole
  let (significand, ignored) := extend significand fraction
  Text.productFitsDouble significand (exponent + places.length - (fraction.length - ignored.length : Nat))

def ofNumeral (negative : Bool) (whole fraction : List Char) (exponent : Option Int) : Json :=
  let value := Text.ofDigits whole
  let plain : Int := if negative then -(value : Int) else value
  if fraction.isEmpty && exponent.isNone && integerInRange plain && !(negative && value == 0) then .int plain
  else if isFinite whole fraction (exponent.getD 0) then
    .real negative (Text.ofDigits (whole ++ fraction)) (exponent.getD 0 - fraction.length)
  else .void

def readDigits (s : List Char) : List Char × List Char :=
  (s.takeWhile Text.isDigit, s.dropWhile Text.isDigit)

def readExponent (s : List Char) : Option (Option Int × List Char) :=
  match s with
  | c :: rest =>
    if c == 'e' || c == 'E' then
      let (negative, rest) := match rest with
        | '-' :: rest => (true, rest)
        | '+' :: rest => (false, rest)
        | rest => (false, rest)
      let (digits, rest) := readDigits rest
      if digits.isEmpty then none
      else
        let value : Int := Text.ofDigits digits
        some (some (if negative then -value else value), rest)
    else some (none, s)
  | [] => some (none, [])

/-- A number after its sign. No numeral but zero starts with the digit zero. -/
def readNumber (negative : Bool) (s : List Char) : Option (Json × List Char) :=
  let (whole, rest) := readDigits s
  if whole.isEmpty || (whole.head? == some '0' && whole.length != 1) then none
  else
    match rest with
    | '.' :: rest =>
      let (fraction, rest) := readDigits rest
      if fraction.isEmpty then none
      else (readExponent rest).map fun (e, rest) => (ofNumeral negative whole fraction e, rest)
    | _ => (readExponent rest).map fun (e, rest) => (ofNumeral negative whole [] e, rest)

/-! ## Values -/

def keyword (name : String) (value : Json) (s : List Char) : Option (Json × List Char) :=
  if name.toList.isPrefixOf s then some (value, s.drop name.length) else none

def readName (s : List Char) : Option (Option String × List Char) :=
  match skipSpace s with
  | '"' :: rest =>
    match readUnits rest with
    | some (units, rest) =>
      match skipSpace rest with
      | ':' :: rest => some ((joinUnits? units).map String.ofList, rest)
      | _ => none
    | none => none
  | _ => none

/-- An object, which denotes nothing where one of its names does not. -/
def ofMembers (members : List (Option String × Json)) : Json :=
  match members.mapM fun member => member.1.map fun name => (name, member.2) with
  | some members => .obj members
  | none => .void

mutual

def readValue : Nat → List Char → Option (Json × List Char)
  | 0, _ => none
  | fuel + 1, s =>
    match skipSpace s with
    | [] => none
    | '"' :: rest => (readUnits rest).map fun (units, rest) => (ofUnits units, rest)
    | '[' :: rest =>
      match skipSpace rest with
      | ']' :: rest => some (.arr [], rest)
      | _ =>
        match readValue fuel rest with
        | some (item, rest) => (readItems fuel rest).map fun (items, rest) => (.arr (item :: items), rest)
        | none => none
    | '\x7b' :: rest =>
      match skipSpace rest with
      | '\x7d' :: rest => some (.obj [], rest)
      | _ =>
        match readName rest with
        | some (name, rest) =>
          match readValue fuel rest with
          | some (value, rest) =>
            (readMembers fuel rest).map fun (members, rest) => (ofMembers ((name, value) :: members), rest)
          | none => none
        | none => none
    | '-' :: rest => readNumber true rest
    | c :: rest =>
      if Text.isDigit c then readNumber false (c :: rest)
      else if c == 'n' then keyword "null" .null (c :: rest)
      else if c == 't' then keyword "true" (.bool true) (c :: rest)
      else if c == 'f' then keyword "false" (.bool false) (c :: rest)
      else none

def readItems : Nat → List Char → Option (List Json × List Char)
  | 0, _ => none
  | fuel + 1, s =>
    match skipSpace s with
    | ']' :: rest => some ([], rest)
    | ',' :: rest =>
      match readValue fuel rest with
      | some (item, rest) => (readItems fuel rest).map fun (items, rest) => (item :: items, rest)
      | none => none
    | _ => none

def readMembers : Nat → List Char → Option (List (Option String × Json) × List Char)
  | 0, _ => none
  | fuel + 1, s =>
    match skipSpace s with
    | '\x7d' :: rest => some ([], rest)
    | ',' :: rest =>
      match readName rest with
      | some (name, rest) =>
        match readValue fuel rest with
        | some (value, rest) =>
          (readMembers fuel rest).map fun (members, rest) => ((name, value) :: members, rest)
        | none => none
      | none => none
    | _ => none

end

def ofChars? (s : List Char) : Option Json :=
  match readValue (s.length + 1) s with
  | some (value, rest) => if (skipSpace rest).isEmpty then some value else none
  | none => none

def document? (text : String) : Option Json := ofChars? text.toList

/-- How pieces of bytes are read. A malformed one is an error, but in a string it is one only for who reads
the string. There it becomes two second halves of surrogate pairs, which denote nothing wherever they
stand; after a backslash it stays an error. -/
def charsOfPieces : (afterBackslash : Bool) → List (Option Char) → List Char
  | _, [] => []
  | after, some c :: rest => c :: charsOfPieces (c = '\\' && !after) rest
  | false, none :: rest => "\\udc00\\udc00".toList ++ charsOfPieces false rest
  | true, none :: rest => '\uFFFD' :: charsOfPieces false rest

def documentOfBytes? (bytes : Bytes) : Option Json := ofChars? (charsOfPieces false (Text.pieces bytes))

def value? (text : String) : Option Json :=
  match document? text with
  | some j => j.normalize?
  | none => none

end Enrolment.Json
