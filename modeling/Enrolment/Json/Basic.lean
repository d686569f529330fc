/-!
Documents of the JSON data format.

`Json` is what a text says, before anyone asks what it means: the members of an object stay in order
and may repeat, and what denotes nothing (a string with half a surrogate pair, an object with such a
name, a number beyond all doubles) is kept as `void`, because readers that skip it accept it.
`Json.normalize?` is the value of such a document: no `void`, no repeated member, and no deeper than
`nestingLimit`.
-/
namespace Enrolment

inductive Json where
  | null
  | bool (b : Bool)
  | int (n : Int)
  /-- Any other number, as significant digits and a power of ten. -/
  | real (negative : Bool) (digits : Nat) (exponent : Int)
  | str (s : String)
  /-- Text of the right form that denotes nothing. -/
  | void
  | arr (items : List Json)
  | obj (members : List (String × Json))
  deriving Inhabited

namespace Json

def nestingLimit : Nat := 127

/-- The integers that are told from other numbers: those of 64 bits with or without sign. -/
def integerInRange (n : Int) : Bool := Int64.minValue.toInt ≤ n && n < UInt64.size

/-- Puts a member last, or gives the member of that name a new value where it stands. -/
def putMember (members : List (String × Json)) (name : String) (value : Json) : List (String × Json) :=
  match members with
  | [] => [(name, value)]
  | (n, v) :: rest => if n = name then (n, value) :: rest else (n, v) :: putMember rest name value

mutual

def normalizeTo? (depth : Nat) : Json → Option Json
  | .null => some .null
  | .bool b => some (.bool b)
  | .int n => some (.int n)
  | .real s d e => some (.real s d e)
  | .str s => some (.str s)
  | .void => none
  | .arr items =>
    match depth with
    | 0 => none
    | depth + 1 => (normalizeItems? depth items).map .arr
  | .obj members =>
    match depth with
    | 0 => none
    | depth + 1 => (normalizeMembers? depth [] members).map .obj

def normalizeItems? (depth : Nat) : List Json → Option (List Json)
  | [] => some []
  | item :: rest =>
    match normalizeTo? depth item, normalizeItems? depth rest with
    | some item, some rest => some (item :: rest)
    | _, _ => none

def normalizeMembers? (depth : Nat) (before : List (String × Json)) :
    List (String × Json) → Option (List (String × Json))
  | [] => some before
  | (name, value) :: rest =>
    match normalizeTo? depth value with
    | some value => normalizeMembers? depth (putMember before name value) rest
    | none => none

end

/-- The value of a document: repeated members count once, with the last value. -/
def normalize? (j : Json) : Option Json := j.normalizeTo? nestingLimit

def firstItemDepth : Json → Nat
  | .arr (item :: _) => firstItemDepth item + 1
  | _ => 0

def nestedArrays : Nat → Json
  | 0 => .arr []
  | depth + 1 => .arr [nestedArrays depth]

def text (s : String) : Json := .str s

def nat (n : Nat) : Json := .int n

def option {α : Type} (encode : α → Json) : Option α → Json
  | some a => encode a
  | none => .null

def list {α : Type} (encode : α → Json) (items : List α) : Json := .arr (items.map encode)

def member? (name : String) : Json → Option Json
  | .obj members => (members.find? (·.1 = name)).map (·.2)
  | _ => none

end Json
end Enrolment
