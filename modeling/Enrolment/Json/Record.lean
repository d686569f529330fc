import Enrolment.Json.Reader
import Enrolment.Text.Hex
/-!
Reading typed values out of documents.

A record is an object, whose unknown members are passed over and whose known members may not repeat,
or an array of its fields in order. A field says what its absence means: an error, nothing at all,
or a default; only a default may be left out of the array form. An enumeration is the name of a
variant, or an object with that one member and `null` in it.
-/
namespace Enrolment.Json

def asBool? : Json → Option Bool
  | .bool b => some b
  | _ => none

def asString? : Json → Option String
  | .str s => some s
  | _ => none

def asInt? (low high : Int) : Json → Option Int
  | .int n => if low ≤ n && n < high then some n else none
  | _ => none

def asNat? (bound : Nat) : Json → Option Nat
  | .int (.ofNat n) => if n < bound then some n else none
  | _ => none

def asByte? (j : Json) : Option UInt8 := (j.asNat? 256).map UInt8.ofNat

def asList? {α : Type} (decode : Json → Option α) : Json → Option (List α)
  | .arr items => items.mapM decode
  | _ => none

def asBytes? : Json → Option Bytes := asList? asByte?

def asOption? {α : Type} (decode : Json → Option α) : Json → Option (Option α)
  | .null => some none
  | j => (decode j).map some

def ofBytes (bytes : Bytes) : Json := list (fun b => .nat b.toNat) bytes

def asVariant? {α : Type} (variants : List (String × α)) : Json → Option α
  | .str name => variants.lookup name
  | .obj [(name, .null)] => variants.lookup name
  | _ => none

/-- The fields found in a record; `named` tells the object form from the array form. -/
structure Fields where
  named : Bool
  values : List (String × Json)

/-- Collects the members that belong to a record; one that comes twice is refused. -/
def collect? (names : List String) (found : List (String × Json)) :
    List (String × Json) → Option (List (String × Json))
  | [] => some found
  | (name, value) :: rest =>
    if names.contains name then
      if (found.lookup name).isSome then none else collect? names (found ++ [(name, value)]) rest
    else collect? names found rest

def fields? (names : List String) : Json → Option Fields
  | .obj members => (collect? names [] members).map (⟨true, ·⟩)
  | .arr items => if items.length ≤ names.length then some ⟨false, names.zip items⟩ else none
  | _ => none

namespace Fields

variable {α : Type}

def required? (f : Fields) (name : String) (decode : Json → Option α) : Option α :=
  match f.values.lookup name with
  | some j => decode j
  | none => none

/-- A field that may be `null`, and in an object also missing. -/
def optional? (f : Fields) (name : String) (decode : Json → Option α) : Option (Option α) :=
  match f.values.lookup name with
  | some j => j.asOption? decode
  | none => if f.named then some none else none

def defaulted? (f : Fields) (name : String) (value : α) (decode : Json → Option α) : Option α :=
  match f.values.lookup name with
  | some j => decode j
  | none => some value

end Fields
end Enrolment.Json
