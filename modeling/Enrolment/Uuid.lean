import Enrolment.Text.Digits
/-!
Universally unique identifiers: 128 bits, written as thirty-two hexadecimal digits in five groups.
Four spellings are read: the digits alone, the five groups, the groups in braces, and the groups
after the URN scheme.
-/
namespace Enrolment

structure Uuid where
  bits : BitVec 128
  deriving DecidableEq

namespace Uuid

instance : Inhabited Uuid := ⟨⟨0⟩⟩

def ofNat (n : Nat) : Uuid := ⟨BitVec.ofNat 128 n⟩

def toNat (u : Uuid) : Nat := u.bits.toNat

/-- Identifiers are ordered as numbers, which is the order of their written form. -/
instance : LT Uuid := ⟨fun a b => a.toNat < b.toNat⟩

instance (a b : Uuid) : Decidable (a < b) := inferInstanceAs (Decidable (a.toNat < b.toNat))

def digits (u : Uuid) : List Char := Text.hexFixed 32 u.toNat

def grouped (ds : List Char) : List Char :=
  ds.take 8 ++ '-' :: (ds.drop 8).take 4 ++ '-' :: (ds.drop 12).take 4 ++ '-' ::
    (ds.drop 16).take 4 ++ '-' :: ds.drop 20

def toText (u : Uuid) : String := String.ofList (grouped u.digits)

def ofDigits? (ds : List Char) : Option Uuid :=
  if ds.length = 32 then (Text.hexNatural? ds).map ofNat else none

def ofGrouped? (cs : List Char) : Option Uuid :=
  if cs.length = 36 && cs[8]? == some '-' && cs[13]? == some '-' && cs[18]? == some '-' &&
      cs[23]? == some '-' then
    ofDigits? (cs.take 8 ++ (cs.drop 9).take 4 ++ (cs.drop 14).take 4 ++ (cs.drop 19).take 4 ++
      cs.drop 24)
  else none

private def urnScheme : List Char := "urn:uuid:".toList

def ofText? (text : String) : Option Uuid :=
  let cs := text.toList
  if cs.length = 32 then ofDigits? cs
  else if cs.length = 36 then ofGrouped? cs
  else if cs.length = 38 then
    if cs.head? == some '\x7b' && cs.getLast? == some '\x7d' then ofGrouped? (cs.tail.dropLast) else none
  else if cs.length = 45 then
    if (cs.take 9).map Char.toLower == urnScheme then ofGrouped? (cs.drop 9) else none
  else none

end Uuid
end Enrolment
