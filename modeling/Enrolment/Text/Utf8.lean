import Enrolment.Text.Hex
/-!
Bytes and characters. A byte string decodes as UTF-8 either strictly or with U+FFFD standing for
each longest piece that cannot be part of a character.
-/
namespace Enrolment.Text

def utf8 (text : String) : Bytes := text.toUTF8.toList

/-- How the first bytes decode: a character and what follows it, or how many bytes to give up. -/
inductive Decoded where
  | char (c : Char) (rest : Bytes)
  | bad (rest : Bytes)

def isTail (b : UInt8) : Bool := 0x80 ≤ b && b ≤ 0xBF

/-- The range of the second byte depends on the first, which rules out overlong forms, surrogates
and numbers past U+10FFFF. -/
def secondOk (first second : UInt8) : Bool :=
  if first == 0xE0 then 0xA0 ≤ second && second ≤ 0xBF
  else if first == 0xED then 0x80 ≤ second && second ≤ 0x9F
  else if first == 0xF0 then 0x90 ≤ second && second ≤ 0xBF
  else if first == 0xF4 then 0x80 ≤ second && second ≤ 0x8F
  else isTail second

def bits (b : UInt8) (low : Nat) : Nat := b.toNat % low

def decodeFirst (first : UInt8) (rest : Bytes) : Decoded :=
  if first < 0x80 then .char (Char.ofNat first.toNat) rest
  else if 0xC2 ≤ first && first ≤ 0xDF then
    match rest with
    | b :: more => if isTail b then .char (Char.ofNat (bits first 32 * 64 + bits b 64)) more else .bad rest
    | [] => .bad []
  else if 0xE0 ≤ first && first ≤ 0xEF then
    match rest with
    | b :: more =>
      if secondOk first b then
        match more with
        | c :: more' =>
          if isTail c then
            .char (Char.ofNat (bits first 16 * 4096 + bits b 64 * 64 + bits c 64)) more'
          else .bad more
        | [] => .bad []
      else .bad rest
    | [] => .bad []
  else if 0xF0 ≤ first && first ≤ 0xF4 then
    match rest with
    | b :: more =>
      if secondOk first b then
        match more with
        | c :: more' =>
          if isTail c then
            match more' with
            | d :: more'' =>
              if isTail d then
                .char (Char.ofNat
                  (bits first 8 * 262144 + bits b 64 * 4096 + bits c 64 * 64 + bits d 64)) more''
              else .bad more'
            | [] => .bad []
          else .bad more
        | [] => .bad []
      else .bad rest
    | [] => .bad []
  else .bad rest

/-- The pieces of a byte string, in at most `fuel` steps; its length is enough. -/
def piecesIn : Nat → Bytes → List (Option Char)
  | _, [] => []
  | 0, _ :: _ => []
  | fuel + 1, b :: rest =>
    match decodeFirst b rest with
    | .char c more => some c :: piecesIn fuel more
    | .bad more => none :: piecesIn fuel more

/-- The characters that a byte string is made of, and nothing for each malformed piece. -/
def pieces (bytes : Bytes) : List (Option Char) := piecesIn bytes.length bytes

def ofUtf8? (bytes : Bytes) : Option String := ((pieces bytes).mapM id).map String.ofList

/-- The text of any bytes, each malformed piece read as U+FFFD. -/
def ofUtf8Lossy (bytes : Bytes) : String := String.ofList ((pieces bytes).map (·.getD '\uFFFD'))

end Enrolment.Text
