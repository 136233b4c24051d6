import Muster.Text.Digit
/-!
# UTF-8 with damage

Bytes that are meant to be UTF-8 are read as characters.  Where they are not, each longest
beginning of a character, or else a single byte, becomes one replacement character.
-/

namespace Muster.Text

/-- The character that stands for bytes that are none. -/
def replacementChar : Char := '\uFFFD'

/-- The number of bytes after the first byte of a character, the bits that the first byte gives,
and the least and the greatest second byte; `none` for a byte that begins no character. -/
def leadByte? (b : UInt8) : Option (Nat × Nat × UInt8 × UInt8) :=
  let n := b.toNat
  if n < 0x80 then some (0, n, 0, 0)
  else if n < 0xC2 then none
  else if n < 0xE0 then some (1, n - 0xC0, 0x80, 0xBF)
  else if n < 0xF0 then
    some (2, n - 0xE0, if b == 0xE0 then 0xA0 else 0x80, if b == 0xED then 0x9F else 0xBF)
  else if n < 0xF5 then
    some (3, n - 0xF0, if b == 0xF0 then 0x90 else 0x80, if b == 0xF4 then 0x8F else 0xBF)
  else none

/-- Reads the bytes of a character after its first one: the character, or the replacement
character, and the bytes left over. -/
def readTail : (left bits : Nat) → (least greatest : UInt8) → List UInt8 → Char × List UInt8
  | 0, bits, _, _, bs => (Char.ofNat bits, bs)
  | left + 1, bits, least, greatest, b :: bs =>
    if least ≤ b && b ≤ greatest then
      readTail left (bits * 0x40 + (b.toNat - 0x80)) 0x80 0xBF bs
    else (replacementChar, b :: bs)
  | _ + 1, _, _, _, [] => (replacementChar, [])

theorem length_readTail_le (left bits : Nat) (least greatest : UInt8) (bs : List UInt8) :
  (readTail left bits least greatest bs).2.length ≤ bs.length
  := by
  induction left generalizing bits least greatest bs with
  | zero => simp [readTail]
  | succ left ih =>
    cases bs with
    | nil => simp [readTail]
    | cons b bs =>
      simp only [readTail]
      split
      · exact Nat.le_trans (ih ..) (by simp)
      · simp

/-- The characters of some bytes. -/
def decodeUtf8 : List UInt8 → List Char
  | [] => []
  | b :: bs =>
    match leadByte? b with
    | none => replacementChar :: decodeUtf8 bs
    | some (left, bits, least, greatest) =>
      let r := readTail left bits least greatest bs
      r.1 :: decodeUtf8 r.2
termination_by bs => bs.length
decreasing_by
  · simp
  · exact Nat.lt_succ_of_le (length_readTail_le ..)

/-- How bytes fail to be UTF-8. -/
inductive Damage where
  /-- A byte that begins no character. -/
  | badStart
  /-- A byte that does not go on with a character. -/
  | badContinuation
  /-- A character without its last bytes. -/
  | cutShort
deriving Repr, DecidableEq

/-- The damage among the bytes after the first of a character, with the number of bytes that are
in order. -/
def tailDamage? : (left seen : Nat) → (least greatest : UInt8) → List UInt8 → Option (Damage × Nat)
  | 0, _, _, _, _ => none
  | _ + 1, seen, _, _, [] => some (.cutShort, seen)
  | left + 1, seen, least, greatest, b :: bs =>
    if least ≤ b && b ≤ greatest then tailDamage? left (seen + 1) 0x80 0xBF bs
    else some (.badContinuation, seen)

/-- The first damage in some bytes: where it is and over how many bytes it goes. -/
def damage? (index : Nat) : List UInt8 → Option (Damage × Nat × Nat)
  | [] => none
  | b :: bs =>
    match leadByte? b with
    | none => some (.badStart, index, 1)
    | some (left, _, least, greatest) =>
      match tailDamage? left 1 least greatest bs with
      | some (damage, length) => some (damage, index, length)
      | none => damage? (index + 1 + left) (bs.drop left)
termination_by bs => bs.length
decreasing_by
  simp only [List.length_drop, List.length_cons]
  omega

/-- The wording of a damage. -/
def Damage.message : Damage → String
  | badStart => "invalid start byte"
  | badContinuation => "invalid continuation byte"
  | cutShort => "unexpected end of data"

/-- What is wrong with bytes that are no text. -/
def damageText (bs : List UInt8) : String :=
  match damage? 0 bs with
  | none => ""
  | some (damage, index, length) =>
    let place :=
      if length = 1 then
        "byte 0x" ++ String.ofList (hexDigits 2 (bs[index]?.getD 0).toNat) ++ " in position "
          ++ toString index
      else "bytes in position " ++ toString index ++ "-" ++ toString (index + length - 1)
    "'utf-8' codec can't decode " ++ place ++ ": " ++ damage.message

end Muster.Text
