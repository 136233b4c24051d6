import Muster.Text.Literal
/-!
# Bytes written as text

Four characters of sixty-four stand for three bytes.  Characters outside the alphabet are
skipped; equals signs fill up the last group.
-/

namespace Muster.Yaml.Binary

/-- The value of a character of the alphabet. -/
def sextet? (c : Char) : Option Nat :=
  if 'A' ≤ c ∧ c ≤ 'Z' then some (c.toNat - 0x41)
  else if 'a' ≤ c ∧ c ≤ 'z' then some (c.toNat - 0x61 + 26)
  else if '0' ≤ c ∧ c ≤ '9' then some (c.toNat - 0x30 + 52)
  else if c = '+' then some 62
  else if c = '/' then some 63
  else none

/-- Why a text stands for no bytes. -/
inductive BadText where
  /-- Some characters next to each other are no plain ones. -/
  | foreign (index : Nat) (cs : List Char)
  /-- The last group has one character only; `count` is the number of all characters. -/
  | lone (count : Nat)
  /-- The last group is not filled up. -/
  | unfilled
deriving Repr, DecidableEq

/-- A character that is no plain one, inside a message. -/
def foreignText (c : Char) : String :=
  let n := c.toNat
  String.ofList (
    if n < 0x100 then '\\' :: 'x' :: Text.hexDigits 2 n
    else if n < 0x10000 then '\\' :: 'u' :: Text.hexDigits 4 n
    else '\\' :: 'U' :: Text.hexDigits 8 n)

/-- The wording of what is wrong with a text. -/
def BadText.message : BadText → String
  | foreign index cs =>
    let place := match cs with
      | [c] => "character '" ++ foreignText c ++ "' in position " ++ toString index
      | _ => "characters in position " ++ toString index ++ "-" ++ toString (index + cs.length - 1)
    "failed to convert base64 data into ascii: 'ascii' codec can't encode " ++ place
      ++ ": ordinal not in range(128)"
  | lone count =>
    "failed to decode base64 data: Invalid base64-encoded string: number of data characters ("
      ++ toString count ++ ") cannot be 1 more than a multiple of 4"
  | unfilled => "failed to decode base64 data: Incorrect padding"

/-- Reads the characters of a text: `place` is the number of characters of the current group that
have been read, `left` their remainder, `pads` the number of signs that fill it up, and `groups`
the number of groups before. -/
def readFrom : (groups place left pads : Nat) → List Char → Except BadText (List UInt8)
  | groups, place, _, _, [] =>
    if place = 0 then .ok []
    else if place = 1 then .error (.lone (groups * 4 + 1))
    else .error .unfilled
  | groups, place, left, pads, c :: r =>
    if c = '=' then
      if 2 ≤ place ∧ 4 ≤ place + (pads + 1) then .ok []
      else readFrom groups place left (if 2 ≤ place then pads + 1 else pads) r
    else
      match sextet? c with
      | none => readFrom groups place left pads r
      | some v =>
        let byte (n : Nat) : UInt8 := UInt8.ofNat n
        if place = 0 then readFrom groups 1 v 0 r
        else if place = 1 then
          (readFrom groups 2 (v % 16) 0 r).map (byte (left * 4 + v / 16) :: ·)
        else if place = 2 then (readFrom groups 3 (v % 4) 0 r).map (byte (left * 16 + v / 4) :: ·)
        else (readFrom (groups + 1) 0 0 0 r).map (byte (left * 64 + v) :: ·)

/-- The bytes that a text stands for. -/
def read (cs : List Char) : Except BadText (List UInt8) :=
  let isPlain (c : Char) : Bool := c.toNat < 128
  let rest := cs.dropWhile isPlain
  if rest.isEmpty then readFrom 0 0 0 0 cs
  else .error (.foreign (cs.length - rest.length) (rest.takeWhile (!isPlain ·)))

end Muster.Yaml.Binary
