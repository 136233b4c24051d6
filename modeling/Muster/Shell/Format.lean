import Muster.Decimal.Double
import Muster.Shell.Arithmetic
/-!
# Escapes and formats

How a text with escapes is written out, and how a format with directives is filled with
arguments.  A format is used again as long as arguments are left.
-/

namespace Muster.Shell.Format

/-- Where escapes stand: in a format, or in a text of their own, in which `\c` ends everything and
an octal number may have a zero in front. -/
inductive Setting where
  | format
  | text
deriving Repr, DecidableEq

/-- The number of some octal digits, and how many there are, at most `n`. -/
def octal (n : Nat) (cs : List Char) : Nat × Nat :=
  let ds := (cs.take n).takeWhile fun c => '0' ≤ c && c ≤ '7'
  (ds.foldl (fun k d => k * 8 + (d.toNat - '0'.toNat)) 0, ds.length)

/-- What a letter after a backslash stands for. -/
def letter? (c : Char) : Option Char :=
  match c with
  | 'a' => some '\x07'
  | 'b' => some '\x08'
  | 'e' => some '\x1b'
  | 'f' => some '\x0c'
  | 'n' => some '\n'
  | 'r' => some '\r'
  | 't' => some '\t'
  | 'v' => some '\x0b'
  | '\\' => some '\\'
  | _ => none

/-- What the characters after a backslash stand for, and how many of them belong to it. -/
def escape (setting : Setting) (cs : List Char) : List Char × Nat :=
  let byte (n : Nat) : Char := Char.ofNat (n % 256)
  match cs with
  | [] => (['\\'], 0)
  | c :: r =>
    match letter? c with
    | some d => ([d], 1)
    | none =>
      if c = '0' ∧ setting = .text then
        let (n, width) := octal 3 r
        ([byte n], width + 1)
      else if '0' ≤ c ∧ c ≤ '7' then
        let (n, width) := octal 3 (c :: r)
        ([byte n], width)
      else if c = '"' ∧ setting = .format then (['"'], 1)
      else (['\\', c], 1)

/-- Characters with the escapes among the first `fuel` of them written out, and whether one of these
ends everything. -/
def unescape : (fuel : Nat) → List Char → List Char × Bool
  | 0, cs => (cs, false)
  | _, [] => ([], false)
  | n + 1, '\\' :: r =>
    if r.head? = some 'c' then ([], true)
    else
      let (cs, width) := escape .text r
      let (rest, ends) := unescape n (r.drop width)
      (cs ++ rest, ends)
  | n + 1, c :: r =>
    let (rest, ends) := unescape n r
    (c :: rest, ends)

/-- A text with its escapes written out, and whether it ends everything. -/
def unescaped (s : String) : String × Bool :=
  let (cs, ends) := unescape s.length s.toList
  (String.ofList cs, ends)

/-- What is written by words that are echoed with their escapes written out. -/
def echo (words : List String) : String :=
  let (bare, words) := match words with
    | "-n" :: r => (true, r)
    | _ => (false, words)
  let (s, ends) := unescaped (" ".intercalate words)
  if bare || ends then s else s ++ "\n"

/-- A directive of a format. -/
structure Directive where
  flags : List Char := []
  width : Option Int := none
  precision : Option Int := none
  kind : Char

/-- What filling a format has come to so far. -/
structure Filling where
  output : List Char := []
  complaints : List String := []
  arguments : List String
  ends : Bool := false

namespace Filling

/-- A filling with more output. -/
def write (f : Filling) (cs : List Char) : Filling :=
  { f with output := f.output ++ cs }

/-- A filling with a complaint more. -/
def complain (f : Filling) (message : String) : Filling :=
  { f with complaints := f.complaints ++ [message] }

/-- The next argument. -/
def next (f : Filling) : Option String × Filling :=
  match f.arguments with
  | [] => (none, f)
  | a :: r => (some a, { f with arguments := r })

end Filling

/-- The number that an argument gives, and what is wrong with it. -/
def numberOf (argument : String) : Int × Option String :=
  match argument.toList with
  | '\'' :: c :: _ | '"' :: c :: _ => (c.toNat, none)
  | _ =>
    let cs := argument.toList.dropWhile Arithmetic.isSpace
    let (negative, digits) := Decimal.takeSign cs
    let (n, width) := Arithmetic.leadingNumber digits
    let value := Decimal.signed negative n
    let fault := if argument.isEmpty then none
      else if width = 0 then some (argument ++ ": expected numeric value")
      else if width < digits.length then some (argument ++ ": not completely converted")
      else none
    (value, fault)

/-- Some characters filled up to a width. -/
def padded (d : Directive) (cs : List Char) : List Char :=
  let left := d.flags.contains '-' || d.width.any (· < 0)
  let room := (d.width.getD 0).natAbs - cs.length
  if left then cs ++ List.replicate room ' ' else List.replicate room ' ' ++ cs

/-- A number given by its sign and digits, filled up to a width. -/
def paddedNumber (d : Directive) (mark : List Char) (digits : List Char) (whole : Bool) :
    List Char :=
  let digits := match d.precision with
    | some p =>
      if whole then List.replicate (p.toNat - digits.length) '0' ++ digits else digits
    | none => digits
  let zeros := d.flags.contains '0' && !d.flags.contains '-' && (d.precision.isNone || !whole)
  let room := (d.width.getD 0).toNat - mark.length - digits.length
  if zeros then mark ++ List.replicate room '0' ++ digits else padded d (mark ++ digits)

/-- What stands before the digits of a number. -/
def markOf (d : Directive) (negative : Bool) : List Char :=
  if negative then ['-']
  else if d.flags.contains '+' then ['+']
  else if d.flags.contains ' ' then [' ']
  else []

/-- The digits of a double with a fixed number of decimal places. -/
def fixedDigits (places : Nat) (x : Decimal.Dyadic) : List Char :=
  let num := x.mantissa * tenTo places * twoTo x.exponent.toNat
  let n := Decimal.roundHalfEven num (twoTo (-x.exponent).toNat)
  let ds := Nat.toDigits 10 n
  let ds := List.replicate (places + 1 - ds.length) '0' ++ ds
  let whole := ds.take (ds.length - places)
  if places = 0 then whole else whole ++ '.' :: ds.drop (ds.length - places)

/-- The text of a double with a fixed number of decimal places. -/
def fixedText (d : Directive) (x : Float) : List Char :=
  match Decimal.parts x with
  | .nan => padded d (markOf d false ++ ['n', 'a', 'n'])
  | .infinite negative => padded d (markOf d negative ++ ['i', 'n', 'f'])
  | .finite negative size =>
    paddedNumber d (markOf d negative) (fixedDigits ((d.precision.getD 6).toNat) size) false

/-- Carries out a directive. -/
def fill (d : Directive) (f : Filling) : Filling :=
  let clipped (cs : List Char) : List Char := match d.precision with
    | some p => if p < 0 then cs else cs.take p.toNat
    | none => cs
  let (argument, f) := f.next
  let argument := argument.getD ""
  let number (f : Filling) : Int × Filling :=
    let (n, fault) := numberOf argument
    (n, fault.elim f f.complain)
  let natural (base : Nat) (upper : Bool) (lead : List Char) : Filling :=
    let (n, f) := number f
    let ds := Nat.toDigits base (Arithmetic.bits n)
    let ds := if upper then ds.map Char.toUpper else ds
    f.write (paddedNumber d (if d.flags.contains '#' && n != 0 then lead else []) ds true)
  match d.kind with
  | 's' => f.write (padded d (clipped argument.toList))
  | 'c' => f.write (padded d (argument.toList.take 1))
  | 'b' =>
    let (s, ends) := unescaped argument
    { f.write (padded d (clipped s.toList)) with ends }
  | 'd' | 'i' =>
    let (n, f) := number f
    f.write (paddedNumber d (markOf d (n < 0)) (Nat.toDigits 10 n.natAbs) true)
  | 'u' => natural 10 false []
  | 'o' => natural 8 false ['0']
  | 'x' => natural 16 false ['0', 'x']
  | 'X' => natural 16 true ['0', 'X']
  | _ =>
    let x := if argument.isEmpty then some 0 else Decimal.floatOfText? argument
    let f := if x.isNone then f.complain (argument ++ ": expected numeric value") else f
    f.write (fixedText d (x.getD 0))

/-- The directives that there are. -/
def kinds : List Char := ['s', 'c', 'b', 'd', 'i', 'u', 'o', 'x', 'X', 'f', 'F']

/-- The width or the precision at the beginning of some characters: a number or the next
argument. -/
def measure (cs : List Char) (f : Filling) : Option Int × List Char × Filling :=
  match cs with
  | '*' :: r =>
    let (argument, f) := f.next
    (some (numberOf (argument.getD "")).1, r, f)
  | _ =>
    let ds := cs.takeWhile Char.isDigit
    (if ds.isEmpty then none else ((String.ofList ds).toNat?).map Int.ofNat, cs.drop ds.length, f)

/-- Goes through a format once. -/
def pass : (fuel : Nat) → List Char → Filling → Except String Filling
  | 0, _, f | _, [], f => .ok f
  | n + 1, '%' :: '%' :: r, f => pass n r (f.write ['%'])
  | n + 1, '%' :: r, f =>
    let flags := r.takeWhile fun c => ['-', '+', ' ', '#', '0'].contains c
    let (width, rest, f) := measure (r.drop flags.length) f
    let (precision, rest, f) := match rest with
      | '.' :: r =>
        let (p, r, f) := measure r f
        (some (p.getD 0), r, f)
      | _ => (none, rest, f)
    match rest with
    | [] => .error "%"
    | kind :: rest' =>
      if kinds.contains kind then
        let f := fill { flags, width, precision, kind } f
        if f.ends then .ok f else pass n rest' f
      else .error (String.ofList ('%' :: r.take (r.length - rest'.length)))
  | n + 1, '\\' :: r, f =>
    let (cs, width) := escape .format r
    pass n (r.drop width) (f.write cs)
  | n + 1, c :: r, f => pass n r (f.write [c])

/-- Goes through a format until no arguments are left. -/
def passes (format : List Char) : (fuel : Nat) → Filling → Except String Filling
  | 0, f => .ok f
  | n + 1, f =>
    match pass (format.length + 1) format f with
    | .error e => .error e
    | .ok g =>
      if g.ends || g.arguments.isEmpty || g.arguments.length = f.arguments.length then .ok g
      else passes format n g

/-- What is written by a format with some arguments, and the complaints about them; or the
directive that there is not. -/
def printf (format : String) (arguments : List String) : Except String (String × List String) :=
  (passes format.toList (arguments.length + 1) { arguments }).map fun f =>
    (String.ofList f.output, f.complaints)

end Muster.Shell.Format
