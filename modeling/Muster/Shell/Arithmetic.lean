import Muster.Decimal.Numeral
import Muster.Shell.Name
import Muster.Table
/-!
# Arithmetic

The expressions of a shell, on whole numbers of 64 bits.  A name stands for the number that is
the value of its variable, and may be assigned to.
-/

namespace Muster.Shell.Arithmetic

/-- The number of 64 bits that a number comes to. -/
def wrap (n : Int) : Int :=
  Int.bmod n (twoTo 64)

/-- The greatest number of 64 bits. -/
def greatest : Nat := twoTo 63 - 1

/-- A part of an expression. -/
inductive Token where
  | number (n : Int)
  | name (s : String)
  | sign (s : String)
deriving Repr, DecidableEq

/-- The signs of expressions, longer ones first. -/
def signs : List String :=
  ["<<=", ">>=", "==", "!=", "<=", ">=", "&&", "||", "<<", ">>", "+=", "-=", "*=", "/=", "%=",
    "&=", "|=", "^=", "=", "+", "-", "*", "/", "%", "<", ">", "&", "|", "^", "!", "~", "(", ")",
    "?", ":"]

/-- The value of a digit in bases up to sixteen. -/
def digit? (base : Nat) (c : Char) : Option Nat :=
  let n := if c.isDigit then c.toNat - '0'.toNat
    else if 'a' ≤ c ∧ c ≤ 'f' then c.toNat - 'a'.toNat + 10
    else if 'A' ≤ c ∧ c ≤ 'F' then c.toNat - 'A'.toNat + 10
    else base
  if n < base then some n else none

/-- The number at the beginning of a text, and how many characters it takes.  A zero leads an
octal number, a zero and an x a hexadecimal one. -/
def leadingNumber (cs : List Char) : Nat × Nat :=
  let read (base skipped : Nat) : Nat × Nat :=
    let digits := (cs.drop skipped).takeWhile fun c => (digit? base c).isSome
    let n := digits.foldl (fun n c => n * base + (digit? base c).getD 0) 0
    (min n greatest, skipped + digits.length)
  match cs with
  | '0' :: x :: d :: _ =>
    if (x = 'x' ∨ x = 'X') ∧ (digit? 16 d).isSome then read 16 2 else read 8 0
  | '0' :: _ => read 8 0
  | _ => read 10 0

/-- Whether a character separates the parts of an expression. -/
def isSpace (c : Char) : Bool :=
  c == ' ' || c == '\t' || c == '\n'

/-- The parts of an expression. -/
def tokens : (fuel : Nat) → List Char → List Token
  | 0, _ => []
  | _, [] => []
  | n + 1, c :: r =>
    if isSpace c then tokens n r
    else if c.isDigit then
      let (value, width) := leadingNumber (c :: r)
      .number value :: tokens n ((c :: r).drop width)
    else if isNameChar c then
      let name := (c :: r).takeWhile isNameChar
      .name (String.ofList name) :: tokens n ((c :: r).drop name.length)
    else
      let sign := (signs.find? (·.toList.isPrefixOf (c :: r))).getD (String.singleton c)
      .sign sign :: tokens n ((c :: r).drop sign.length)

/-- The number that is written in a text, with white space around it. -/
def numberOf? (s : String) : Option Int :=
  let cs := Text.trimBy Decimal.isNumeralBlank s.toList
  if cs.isEmpty then some 0
  else
    let (negative, digits) := Decimal.takeSign cs
    let (n, width) := leadingNumber digits
    if width = 0 ∨ width < digits.length then none else some (Decimal.signed negative n)

/-- An evaluator: what is left of the expression, and the variables. -/
abbrev Eval := StateT (List Token × Table String) (Except String)

/-- The part that comes next. -/
def peek : Eval (Option Token) :=
  return (← get).1.head?

/-- Leaves a part behind. -/
def skip : Eval Unit :=
  modify fun s => (s.1.drop 1, s.2)

/-- Leaves a sign behind if it comes next. -/
def take (sign : String) : Eval Bool := do
  if (← peek) = some (.sign sign) then
    skip
    return true
  else return false

/-- The value of a variable. -/
def lookup (name : String) : Eval Int := do
  let text := ((← get).2.get? name).getD ""
  match numberOf? text with
  | some n => return wrap n
  | none => throw ("Illegal number: " ++ text)

/-- The rank of an operator between two numbers; the higher one binds stronger. -/
def rank? (sign : String) : Option Nat :=
  match sign with
  | "||" => some 1
  | "&&" => some 2
  | "|" => some 3
  | "^" => some 4
  | "&" => some 5
  | "==" | "!=" => some 6
  | "<" | ">" | "<=" | ">=" => some 7
  | "<<" | ">>" => some 8
  | "+" | "-" => some 9
  | "*" | "/" | "%" => some 10
  | _ => none

/-- The number of a truth value. -/
def ofBool (b : Bool) : Int :=
  if b then 1 else 0

/-- The bits of a number. -/
def bits (n : Int) : Nat :=
  (n % twoTo 64).toNat

/-- What an operator makes of two numbers. -/
def apply (complaint sign : String) (a b : Int) : Except String Int :=
  match sign with
  | "|" => .ok (wrap (bits a ||| bits b))
  | "^" => .ok (wrap (bits a ^^^ bits b))
  | "&" => .ok (wrap (bits a &&& bits b))
  | "==" => .ok (ofBool (a = b))
  | "!=" => .ok (ofBool (a ≠ b))
  | "<" => .ok (ofBool (a < b))
  | ">" => .ok (ofBool (a > b))
  | "<=" => .ok (ofBool (a ≤ b))
  | ">=" => .ok (ofBool (a ≥ b))
  | "<<" => .ok (wrap (a * twoTo (bits b % 64)))
  | ">>" => .ok (a.fdiv (twoTo (bits b % 64)))
  | "+" => .ok (wrap (a + b))
  | "-" => .ok (wrap (a - b))
  | "*" => .ok (wrap (a * b))
  | "/" => if b = 0 then .error complaint else .ok (wrap (a.tdiv b))
  | "%" => if b = 0 then .error complaint else .ok (wrap (a.tmod b))
  | "&&" => .ok (ofBool (a ≠ 0 ∧ b ≠ 0))
  | "||" => .ok (ofBool (a ≠ 0 ∨ b ≠ 0))
  | _ => .ok b

/-- The operators that assign, each with what it does first. -/
def assigning : List (String × String) :=
  [("=", "="), ("+=", "+"), ("-=", "-"), ("*=", "*"), ("/=", "/"), ("%=", "%"), ("&=", "&"),
    ("|=", "|"), ("^=", "^"), ("<<=", "<<"), (">>=", ">>")]

/-- A complaint about an expression. -/
def complaint (what expression : String) : String :=
  "arithmetic expression: " ++ what ++ ": \"" ++ expression ++ "\""

mutual

/-- Evaluates an assignment or a choice.  What is not `live` has no effect. -/
def assignment (source : String) : (fuel : Nat) → (live : Bool) → Eval Int
  | 0, _ => throw (complaint "expression too long" source)
  | n + 1, live => do
    match (← get).1 with
    | .name x :: .sign op :: _ =>
      match assigning.lookup op with
      | some first =>
        skip
        skip
        let b ← assignment source n live
        if live then
          let a ← if op = "=" then pure 0 else lookup x
          let value ← apply (complaint "division by zero" source) first a b
          modify fun s => (s.1, s.2.insert x (toString value))
          return value
        else return b
      | none => choice source n live
    | _ => choice source n live

/-- Evaluates a choice between two values. -/
def choice (source : String) : (fuel : Nat) → (live : Bool) → Eval Int
  | 0, _ => throw (complaint "expression too long" source)
  | n + 1, live => do
    let c ← binary source n 1 live
    if ← take "?" then
      let a ← assignment source n (live && c != 0)
      if ← take ":" then
        let b ← choice source n (live && c == 0)
        return if c ≠ 0 then a else b
      else throw (complaint "expecting ':'" source)
    else return c

/-- Evaluates operators of at least a rank. -/
def binary (source : String) : (fuel : Nat) → (least : Nat) → (live : Bool) → Eval Int
  | 0, _, _ => throw (complaint "expression too long" source)
  | n + 1, least, live => do
    let a ← unary source n live
    binaryAfter source n least live a

/-- Evaluates operators of at least a rank after their first number. -/
def binaryAfter (source : String) : (fuel : Nat) → (least : Nat) → (live : Bool) → Int → Eval Int
  | 0, _, _, _ => throw (complaint "expression too long" source)
  | n + 1, least, live, a => do
    match ← peek with
    | some (.sign op) =>
      match rank? op with
      | none => return a
      | some rank =>
        if rank < least then return a
        else
          skip
          let needed := if op = "&&" then a != 0 else if op = "||" then a == 0 else true
          let b ← binary source n (rank + 1) (live && needed)
          let value ← if live then apply (complaint "division by zero" source) op a b else pure a
          binaryAfter source n least live value
    | _ => return a

/-- Evaluates an operator before a number, or a number. -/
def unary (source : String) : (fuel : Nat) → (live : Bool) → Eval Int
  | 0, _ => throw (complaint "expression too long" source)
  | n + 1, live => do
    match ← peek with
    | some (.number k) => skip; return wrap k
    | some (.name x) =>
      skip
      if live then lookup x else return 0
    | some (.sign "(") =>
      skip
      let value ← assignment source n live
      if ← take ")" then return value else throw (complaint "expecting ')'" source)
    | some (.sign "!") => skip; return ofBool ((← unary source n live) = 0)
    | some (.sign "~") => skip; return -(← unary source n live) - 1
    | some (.sign "-") => skip; return wrap (-(← unary source n live))
    | some (.sign "+") => skip; unary source n live
    | _ => throw (complaint "expecting primary" source)

end

/-- Evaluates an expression with some variables. -/
def evaluate (vars : Table String) (expression : String) :
    Except String (Int × Table String) :=
  let ts := tokens expression.length expression.toList
  match (assignment expression (12 * ts.length + 16) true).run (ts, vars) with
  | .error e => .error e
  | .ok (value, [], vars) => .ok (value, vars)
  | .ok _ => .error (complaint "expecting EOF" expression)

end Muster.Shell.Arithmetic
