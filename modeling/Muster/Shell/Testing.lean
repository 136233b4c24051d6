import Muster.Shell.Arithmetic
/-!
# Conditions

The conditions that a shell can test: about texts, numbers and files.
-/

namespace Muster.Shell

/-- What a file is. -/
inductive FileKind where
  | missing
  | file (empty : Bool)
  | directory
  | device
deriving Repr, DecidableEq

namespace Testing

/-- What a condition is tested with: what the files are. -/
structure Surroundings where
  kind : String → FileKind

/-- The operators with an operand after them. -/
def prefixOps : List String :=
  ["-n", "-z", "-e", "-f", "-d", "-s", "-r", "-w", "-x", "-t", "-L", "-h", "-p", "-S", "-b", "-c"]

/-- The operators between two operands. -/
def middleOps : List String :=
  ["=", "==", "!=", "<", ">", "-eq", "-ne", "-lt", "-le", "-gt", "-ge", "-nt", "-ot", "-ef"]

/-- A number as an operand. -/
def number (s : String) : Except String Int :=
  match Arithmetic.numberOf? s with
  | some n =>
    if (s.toList.filter Char.isDigit).isEmpty then .error ("Illegal number: " ++ s) else .ok n
  | none => .error ("Illegal number: " ++ s)

/-- Tests an operator with an operand after it. -/
def testPrefix (w : Surroundings) (op operand : String) : Bool :=
  let kind := w.kind operand
  match op with
  | "-n" => !operand.isEmpty
  | "-z" => operand.isEmpty
  | "-e" | "-r" | "-w" => kind != .missing
  | "-x" | "-d" => kind == .directory
  | "-f" => kind == .file true || kind == .file false
  | "-s" => kind == .file false || kind == .directory
  | "-c" => kind == .device
  | _ => false

/-- Tests an operator between two operands. -/
def testMiddle (w : Surroundings) (op a b : String) : Except String Bool :=
  let compare (f : Int → Int → Bool) : Except String Bool := do
    let m ← number a
    let n ← number b
    return f m n
  match op with
  | "=" | "==" => .ok (a == b)
  | "!=" => .ok (a != b)
  | "<" => .ok (decide (a < b))
  | ">" => .ok (decide (b < a))
  | "-eq" => compare (· == ·)
  | "-ne" => compare (· != ·)
  | "-lt" => compare fun m n => decide (m < n)
  | "-le" => compare fun m n => decide (m ≤ n)
  | "-gt" => compare fun m n => decide (m > n)
  | "-ge" => compare fun m n => decide (m ≥ n)
  | "-ef" => .ok (a == b && w.kind a != .missing)
  | _ => .ok false

mutual

/-- Tests alternatives, and gives the words that are left. -/
def anyOf (w : Surroundings) : (fuel : Nat) → List String → Except String (Bool × List String)
  | 0, _ => .error "too many arguments"
  | n + 1, words => do
    let (a, rest) ← allOf w n words
    match rest with
    | "-o" :: r =>
      let (b, rest) ← anyOf w n r
      return (a || b, rest)
    | _ => return (a, rest)

/-- Tests conditions that have to hold together. -/
def allOf (w : Surroundings) : (fuel : Nat) → List String → Except String (Bool × List String)
  | 0, _ => .error "too many arguments"
  | n + 1, words => do
    let (a, rest) ← one w n words
    match rest with
    | "-a" :: r =>
      let (b, rest) ← allOf w n r
      return (a && b, rest)
    | _ => return (a, rest)

/-- Tests a single condition. -/
def one (w : Surroundings) : (fuel : Nat) → List String → Except String (Bool × List String)
  | 0, _ => .error "too many arguments"
  | n + 1, words =>
    match words with
    | a :: op :: b :: r =>
      if middleOps.contains op then (testMiddle w op a b).map fun v => (v, r)
      else shorter w n words
    | _ => shorter w n words

/-- Tests a single condition that has no operator between operands. -/
def shorter (w : Surroundings) : (fuel : Nat) → List String → Except String (Bool × List String)
  | 0, _ => .error "too many arguments"
  | n + 1, words =>
    match words with
    | [] => .error "argument expected"
    | "!" :: r =>
      if r.isEmpty then .ok (true, []) else (one w n r).map fun (v, rest) => (!v, rest)
    | "(" :: r => do
      let (v, rest) ← anyOf w n r
      match rest with
      | ")" :: rest => return (v, rest)
      | _ => .error "closing paren expected"
    | [a] => .ok (!a.isEmpty, [])
    | [op, a] =>
      if prefixOps.contains op then .ok (testPrefix w op a, [])
      else if middleOps.contains a then .error (a ++ ": argument expected")
      else .ok (!op.isEmpty, [a])
    | op :: a :: r =>
      if prefixOps.contains op then .ok (testPrefix w op a, r) else .ok (!op.isEmpty, a :: r)

end

/-- Tests a condition given by words; without any it does not hold. -/
def test (w : Surroundings) (words : List String) : Except String Bool :=
  match words with
  | [] => .ok false
  | [a] => .ok (!a.isEmpty)
  | _ =>
    match anyOf w (6 * words.length + 8) words with
    | .error e => .error e
    | .ok (v, []) => .ok v
    | .ok (_, rest) =>
      .error ((words[words.length - rest.length - 1]?).getD "" ++ ": unexpected operator")

end Testing

end Muster.Shell
