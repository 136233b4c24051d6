import Muster.Text.Digit
import Muster.Yaml.Token.Plain
import Muster.Yaml.Trouble
/-!
# Quoted scalars

In single quotes a quote is written twice and everything else stands for itself.  In double
quotes a backslash starts an escape.  In both, white space around the end of a line is folded.
-/

namespace Muster.Yaml.Token.Quoted

/-- The refusal of a quoted scalar. -/
def refusal (start : Mark) (problem : Problem) (c : Cursor) : Refusal :=
  .during (.scanning "a quoted scalar") start problem c.mark

/-- The refusal of an escape in double quotes. -/
def escapeRefusal (start : Mark) (problem : Problem) (c : Cursor) : Refusal :=
  .during (.scanning "a double-quoted scalar") start problem c.mark

/-- The character that an escape of one letter stands for. -/
def simpleEscape? (c : Char) : Option Char :=
  match c with
  | '0' => some '\x00'
  | 'a' => some '\x07'
  | 'b' => some '\x08'
  | 't' => some '\t'
  | '\t' => some '\t'
  | 'n' => some '\n'
  | 'v' => some '\x0B'
  | 'f' => some '\x0C'
  | 'r' => some '\r'
  | 'e' => some '\x1B'
  | ' ' => some ' '
  | '"' => some '"'
  | '\\' => some '\\'
  | '/' => some '/'
  | 'N' => some '\x85'
  | '_' => some '\xA0'
  | 'L' => some '\u2028'
  | 'P' => some '\u2029'
  | _ => none

/-- The number of hexadecimal digits after the letter of a numeric escape. -/
def escapeWidth? (c : Char) : Option Nat :=
  match c with
  | 'x' => some 2
  | 'u' => some 4
  | 'U' => some 8
  | _ => none

/-- The character with a code.  A code beyond the last character is a bad value, and one beyond
a machine word is out of range altogether. -/
def charOfCode (n : Nat) : Except Refusal Char :=
  if n ≤ 0x10FFFF then .ok (Char.ofNat n)
  else if n < twoTo 31 then .error (.fault .badValue)
  else .error (.fault .overflow)

/-- Reads the hexadecimal digits of a numeric escape. -/
def takeCode (start : Mark) (width : Nat) (c : Cursor) : Except Refusal (Char × Cursor) :=
  let digits := (c.rest.take width).takeWhile fun d => (Text.hexValue? d).isSome
  if digits.length = width then do
    let a ← charOfCode (digits.foldl (fun n d => n * 16 + (Text.hexValue? d).getD 0) 0)
    return (a, c.skip width)
  else
    let wanted := "escape sequence of " ++ toString width ++ " hexadecimal numbers"
    .error (escapeRefusal start (.unexpectedChar wanted (c.peekAt digits.length)) c)

/-- Takes the empty lines after the end of a line inside quotes, and the breaks among them.  The
mark of a document may not stand inside quotes. -/
def takeBreaks (start : Mark) :
    (fuel : Nat) → Cursor → List Char → Except Refusal (List Char × Cursor)
  | 0, c, _ => .error (refusal start .unclosedQuote c)
  | fuel + 1, c, breaks =>
    if c.atDocumentMark then .error (refusal start .documentMarkInQuotes c)
    else
      let c := (c.takeWhile fun a => a == ' ' || a == '\t').2
      match c.takeBreak? with
      | some (b, c) => takeBreaks start fuel c (breaks ++ [b])
      | none => .ok (breaks, c)

/-- A character that a run of text inside quotes goes on over. -/
def isRunChar (c : Char) : Bool :=
  !(c == '\'' || c == '"' || c == '\\' || c == ' ' || c == '\t' || isBreak c)

/-- Reads a quoted scalar after its opening quote; the result starts after the closing one. -/
def readFrom (start : Mark) (double : Bool) :
    (fuel : Nat) → Cursor → (acc : List Char) → Except Refusal (List Char × Cursor)
  | 0, c, _ => .error (refusal start .unclosedQuote c)
  | fuel + 1, c, acc =>
    match c.peek with
    | none => .error (refusal start .unclosedQuote c)
    | some a =>
      if isRunChar a then
        let (run, c) := c.takeWhile isRunChar
        readFrom start double fuel c (acc ++ run)
      else if a == (if double then '"' else '\'') then
        if !double && c.peekAt 1 == some '\'' then
          readFrom start double fuel (c.skip 2) (acc ++ ['\''])
        else .ok (acc, c.next)
      else if a == '\\' && double then
        let c := c.next
        match c.peek with
        | none => .error (escapeRefusal start (.unknownEscape none) c)
        | some e =>
          match simpleEscape? e, escapeWidth? e with
          | some b, _ => readFrom start double fuel c.next (acc ++ [b])
          | none, some width => do
            let (b, c) ← takeCode start width c.next
            readFrom start double fuel c (acc ++ [b])
          | none, none =>
            match c.takeBreak? with
            | some (_, c) => do
              let (breaks, c) ← takeBreaks start c.rest.length.succ c []
              readFrom start double fuel c (acc ++ breaks)
            | none => .error (escapeRefusal start (.unknownEscape (some e)) c)
      else if a == ' ' || a == '\t' || isBreak a then
        let (spaces, c) := c.takeWhile fun a => a == ' ' || a == '\t'
        match c.takeBreak? with
        | some (first, c) => do
          let (breaks, c) ← takeBreaks start c.rest.length.succ c []
          readFrom start double fuel c (acc ++ Plain.foldBreaks first breaks)
        | none =>
          if c.peek.isNone then .error (refusal start .unclosedQuote c)
          else readFrom start double fuel c (acc ++ spaces)
      else readFrom start double fuel c.next (acc ++ [a])

/-- Reads a quoted scalar at its opening quote. -/
def read (c : Cursor) : Except Refusal (List Char × Cursor) :=
  readFrom c.mark (c.peek == some '"') c.rest.length.succ c.next []

end Muster.Yaml.Token.Quoted
