import Muster.Yaml.Page
import Muster.Yaml.Scalar
/-!
# Styles of scalars

A scalar is written plainly if it then reads as what it is, else in single quotes, and in double
quotes if it holds characters that have to be escaped.
-/

namespace Muster.Yaml

/-- How a scalar is written. -/
inductive Style where
  | plain
  | single
  | double
deriving Repr, DecidableEq

namespace Style

/-- A character that ends a word: white space or the end of the scalar. -/
def endsHere (c : Option Char) : Bool :=
  match c with
  | none => true
  | some c => c == '\x00' || c == ' ' || c == '\t' || isBreak c

/-- A character that may be written without an escape. -/
def isSimple (c : Char) : Bool :=
  c == '\n' || (' ' ≤ c && c ≤ '~')

/-- Whether a sign of the notation would be read within a scalar, after the given character. -/
def holdsSign : (before : Char) → List Char → Bool
  | _, [] => false
  | before, c :: r =>
    (c == ':' && endsHere r.head?) || (c == '#' && endsHere (some before)) || holdsSign c r

/-- Whether a scalar that is not empty begins with a sign of the notation. -/
def beginsWithSign : List Char → Bool
  | [] => false
  | c :: r =>
    oneOf "#,[]\x7b\x7d&*!|>'\"%@\x60" c || (oneOf "?:-" c && endsHere r.head?)

/-- Whether a scalar begins like the line between two documents. -/
def beginsDocument (cs : List Char) : Bool :=
  ['-', '-', '-'].isPrefixOf cs || ['.', '.', '.'].isPrefixOf cs

/-- Whether a scalar holds a sign of the notation at a place where it would be read as such. -/
def hasSign : List Char → Bool
  | [] => false
  | c :: r => beginsDocument (c :: r) || beginsWithSign (c :: r) || holdsSign c r

/-- Whether a scalar begins or ends with a space or a line break. -/
def hasLooseEnd (cs : List Char) : Bool :=
  let loose (c : Char) : Bool := c == ' ' || isBreak c
  cs.head?.any loose || cs.getLast?.any loose

/-- Whether one kind of character directly precedes another one. -/
def hasPair (p q : Char → Bool) : List Char → Bool
  | c :: d :: r => (p c && q d) || hasPair p q (d :: r)
  | _ => false

/-- The style of a scalar.  `readsBack` says whether it is read as what it is when it is written
plainly, and `isKey` whether it has to stand on one line. -/
def of (readsBack isKey : Bool) (cs : List Char) : Style :=
  let space (c : Char) : Bool := c == ' '
  let special := cs.any (!isSimple ·) || hasPair space isBreak cs
  let broken := cs.any isBreak
  let plain := !(special || broken || hasPair isBreak space cs || hasSign cs || hasLooseEnd cs)
  if plain && readsBack then .plain
  else if special || hasPair isBreak space cs || (isKey && broken) then .double
  else .single

end Style

/-- The next run of a scalar: some spaces, some line breaks, or other characters. -/
def takeRun : List Char → List Char × List Char
  | [] => ([], [])
  | c :: r =>
    if c == ' ' then (c :: r.takeWhile (· == ' '), r.dropWhile (· == ' '))
    else if isBreak c then (c :: r.takeWhile isBreak, r.dropWhile isBreak)
    else
      let other (d : Char) : Bool := d != ' ' && !isBreak d
      (c :: r.takeWhile other, r.dropWhile other)

theorem length_takeRun_lt (c : Char) (r : List Char) :
  (takeRun (c :: r)).2.length < (c :: r).length
  := by
  have drop (p : Char → Bool) : (r.dropWhile p).length ≤ r.length :=
    (List.dropWhile_suffix p).length_le
  simp only [takeRun]
  split
  · exact Nat.lt_succ_of_le (drop _)
  · split
    · exact Nat.lt_succ_of_le (drop _)
    · exact Nat.lt_succ_of_le (drop _)

/-- The runs of a scalar. -/
def runs : List Char → List (List Char)
  | [] => []
  | c :: r => (takeRun (c :: r)).1 :: runs (takeRun (c :: r)).2
termination_by cs => cs.length
decreasing_by exact length_takeRun_lt c r

namespace Page

/-- Writes the runs of a plain scalar; one space may give way to a new line. -/
def plainRuns (n : Nat) (split : Bool) : List (List Char) → Page → Page
  | [], p => p
  | run :: r, p =>
    if run == [' '] && width < p.column && split then
      plainRuns n split r { p.indent n with spaced := false, indented := false }
    else plainRuns n split r (p.put run)

/-- Writes a plain scalar. -/
def plain (n : Nat) (split : Bool) (cs : List Char) (p : Page) : Page :=
  if cs.isEmpty then p
  else
    let p := if p.spaced then p else p.put [' ']
    plainRuns n split (runs cs) { p with spaced := false, indented := false }

/-- Writes the runs of a scalar in single quotes.  A line break is written as an empty line, and a
single space inside the scalar may give way to a new line. -/
def singleRuns (n : Nat) (split : Bool) : (first : Bool) → List (List Char) → Page → Page
  | _, [], p => p
  | first, run :: r, p =>
    if run.any isBreak then
      let p := run.foldl (fun p _ => p.breakLine) p.breakLine
      singleRuns n split false r (p.indent n)
    else if run == [' '] && width < p.column && split && !first && !r.isEmpty then
      singleRuns n split false r (p.indent n)
    else
      singleRuns n split false r
        (p.put (run.flatMap fun c => if c == '\'' then ['\'', '\''] else [c]))

/-- Writes a scalar in single quotes. -/
def single (n : Nat) (split : Bool) (cs : List Char) (p : Page) : Page :=
  (singleRuns n split true (runs cs) (p.sign "'" true false)).sign "'" false false

/-- The escapes that are one character long. -/
def shortEscapes : List (Char × Char) :=
  [('\x00', '0'), ('\x07', 'a'), ('\x08', 'b'), ('\t', 't'), ('\n', 'n'), ('\x0b', 'v'),
    ('\x0c', 'f'), ('\r', 'r'), ('\x1b', 'e'), ('"', '"'), ('\\', '\\'), ('\x85', 'N'),
    ('\xa0', '_'), ('\u2028', 'L'), ('\u2029', 'P')]

/-- A number in hexadecimal capitals. -/
def hexCapitals (width n : Nat) : List Char :=
  (Text.hexDigits width n).map Char.toUpper

/-- The escape of a character inside double quotes, if it needs one. -/
def escape? (c : Char) : Option (List Char) :=
  match shortEscapes.lookup c with
  | some letter => some ['\\', letter]
  | none =>
    if ' ' ≤ c ∧ c ≤ '~' then none
    else
      let n := c.toNat
      some ('\\' :: (
        if n < 0x100 then 'x' :: hexCapitals 2 n
        else if n < 0x10000 then 'u' :: hexCapitals 4 n
        else 'U' :: hexCapitals 8 n))

/-- Writes the characters of a scalar in double quotes; `held` are characters, last first, that
are written with the next break or escape.  A line that is full ends in a backslash, and so does
the indentation after it begin with one before a space. -/
def doubleChars (n : Nat) (split : Bool) : (first : Bool) → (held : List Char) → List Char →
    Page → Page
  | _, held, [], p => p.put held.reverse
  | first, held, c :: r, p =>
    let inside := !first && !r.isEmpty && split
    let fold (p : Page) (next : Option Char) : Page :=
      let p := { p.indent n with spaced := false, indented := false }
      if next == some ' ' then p.put ['\\'] else p
    match escape? c with
    | some escape =>
      let p := (p.put held.reverse).put escape
      if inside && width + 1 < p.column then
        doubleChars n split false [] r (fold (p.put ['\\']) r.head?)
      else doubleChars n split false [] r p
    | none =>
      if inside && (c == ' ' || held.isEmpty) && width < p.column + held.length then
        doubleChars n split false [c] r (fold (p.put (held.reverse ++ ['\\'])) (some c))
      else doubleChars n split false (c :: held) r p

/-- Writes a scalar in double quotes. -/
def double (n : Nat) (split : Bool) (cs : List Char) (p : Page) : Page :=
  (doubleChars n split true [] cs (p.sign "\"" true false)).sign "\"" false false

/-- Writes a scalar in a style, indented by `n` where it goes on on a new line.  A key does not go
on on a new line. -/
def scalar (n : Nat) (isKey : Bool) (style : Style) (cs : List Char) (p : Page) : Page :=
  match style with
  | .plain => p.plain n (!isKey) cs
  | .single => p.single n (!isKey) cs
  | .double => p.double n (!isKey) cs

end Page

end Muster.Yaml
