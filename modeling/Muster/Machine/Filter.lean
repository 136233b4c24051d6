import Muster.Shell.Arithmetic
import Muster.Shell.Pattern
import Muster.Text.Split
/-!
# Filters

Programs that read some texts and write what they make of them.
-/

namespace Muster.Filter

open Shell

/-- What a filter makes of its input: what it writes, its complaints, and its exit code. -/
structure Result where
  output : String := ""
  complaints : String := ""
  code : Nat := 0

/-- The lines of a text, each with its end. -/
def lines (s : String) : List String :=
  let parts := Text.split '\n' s
  let whole := parts.dropLast.map (· ++ "\n")
  match parts.getLast? with
  | some last => if last.isEmpty then whole else whole ++ [last]
  | none => whole

/-- The number that an option like `-n` gives, and the words after it. -/
def count (letters : List Char) (words : List String) : Option (Char × String) × List String :=
  match words with
  | [] => (none, [])
  | w :: r =>
    match w.toList with
    | '-' :: c :: rest =>
      if letters.contains c then
        if rest.isEmpty then (some (c, r.headD ""), r.drop 1)
        else (some (c, String.ofList rest), r)
      else if c.isDigit then (some ('n', String.ofList (c :: rest)), r)
      else (none, words)
    | _ => (none, words)

/-- The switches at the beginning of some words, and the words after them. -/
def switches (allowed : List Char) : List String → List Char × List String
  | [] => ([], [])
  | w :: r =>
    if w = "--" then ([], r)
    else
      match w.toList with
      | '-' :: c :: rest =>
        if (c :: rest).all allowed.contains then
          let (more, r) := switches allowed r
          (c :: rest ++ more, r)
        else ([], w :: r)
      | _ => ([], w :: r)

/-- The first lines or characters of a text.  A negative number tells how many are left out at
the end. -/
def head (unit : Char) (n : Int) (s : String) : String :=
  let amount (length : Nat) : Nat := if n < 0 then length - n.natAbs else n.toNat
  if unit = 'c' then String.ofList (s.toList.take (amount s.length))
  else String.join ((lines s).take (amount (lines s).length))

/-- The last lines or characters of a text, or those from a place on if it is counted from the
start. -/
def tail (unit : Char) (fromStart : Bool) (n : Nat) (s : String) : String :=
  let skipped (length : Nat) : Nat := if fromStart then n - 1 else length - n
  if unit = 'c' then String.ofList (s.toList.drop (skipped s.length))
  else String.join ((lines s).drop (skipped (lines s).length))

/-- The counts of lines, words and characters that are asked for. -/
def tally (switches : List Char) (s : String) : List Nat :=
  let cs := s.toList
  let blank (c : Char) : Bool := c == ' ' || ('\t' ≤ c && c ≤ '\r')
  let spread := String.ofList (cs.map fun c => if blank c then ' ' else c)
  let words := (Text.split ' ' spread).filter (· ≠ "")
  let all := switches.isEmpty
  (if all || switches.contains 'l' then [cs.count '\n'] else [])
    ++ (if all || switches.contains 'w' then [words.length] else [])
    ++ (if all || switches.contains 'c' || switches.contains 'm' then [cs.length] else [])

/-- Some numbers in columns. -/
def columns (width : Nat) (ns : List Nat) : String :=
  " ".intercalate (ns.map fun n =>
    let s := toString n
    String.ofList (List.replicate (width - s.length) ' ') ++ s)

/-- The characters of a set in which ranges and escapes may stand. -/
def characters : (fuel : Nat) → List Char → List Char
  | 0, _ | _, [] => []
  | n + 1, '\\' :: c :: r =>
    let d := match c with
      | 'n' => '\n'
      | 't' => '\t'
      | 'r' => '\r'
      | '0' => '\x00'
      | _ => c
    d :: characters n r
  | n + 1, '[' :: ':' :: r =>
    let name := r.takeWhile (· != ':')
    let known := (Glob.namedRanges (String.ofList name)).flatMap fun (a, b) =>
      (List.range (b.toNat + 1 - a.toNat)).map fun i => Char.ofNat (a.toNat + i)
    known ++ characters n (r.drop (name.length + 2))
  | n + 1, a :: '-' :: b :: r =>
    (List.range (b.toNat + 1 - a.toNat)).map (fun i => Char.ofNat (a.toNat + i)) ++ characters n r
  | n + 1, c :: r => c :: characters n r

/-- Leaves out repetitions of some characters. -/
def squeeze (set : List Char) : List Char → List Char
  | a :: b :: r =>
    if a = b ∧ set.contains a then squeeze set (b :: r) else a :: squeeze set (b :: r)
  | r => r

/-- Replaces, removes or squeezes characters. -/
def translate (switches : List Char) (sets : List String) (s : String) : String :=
  let set (i : Nat) : List Char :=
    let cs := ((sets[i]?).getD "").toList
    characters (cs.length + 1) cs
  let complement := switches.contains 'c' || switches.contains 'C'
  let isIn (c : Char) : Bool := (set 0).contains c != complement
  let cs := s.toList
  if switches.contains 'd' then
    let kept := cs.filter (!isIn ·)
    String.ofList (if switches.contains 's' then squeeze (set 1) kept else kept)
  else if sets.length < 2 then
    String.ofList (squeeze (set 0) cs)
  else
    let last := (set 1).getLast?.getD ' '
    let swap (c : Char) : Char :=
      if complement then (if isIn c then last else c)
      else
        match (set 0).findIdx? (· == c) with
        | some i => ((set 1)[i]?).getD last
        | none => c
    let swapped := cs.map swap
    String.ofList (if switches.contains 's' then squeeze (set 1) swapped else swapped)

/-- The parts of a regular expression of single characters, any of which may be repeated. -/
inductive Item where
  | one (g : Glob)
  | repeated (g : Glob)
deriving Repr, DecidableEq

/-- The items of a regular expression. -/
def items : (fuel : Nat) → List Char → List Item
  | 0, _ | _, [] => []
  | n + 1, cs =>
    let (g, r) : Glob × List Char := match cs with
      | '\\' :: c :: r => (.char c, r)
      | '.' :: r => (.any, r)
      | '[' :: r =>
        let negated := r.head? = some '^'
        let inner := (if negated then r.drop 1 else r).map fun c => (c, false)
        match Glob.ranges inner.length true 0 inner with
        | some (rs, width) => (.range negated rs, (inner.drop width).map (·.1))
        | none => (.char '[', r)
      | c :: r => (.char c, r)
      | [] => (.any, [])
    match r with
    | '*' :: r => .repeated g :: items n r
    | _ => .one g :: items n r

/-- Whether a character fits a part of a pattern. -/
def fits (g : Glob) (c : Char) : Bool :=
  Glob.matches [g] [c]

/-- Whether a text begins with, or if it has to end there is, what a regular expression
describes. -/
def begins (anchored : Bool) : List Item → List Char → Bool
  | [], cs => !anchored || cs.isEmpty
  | .one g :: r, c :: cs => fits g c && begins anchored r cs
  | .one _ :: _, [] => false
  | .repeated g :: r, c :: cs =>
    begins anchored r (c :: cs) || (fits g c && begins anchored (.repeated g :: r) cs)
  | .repeated _ :: r, [] => begins anchored r []
termination_by is cs => (is.length, cs.length)

/-- Whether a regular expression describes a part of a text. -/
def found (fixed : Bool) (pattern : String) (line : List Char) : Bool :=
  let starts := (List.range (line.length + 1)).map line.drop
  if fixed then starts.any (pattern.toList.isPrefixOf ·)
  else
    let cs := pattern.toList
    let atStart := cs.head? = some '^'
    let cs := if atStart then cs.drop 1 else cs
    let atEnd := cs.getLast? = some '$' && cs.dropLast.getLast? ≠ some '\\'
    let cs := if atEnd then cs.dropLast else cs
    let is := items cs.length cs
    if atStart then begins atEnd is line else starts.any (begins atEnd is)

/-- The lines of some texts that a pattern describes, each with the name of its text in front if
names are wanted. -/
def grep (switches : List Char) (pattern : String) (texts : List (String × String)) : Result :=
  let ignore := switches.contains 'i'
  let fold (s : String) : String := if ignore then s.map Char.toLower else s
  let fixed := switches.contains 'F'
  let hit (line : String) : Bool :=
    let bare := if line.endsWith "\n" then line.toList.dropLast else line.toList
    let bare := (fold (String.ofList bare)).toList
    let matched := if switches.contains 'x' then
        (if fixed then (fold pattern).toList == bare
          else begins true (items pattern.length (fold pattern).toList) bare)
      else found fixed (fold pattern) bare
    matched != switches.contains 'v'
  let named := texts.length > 1 && !switches.contains 'h'
  let lead (name : String) : String := if named then name ++ ":" else ""
  let results := texts.map fun (name, s) => (name, (lines s).filter hit)
  let code := if results.all (·.2.isEmpty) then 1 else 0
  if switches.contains 'q' then { code }
  else if switches.contains 'c' then
    { output := String.join (results.map fun (name, ls) => lead name ++ toString ls.length ++ "\n")
      code }
  else if switches.contains 'l' then
    let found := results.filter (!·.2.isEmpty)
    { output := String.join (found.map fun (name, _) => name ++ "\n"), code }
  else
    let ended (l : String) : String := if l.endsWith "\n" then l else l ++ "\n"
    { output := String.join (results.flatMap fun (name, ls) => ls.map fun l => lead name ++ ended l)
      code }

/-- The lines of a text in order. -/
def sort (switches : List Char) (s : String) : String :=
  let ls := (lines s).map fun l => if l.endsWith "\n" then String.ofList l.toList.dropLast else l
  let numeric (l : String) : Int :=
    let (negative, digits) := Decimal.takeSign (l.toList.dropWhile Arithmetic.isSpace)
    Decimal.signed negative (Arithmetic.leadingNumber (digits.dropWhile (· == '0'))).1
  let before (a b : String) : Bool :=
    if switches.contains 'n' && numeric a != numeric b then numeric a ≤ numeric b else a ≤ b
  let sorted := ls.mergeSort before
  let sorted := if switches.contains 'r' then sorted.reverse else sorted
  let sorted := if switches.contains 'u' then sorted.eraseDups else sorted
  String.join (sorted.map (· ++ "\n"))

end Muster.Filter
