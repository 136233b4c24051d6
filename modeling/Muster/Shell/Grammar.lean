import Muster.Shell.Source
/-!
# The grammar of scripts

A script is read one complete command at a time: a list of commands up to the end of a line, of
which each may be put together from others.
-/

namespace Muster.Shell.Reader

/-- The words that close a part of a compound command, or separate its parts. -/
def closers : List String :=
  ["then", "else", "elif", "fi", "do", "done", "esac", "\x7d"]

/-- Complains about what comes next. -/
def unexpected {α : Type} (expecting : String) : Reader α := do
  let tail := if expecting.isEmpty then "" else " (expecting " ++ expecting ++ ")"
  match ← peek with
  | none => fail ("end of file unexpected" ++ tail)
  | some "\n" => fail ("newline unexpected" ++ tail)
  | some t =>
    if operators.contains t then
      if t.startsWith "<" || t.startsWith ">" then fail ("redirection unexpected" ++ tail)
      else fail ("\"" ++ t ++ "\" unexpected" ++ tail)
    else
      let name ← peekName
      if closers.contains name then fail ("\"" ++ name ++ "\" unexpected" ++ tail)
      else fail ("word unexpected" ++ tail)

/-- Leaves an operator behind, which has to come next. -/
def expectOperator (operator : String) : Reader Unit := do
  if (← peek) = some operator then skip operator.length
  else unexpected ("\"" ++ operator ++ "\"")

/-- Leaves a word of the grammar behind, which has to come next. -/
def expectName (name : String) : Reader Unit := do
  if (← peekName) = name then skip name.length else unexpected ("\"" ++ name ++ "\"")

/-- Leaves a word of the grammar behind if it comes next. -/
def takeName (name : String) : Reader Bool := do
  if (← peekName) = name then
    skip name.length
    return true
  else return false

/-- Leaves ends of lines behind. -/
def skipLines : (fuel : Nat) → Reader Unit
  | 0 => pure ()
  | n + 1 => do
    if (← peek) = some "\n" then
      skip 1
      skipLines n

/-- Whether nothing of a list of commands comes next. -/
def atCloser : Reader Bool := do
  match ← peek with
  | none | some ")" | some ";;" => return true
  | _ => return closers.contains (← peekName)

/-- The lines of a text in the script up to its mark, and what comes after. -/
def untilMark (mark : List Char) (stripped : Bool) : (fuel : Nat) → List Char →
    List Char × List Char
  | 0, cs => (cs, [])
  | _, [] => ([], [])
  | n + 1, cs =>
    let line := cs.takeWhile (· != '\n')
    let rest := cs.drop (line.length + 1)
    let line := if stripped then line.dropWhile (· == '\t') else line
    if line = mark then ([], rest)
    else
      let (body, rest) := untilMark mark stripped n rest
      (line ++ '\n' :: body, rest)

/-- Takes the text that begins after the current line out of the script. -/
def takeHere (mark : String) (stripped : Bool) : Reader String := do
  let s ← get
  let line := s.left.takeWhile (· != '\n')
  let (body, rest) := untilMark mark.toList stripped s.left.length (s.left.drop (line.length + 1))
  set ({ s with left := line ++ '\n' :: rest } : Source)
  return String.ofList body

/-- The text of a word without its quotes. -/
def plainText : Word → String
  | [] => ""
  | .text _ s :: r => s ++ plainText r
  | _ :: r => plainText r

/-- Whether any part of a word is quoted. -/
def hasQuotes (w : Word) : Bool :=
  w.any fun
    | .text q _ => q
    | _ => false

/-- Reads a redirection of a descriptor after its operator. -/
def readRedirect (descriptor : Option Nat) (operator : String) : Reader Redirect := do
  let _ ← peek
  let word ← readWord
  if word.isEmpty then unexpected ""
  else
    match operator with
    | "<" => return ⟨descriptor.getD 0, .read word⟩
    | ">" | ">|" => return ⟨descriptor.getD 1, .write word⟩
    | ">>" => return ⟨descriptor.getD 1, .append word⟩
    | "<>" => return ⟨descriptor.getD 0, .append word⟩
    | "<&" => return ⟨descriptor.getD 0, .duplicate word⟩
    | ">&" => return ⟨descriptor.getD 1, .duplicate word⟩
    | _ =>
      let body ← takeHere (plainText word) (operator = "<<-")
      let text := if hasQuotes word then [.text true body] else Word.ofText body
      return ⟨descriptor.getD 0, .here text⟩

/-- The operators of redirections. -/
def redirections : List String := ["<<-", "<<", ">>", "<&", ">&", ">|", "<>", "<", ">"]

/-- Reads a redirection if one comes next. -/
def readRedirect? : Reader (Option Redirect) := do
  let _ ← peek
  let digits := (← get).left.takeWhile Char.isDigit
  let rest := (← get).left.drop digits.length
  match redirections.find? (·.toList.isPrefixOf rest) with
  | none => return none
  | some operator =>
    let descriptor := if digits.isEmpty then none else (String.ofList digits).toNat?
    skip (digits.length + operator.length)
    return some (← readRedirect descriptor operator)

/-- Reads all redirections that come next. -/
def readRedirects : (fuel : Nat) → Reader (List Redirect)
  | 0 => return []
  | n + 1 => do
    match ← readRedirect? with
    | none => return []
    | some r => return r :: (← readRedirects n)

/-- The name of the variable that is assigned to by the word that comes next. -/
def peekAssignment : Reader (Option String) := do
  let _ ← peek
  let left := (← get).left
  let name := left.takeWhile isNameChar
  if isName name && (left.drop name.length).head? = some '=' then
    return some (String.ofList name)
  else return none

/-- Whether a word comes next. -/
def atWord : Reader Bool := do
  match ← peek with
  | none => return false
  | some t => return !operators.contains t

/-- Reads words up to the end of the command. -/
def readWords : (fuel : Nat) → Reader (List Word)
  | 0 => return []
  | n + 1 => do
    if ← atWord then
      let w ← readWord
      return w :: (← readWords n)
    else return []

/-- Reads the parts of a simple command: assignments, words and redirections. -/
def readSimple : (fuel : Nat) → List (String × Word) → List Word → List Redirect →
    Reader (List (String × Word) × List Word × List Redirect)
  | 0, as, ws, rs => return (as.reverse, ws.reverse, rs.reverse)
  | n + 1, as, ws, rs => do
    match ← readRedirect? with
    | some r => readSimple n as ws (r :: rs)
    | none =>
      if ← atWord then
        match ← (if ws.isEmpty then peekAssignment else pure none) with
        | some name =>
          skip (name.length + 1)
          readSimple n ((name, ← readWord) :: as) ws rs
        | none => readSimple n as ((← readWord) :: ws) rs
      else return (as.reverse, ws.reverse, rs.reverse)

/-- Reads the patterns of a part of a choice by pattern. -/
def readPatterns : (fuel : Nat) → Reader (List Word)
  | 0 => return []
  | n + 1 => do
    let _ ← peek
    let w ← readWord
    if (← peek) = some "|" then
      skip 1
      return w :: (← readPatterns n)
    else return [w]

/-- The name of the function that is defined by what comes next. -/
def peekFunction : Reader (Option String) := do
  let name ← peekName
  let rest := (← get).left.drop name.length
  let rest := rest.drop (blanks rest)
  match rest with
  | '(' :: r =>
    if isName name.toList && (r.drop (blanks r)).head? = some ')' then return some name
    else return none
  | _ => return none

mutual

/-- Reads a list of commands; at the top it ends with its line. -/
def readList : (fuel : Nat) → (top : Bool) → Reader Script
  | 0, _ => fail "Script too long"
  | n + 1, top => do
    if !top then skipLines n
    let a ← readAndOr n
    match ← peek with
    | some ";" => skip 1; readRest n top a
    | some "&" => skip 1; readRest n top (.background a)
    | some "\n" =>
      if top then
        skip 1
        return a
      else readRest n top a
    | some _ => if top then unexpected "" else return a
    | none => return a

/-- Reads what comes after a separator in a list of commands. -/
def readRest : (fuel : Nat) → (top : Bool) → Script → Reader Script
  | 0, _, _ => fail "Script too long"
  | n + 1, top, a => do
    if top then
      match ← peek with
      | none => return a
      | some "\n" => skip 1; return a
      | _ => return .sequence a (← readList n top)
    else
      skipLines n
      if ← atCloser then return a else return .sequence a (← readList n top)

/-- Reads commands that depend on the success of those before. -/
def readAndOr : (fuel : Nat) → Reader Script
  | 0 => fail "Script too long"
  | n + 1 => do readAndOrAfter n (← readPipeline n)

/-- Reads the commands that depend on the success of one. -/
def readAndOrAfter : (fuel : Nat) → Script → Reader Script
  | 0, _ => fail "Script too long"
  | n + 1, a => do
    match ← peek with
    | some "&&" =>
      skip 2
      skipLines n
      readAndOrAfter n (.both a (← readPipeline n))
    | some "||" =>
      skip 2
      skipLines n
      readAndOrAfter n (.either a (← readPipeline n))
    | _ => return a

/-- Reads commands of which each reads what the one before writes. -/
def readPipeline : (fuel : Nat) → Reader Script
  | 0 => fail "Script too long"
  | n + 1 => do
    if ← takeName "!" then return .negate (← readPipeline n)
    else
      let stages ← readStages n
      match stages with
      | [stage] => return stage
      | _ => return .pipeline stages

/-- Reads the commands of a pipeline. -/
def readStages : (fuel : Nat) → Reader (List Script)
  | 0 => fail "Script too long"
  | n + 1 => do
    let a ← readCommand n
    if (← peek) = some "|" then
      skip 1
      skipLines n
      return a :: (← readStages n)
    else return [a]

/-- Reads a command. -/
def readCommand : (fuel : Nat) → Reader Script
  | 0 => fail "Script too long"
  | n + 1 => do
    match ← peek with
    | some "(" =>
      skip 1
      skipLines n
      if (← peek).isNone then unexpected "\")\""
      let inner ← readList n false
      skipLines n
      expectOperator ")"
      readCompound n (.subshell inner)
    | some t =>
      if operators.contains t && !(redirections.contains t) then unexpected ""
      else
        match ← peekName with
        | "\x7b" =>
          skip 1
          skipLines n
          if (← peek).isNone then unexpected "\"\x7d\""
          let inner ← readList n false
          skipLines n
          expectName "\x7d"
          readCompound n inner
        | "if" => skip 2; readCompound n (← readChoice n)
        | "while" => skip 5; readCompound n (← readLoop n false)
        | "until" => skip 5; readCompound n (← readLoop n true)
        | "for" => skip 3; readCompound n (← readEach n)
        | "case" => skip 4; readCompound n (← readCases n)
        | name =>
          if closers.contains name then unexpected ""
          else
            match ← peekFunction with
            | some name =>
              skip name.length
              expectOperator "("
              expectOperator ")"
              skipLines n
              return .function name (← readCommand n)
            | none =>
              let line := (← get).line
              let (assignments, words, redirects) ← readSimple n [] [] []
              return .simple line assignments words redirects
    | none => unexpected ""

/-- Reads the redirections of a compound command. -/
def readCompound : (fuel : Nat) → Script → Reader Script
  | 0, _ => fail "Script too long"
  | n + 1, s => do
    let line := (← get).line
    match ← readRedirects n with
    | [] => return s
    | redirects => return .redirected line s redirects

/-- Reads a choice after its first word. -/
def readChoice : (fuel : Nat) → Reader Script
  | 0 => fail "Script too long"
  | n + 1 => do
    let condition ← readList n false
    skipLines n
    expectName "then"
    let yes ← readList n false
    skipLines n
    if ← takeName "elif" then return .choice condition yes (← readChoice n)
    else if ← takeName "else" then
      let no ← readList n false
      skipLines n
      expectName "fi"
      return .choice condition yes no
    else
      expectName "fi"
      return .choice condition yes .nothing

/-- Reads a loop after its first word. -/
def readLoop : (fuel : Nat) → (negated : Bool) → Reader Script
  | 0, _ => fail "Script too long"
  | n + 1, negated => do
    let condition ← readList n false
    skipLines n
    return .loop negated condition (← readBody n)

/-- Reads the body of a loop. -/
def readBody : (fuel : Nat) → Reader Script
  | 0 => fail "Script too long"
  | n + 1 => do
    expectName "do"
    let body ← readList n false
    skipLines n
    expectName "done"
    return body

/-- Reads a loop over values after its first word. -/
def readEach : (fuel : Nat) → Reader Script
  | 0 => fail "Script too long"
  | n + 1 => do
    let name ← peekName
    let line := (← get).line
    if !isName name.toList then fail "Bad for loop variable"
    else
      skip name.length
      skipLines n
      let values ← if ← takeName "in" then readWords n
        else pure [[.parameter true "@" .keep []]]
      if (← peek) = some ";" then skip 1
      skipLines n
      return .each line name values (← readBody n)

/-- Reads a choice by pattern after its first word. -/
def readCases : (fuel : Nat) → Reader Script
  | 0 => fail "Script too long"
  | n + 1 => do
    let _ ← peek
    let line := (← get).line
    let subject ← readWord
    skipLines n
    expectName "in"
    return .cases line subject (← readParts n)

/-- Reads the parts of a choice by pattern. -/
def readParts : (fuel : Nat) → Reader (List (List Word × Script))
  | 0 => fail "Script too long"
  | n + 1 => do
    skipLines n
    if ← takeName "esac" then return []
    else
      if (← peek) = some "(" then skip 1
      let patterns ← readPatterns n
      expectOperator ")"
      skipLines n
      let closed ← atCloser
      let body ← if closed then pure .nothing else readList n false
      skipLines n
      if (← peek) = some ";;" then
        skip 2
        return (patterns, body) :: (← readParts n)
      else
        expectName "esac"
        return [(patterns, body)]

end

/-- Reads the next complete command of a script, if there is one. -/
def readComplete : Reader (Option Script) := do
  let n ← fuel
  skipLines n
  if (← peek).isNone then return none else return some (← readList n true)

end Muster.Shell.Reader
