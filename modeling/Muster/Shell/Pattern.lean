/-!
# Patterns

A pattern describes texts: a star stands for any characters, a question mark for one, and a
bracket for one of those in it.  What is quoted stands for itself.
-/

namespace Muster.Shell

/-- A part of a pattern. -/
inductive Glob where
  | char (c : Char)
  | any
  | many
  /-- A character in one of some ranges, or in none of them. -/
  | range (negated : Bool) (ranges : List (Char × Char))
deriving Repr, DecidableEq

namespace Glob

/-- A character of a pattern, with whether it is quoted. -/
abbrev Sign := Char × Bool

/-- The characters of a class that is known by its name. -/
def namedRanges (name : String) : List (Char × Char) :=
  match name with
  | "digit" => [('0', '9')]
  | "lower" => [('a', 'z')]
  | "upper" => [('A', 'Z')]
  | "alpha" => [('a', 'z'), ('A', 'Z')]
  | "alnum" => [('a', 'z'), ('A', 'Z'), ('0', '9')]
  | "xdigit" => [('a', 'f'), ('A', 'F'), ('0', '9')]
  | "space" => [('\t', '\r'), (' ', ' ')]
  | "blank" => [('\t', '\t'), (' ', ' ')]
  | "punct" => [('!', '/'), (':', '@'), ('[', '\x60'), ('\x7b', '~')]
  | "cntrl" => [('\x00', '\x1f'), ('\x7f', '\x7f')]
  | "print" => [(' ', '~')]
  | "graph" => [('!', '~')]
  | _ => []

/-- The ranges of a bracket after its opening, and the number of characters that it takes. -/
def ranges : (fuel : Nat) → (first : Bool) → (count : Nat) → List Sign →
    Option (List (Char × Char) × Nat)
  | 0, _, _, _ | _, _, _, [] => none
  | k + 1, first, n, (c, q) :: r =>
    if c = ']' ∧ !q ∧ !first then some ([], n + 1)
    else
      let single := (ranges k false (n + 1) r).map fun (rs, m) => ((c, c) :: rs, m)
      match r with
      | ('-', false) :: (d, p) :: r' =>
        if d = ']' ∧ !p then single
        else (ranges k false (n + 3) r').map fun (rs, m) => ((c, d) :: rs, m)
      | (':', false) :: r' =>
        let name := (r'.takeWhile fun s => s.1 != ':').map (·.1)
        if c = '[' ∧ !q ∧ (r'.drop name.length).take 2 = [(':', false), (']', false)] then
          (ranges k false (n + name.length + 4) (r'.drop (name.length + 2))).map fun (rs, m) =>
            (namedRanges (String.ofList name) ++ rs, m)
        else single
      | _ => single

/-- The first parts of a pattern, at most `fuel` of them. -/
def compileFrom : (fuel : Nat) → List Sign → List Glob
  | 0, _ | _, [] => []
  | n + 1, ('\\', false) :: (c, _) :: r => char c :: compileFrom n r
  | n + 1, ('*', false) :: r => many :: compileFrom n r
  | n + 1, ('?', false) :: r => any :: compileFrom n r
  | n + 1, ('[', false) :: r =>
    let negated := r.head? == some ('!', false) || r.head? == some ('^', false)
    let inner := if negated then r.drop 1 else r
    match ranges inner.length true 0 inner with
    | some (rs, width) => range negated rs :: compileFrom n (inner.drop width)
    | none => char '[' :: compileFrom n r
  | n + 1, (c, _) :: r => char c :: compileFrom n r

/-- The parts of a pattern. -/
def compile (signs : List Sign) : List Glob :=
  compileFrom signs.length signs

/-- Whether a pattern has a part that does not stand for itself. -/
def isOpen (pattern : List Glob) : Bool :=
  pattern.any fun
    | char _ => false
    | _ => true

/-- Whether a text matches a pattern. -/
def «matches» : List Glob → List Char → Bool
  | [], cs => cs.isEmpty
  | char c :: p, d :: cs => c == d && «matches» p cs
  | any :: p, _ :: cs => «matches» p cs
  | range negated rs :: p, d :: cs =>
    (rs.any (fun r => decide (r.1 ≤ d) && decide (d ≤ r.2)) != negated) && «matches» p cs
  | many :: p, [] => «matches» p []
  | many :: p, d :: cs => «matches» p (d :: cs) || «matches» (many :: p) cs
  | _ :: _, [] => false
termination_by p cs => (p.length, cs.length)

/-- The text without what matches a pattern at its beginning. -/
def cutFront (pattern : List Glob) (longest : Bool) (cs : List Char) : List Char :=
  let sizes := (List.range (cs.length + 1)).filter fun n => «matches» pattern (cs.take n)
  let size := if longest then sizes.getLast? else sizes.head?
  cs.drop (size.getD 0)

/-- The text without what matches a pattern at its end. -/
def cutBack (pattern : List Glob) (longest : Bool) (cs : List Char) : List Char :=
  let sizes := (List.range (cs.length + 1)).filter fun n => «matches» pattern (cs.drop n)
  let size := if longest then sizes.head? else sizes.getLast?
  cs.take (size.getD cs.length)

end Glob

end Muster.Shell
