import Muster.Text.Blank
/-!
# Filling lines

A text is cut into lines of a given width, between words or after the hyphen of a compound word.
A word that is too long for a line is cut where the line ends.
-/

namespace Muster.Text

/-- A letter of the Latin script. -/
def isLatinLetter (c : Char) : Bool :=
  ('a' ≤ c && c ≤ 'z') || ('A' ≤ c && c ≤ 'Z')

/-- Whether a compound word may be cut after a hyphen: two letters stand before it, given last
first, and a letter and perhaps another hyphen and a letter after it. -/
def mayCut (before after : List Char) : Bool :=
  let two := match before with
    | b :: a :: _ => isLatinLetter a && isLatinLetter b
    | _ => false
  two && match after with
    | a :: '-' :: b :: _ => isLatinLetter a && isLatinLetter b
    | a :: b :: _ => isLatinLetter a && isLatinLetter b
    | _ => false

/-- The pieces of a text between which a line may end: words or parts of them, and white space.
`piece` is the piece so far, last character first. -/
def piecesFrom : (piece : List Char) → List Char → List (List Char)
  | piece, [] => if piece.isEmpty then [] else [piece.reverse]
  | piece, c :: r =>
    match piece with
    | [] => piecesFrom [c] r
    | b :: _ =>
      if isBlank b != isBlank c then piece.reverse :: piecesFrom [c] r
      else if c == '-' && mayCut piece r then (c :: piece).reverse :: piecesFrom [] r
      else piecesFrom (c :: piece) r

/-- The pieces of a text between which a line may end. -/
def pieces (cs : List Char) : List (List Char) :=
  piecesFrom [] cs

/-- Whether a piece is white space. -/
def isGap (piece : List Char) : Bool :=
  piece.all isBlank

/-- The pieces that fit on a line of some width, and the pieces after them. -/
def takeLine : (room : Nat) → List (List Char) → List (List Char) × List (List Char)
  | _, [] => ([], [])
  | room, p :: r =>
    if p.length ≤ room then
      let (line, rest) := takeLine (room - p.length) r
      (p :: line, rest)
    else ([], p :: r)

/-- The lines of some pieces, of which there are at most `fuel`. -/
def linesWithin (width : Nat) : (fuel : Nat) → (first : Bool) → List (List Char) →
    List (List Char)
  | 0, _, _ => []
  | fuel + 1, first, ps =>
    let ps := if first then ps else ps.dropWhile isGap
    if ps.isEmpty then []
    else
      let (line, rest) := takeLine width ps
      let used := line.flatten.length
      let (line, rest) := match rest with
        | p :: r =>
          if width < p.length then
            let room := max (width - used) 1
            (line ++ [p.take room], p.drop room :: r)
          else (line, rest)
        | [] => (line, rest)
      let line := (line.reverse.dropWhile isGap).reverse
      let later := linesWithin width fuel false rest
      if line.isEmpty then later else line.flatten :: later

/-- The lines of a text that are filled up to a width. -/
def fillLines (width : Nat) (s : String) : List String :=
  let cs := s.toList
  (linesWithin width (cs.length + 1) true (pieces cs)).map String.ofList

end Muster.Text
