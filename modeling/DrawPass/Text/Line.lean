/-
DrawPass/Text/Line.lean

Lines of a text.  A line ends at a line feed; one carriage return just before the
line feed belongs to the ending.  What follows the last line feed is a line unless
it is empty.  A carriage return at the very end of the text is kept.
-/

namespace DrawPass.Text

/-- Drop one carriage return at the end. -/
def dropReturn (line : List Char) : List Char :=
  if line.getLast? = some '\r' then line.dropLast else line

/-- The lines of a text; `current` holds, in reverse, the line being read. -/
def linesFrom (current : List Char) : List Char → List (List Char)
  | [] => if current.isEmpty then [] else [current.reverse]
  | '\n' :: rest => dropReturn current.reverse :: linesFrom [] rest
  | c :: rest => linesFrom (c :: current) rest

/-- The lines of a text, without their endings. -/
def lines (text : List Char) : List (List Char) := linesFrom [] text

/-- Texts with a separator between them. -/
def joinWith (separator : List Char) : List (List Char) → List Char
  | [] => []
  | [t] => t
  | t :: ts => t ++ separator ++ joinWith separator ts

/-- A number right-aligned in at least `width` places. -/
def padNumber (width n : Nat) : List Char :=
  let digits := (toString n).toList
  List.replicate (width - digits.length) ' ' ++ digits

/-- Every line with its number in front, from 1. -/
def numberLines (text : List Char) : List Char :=
  joinWith ['\n'] <|
    (lines text).zipIdx.map fun e => padNumber 4 (e.2 + 1) ++ [':', ' '] ++ e.1

/-- Whether `part` occurs in a text. -/
def hasInfix (part : List Char) : List Char → Bool
  | [] => part.isEmpty
  | c :: cs => part.isPrefixOf (c :: cs) || hasInfix part cs

/-- A text up to the first occurrence of a part, and what follows that occurrence. -/
def cutAt (part : List Char) : List Char → Option (List Char × List Char)
  | [] => if part.isEmpty then some ([], []) else none
  | c :: cs =>
    if part.isPrefixOf (c :: cs) then some ([], (c :: cs).drop part.length)
    else (cutAt part cs).map fun r => (c :: r.1, r.2)

end DrawPass.Text
