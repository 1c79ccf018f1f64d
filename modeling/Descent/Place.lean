import Descent.Text.Printed

/-! Lines and places in a text, and the notes that show them.

There are two notions of line. `splitLines` cuts at every character that ends a line, a carriage
return and the line feed behind it counting once; a text that ends with such a character has no
further, empty line. `lineNumber` and `lastLine` go by line feeds only. A place is named by its line
and its column; where the line is long enough, a note shows a part of it with a caret below. -/

namespace Descent.Text

def endsLine (c : Char) : Bool :=
  c = '\n' || c = '\r' || c = '\u000b' || c = '\u000c' || c = '\u001c' || c = '\u001d' ||
    c = '\u001e' || c = '\u0085' || c = '\u2028' || c = '\u2029'

def consLine (c : Char) : List Text → List Text
  | [] => [[c]]
  | line :: rest => (c :: line) :: rest

def splitLines : Text → List Text
  | [] => []
  | c :: rest =>
    if c = '\r' ∧ rest.head? = some '\n' then splitLines rest
    else if endsLine c then [] :: splitLines rest
    else consLine c (splitLines rest)

def lineNumber (t : Text) : Nat := t.count '\n' + 1

def lastLine (t : Text) : Text := (t.reverse.takeWhile (· ≠ '\n')).reverse

theorem splitLines_crlf (rest : Text) :
    splitLines ('\r' :: '\n' :: rest) = [] :: splitLines rest := by
  simp [splitLines, endsLine]

end Descent.Text

namespace Descent

def excerptReach : Nat := 20

/-- What stands in front of a position. A negative position counts from the end of the text. -/
def Text.front (t : Text) (position : Int) : Text :=
  if position < 0 then t.take (t.length + position).toNat else t.take position.toNat

structure Place where
  position : Int
  line : Nat
  column : Int
deriving DecidableEq

namespace Place

/-- A position beyond the end of the text is moved back to it. The line is the number of line feeds
in front of the position, from 1, and the column is the distance from the last of them. -/
def locate (src : Text) (position : Int) : Place :=
  let position := min position src.length
  let front := Text.front src position
  let lineStart := front.length - (Text.lastLine front).length
  ⟨position, Text.lineNumber front, position - lineStart + 1⟩

def heading (p : Place) : Text :=
  Text.ofString "At position " ++ Text.decimal p.position ++
    Text.ofString " (line " ++ Text.decimal p.line ++
    Text.ofString ", column " ++ Text.decimal p.column ++ [')']

def window (line : Text) (column : Int) : Text × Nat :=
  if column ≤ excerptReach then (line.take (2 * excerptReach), (column - 1).toNat)
  else
    let column := column.toNat
    ((line.take (column + excerptReach)).drop (column - excerptReach), excerptReach)

def excerpt (src : Text) (p : Place) : Option (Text × Nat) :=
  match (Text.splitLines src)[p.line - 1]? with
  -- By line feeds the place may lie behind the end of this line.
  | some line => if p.column ≤ line.length then some (window line p.column) else none
  | none => none

def noteLines (src : Text) (p : Place) (title : Option Text) : List Text :=
  title.toList ++ p.heading ::
    match p.excerpt src with
    | some (line, indent) => [line, List.replicate indent ' ' ++ ['^']]
    | none => []

end Place

def positionNote (src : Text) (position : Int) (title : Option Text) : Text :=
  ['\n'].intercalate ((Place.locate src position).noteLines src title)

theorem Text.front_natCast (t : Text) (n : Nat) : Text.front t n = t.take n := by
  rw [Text.front, if_neg (by omega), Int.toNat_natCast]

end Descent
