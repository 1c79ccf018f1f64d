import Descent.Parser.Basic
import Descent.Place

/-! Parsing a text as a whole. What is left over is an error, and an error is logged. An error that
knows both the text and the position carries a note that shows the place. -/

namespace Descent

/-- The position is kept as it was given, also where it lies outside the text. -/
structure ParseError where
  reason : Text
  source : Option Text
  position : Option Int
  notes : List Text
deriving DecidableEq

namespace ParseError

def annotate (e : ParseError) (src : Text) (position : Int) (title : Option Text) : ParseError :=
  { e with notes := e.notes ++ [positionNote src position title] }

def report (reason : Text) (source : Option Text) (position : Option Int) : ParseError :=
  let e : ParseError := ⟨reason, source, position, []⟩
  match source, position with
  | some src, some pos => e.annotate src pos none
  | _, _ => e

def minIndent : Int := -0x8000000000000000

/-- `annotate`, for a position that may lie too far in front of the text for its caret. -/
def annotate? (e : ParseError) (src : Text) (position : Int) (title : Option Text) :
    Except Fault ParseError :=
  let p := Place.locate src position
  if (p.excerpt src).isSome ∧ p.column - 1 < minIndent then .error .notIndexSized
  else .ok (e.annotate src position title)

def report? (reason : Text) (source : Option Text) (position : Option Int) :
    Except Fault ParseError :=
  let e : ParseError := ⟨reason, source, position, []⟩
  match source, position with
  | some src, some pos => e.annotate? src pos none
  | _, _ => .ok e

theorem report_of_position_none (reason : Text) (source : Option Text) :
    report reason source none = ⟨reason, source, none, []⟩ := by
  cases source <;> rfl

end ParseError

/-! What becomes of a parse that has ended. -/

variable {α : Type}

namespace Result

def report (message : Text) (source : Option Text) : ParseError :=
  ParseError.report message source none

def unwrap : Result α → Except ParseError α
  | success v _ => .ok v
  | failure e => .error (report e none)

end Result

structure Completion (α : Type) where
  outcome : Except ParseError α
  log : List Text

namespace Completion

def failed (src message : Text) : Completion α :=
  ⟨.error (Result.report message (some src)), [Text.ofString "parse failed: " ++ message]⟩

def unfinished (src rest : Text) : Completion α :=
  let position : Int := src.length - rest.length
  let count := Text.decimal rest.length
  ⟨.error (ParseError.report
      (Text.ofString "Expected end of input but " ++ count ++ Text.ofString " characters remain")
      (some src) (some position)),
    [Text.ofString "parse left " ++ count ++ Text.ofString " trailing characters at position " ++
      Text.decimal position]⟩

def ofResult (src : Text) : Result α → Completion α
  | .failure e => failed src e
  | .success v [] => ⟨.ok v, []⟩
  | .success _ rest => unfinished src rest

end Completion

def ParserT.parseAll {m : Type → Type} [Monad m] (p : ParserT m α) (src : Text) :
    m (Completion α) :=
  p src >>= fun result => pure (.ofResult src result)

end Descent
