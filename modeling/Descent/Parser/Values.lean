import Descent.Parser.Delayed
import Descent.Parser.Primitives
import Descent.Value.Apply

/-! Parsers of values, and how a value picks a parser. A value of the wrong shape is at fault. -/

namespace Descent

abbrev ValueParser : Type := ParserT (Eval Value) Value

def Text.single (t : Text) : Except Fault Char :=
  match t with
  | [c] => .ok c
  | _ => .error .notSingleCharacter

namespace ValueParser

def ofChar (p : ParserT (Eval Value) Char) : ValueParser := p.map .ofChar

def ofText (p : ParserT (Eval Value) Text) : ValueParser := p.map .text

def ofInt (p : ParserT (Eval Value) Int) : ValueParser := p.map .int

def ofUnit (p : ParserT (Eval Value) Unit) : ValueParser := p.map fun _ => .absent

def ofOption (p : ParserT (Eval Value) (Option Value)) : ValueParser := p.map .ofOption

def ofPair (p : ParserT (Eval Value) (Value × Value)) : ValueParser :=
  p.map fun vw => .pair vw.1 vw.2

def ofList (p : ParserT (Eval Value) (List Value)) : ValueParser := p.map .list

def itemsOf (v : Value) : Except Fault (List Value) :=
  match v.items? with
  | some vs => .ok vs
  | none => .error .inapplicable

def textsOf (v : Value) : Except Fault (List Text) :=
  match v.items?.bind Value.texts? with
  | some ts => .ok ts
  | none => .error .inapplicable

/-- A value that characters are compared with. It has to be made of one thing, but only a text is
ever equal to a character; another value is shown in the messages. -/
def single (v : Value) : Except Fault (Option Char) := do
  match v, ← itemsOf v with
  | .text [c], _ => return some c
  | _, [_] => return none
  | _, _ => throw .notSingleCharacter

def failWanting (v : Value) (what : Text → Text) : ParserT (Eval Value) Char := fun src =>
  Eval.ofExcept v.printed >>= fun shown =>
    pure (.failure (ParserT.wanted (what shown) src.head?))

def charOf (v : Value) : Except Fault (ParserT (Eval Value) Char) :=
  (single v).map fun
    | some c => .char c
    | none => failWanting v id

def notCharOf (v : Value) : Except Fault (ParserT (Eval Value) Char) :=
  (single v).map fun
    | some c => .notChar c
    | none => fun
      | [] => failWanting v (fun shown => Text.ofString "any character except " ++ shown) []
      | c :: rest => pure (.success c rest)

def upToOf (v : Value) : Except Fault (ParserT (Eval Value) Text) := do
  let other ← notCharOf v
  let stop ← charOf v
  return .before (.many other) (.lookahead stop)

def textOf (v : Value) : Except Fault (ParserT (Eval Value) Text) := do
  return .sequence (← (← itemsOf v).mapM charOf)

def textIgnoringCaseOf (v : Value) : Except Fault (ParserT (Eval Value) Text) := do
  return .sequence ((← textsOf v).map .partIgnoringCase)

def memberOf (v : Value) : Except Fault (ParserT (Eval Value) Char) := do
  return .oneOf (← textsOf v)

def timesOf (p : ValueParser) (v : Value) : Except Fault (ParserT (Eval Value) (List Value)) := do
  p.times? (← v.count)

def calling (f : Function) (v : Value) : Eval Value Value := Eval.ofExcept (f.apply v)

end ValueParser
end Descent
