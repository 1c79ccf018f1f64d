import Descent.Text.Lexeme
import Descent.Value

/-! Calling functions on values. A function that does not apply to a value of that shape is at
fault. -/

namespace Descent

namespace Value

/-- What a value is made of: the characters of a text, the members of a list, the two of a pair, or
the one that is present. -/
def items? : Value → Option (List Value)
  | text t => some (t.map ofChar)
  | list vs => some vs
  | pair v w => some [v, w]
  | present v => some [v]
  | _ => none

def texts? : List Value → Option (List Text)
  | [] => some []
  | v :: vs =>
    match v.text?, texts? vs with
    | some t, some ts => some (t :: ts)
    | _, _ => none

def total? : List Value → Option Int
  | [] => some 0
  | v :: vs =>
    match v.number?, total? vs with
    | some n, some rest => some (n + rest)
    | _, _ => none

def add? : Value → Value → Option Value
  | text s, text t => some (text (s ++ t))
  | list vs, list ws => some (list (vs ++ ws))
  | v, w =>
    match v.number?, w.number? with
    | some m, some n => some (int (m + n))
    | _, _ => none

end Value

def Unary.result? : Unary → Value → Option Value
  | identity, v => some v
  | negate, v => v.number?.map fun n => .int (-n)
  | increment, v => v.number?.map fun n => .int (n + 1)
  | double, v => v.add? v
  | size, v => v.items?.map fun vs => .int vs.length
  | join, v => (v.items?.bind Value.texts?).map fun ts => .text ts.flatten
  | codePoint, .text [c] => some (.int c.toNat)
  | first, .pair v _ => some v
  | second, .pair _ w => some w
  | content, .present v => some v
  | content, .absent => some .absent
  | singleton, v => some (.list [v])
  | reverse, .text t => some (.text t.reverse)
  | reverse, .list vs => some (.list vs.reverse)
  | sum, v => (v.items?.bind Value.total?).map .int
  | _, _ => none

def Binary.result? : Binary → Value → Value → Option Value
  | add, v, w => v.add? w
  | sub, v, w =>
    match v.number?, w.number? with
    | some m, some n => some (.int (m - n))
    | _, _ => none
  | pair, v, w => some (.pair v w)
  | list, v, w => some (.list [v, w])
  | cons, v, w => w.items?.map fun ws => .list (v :: ws)
  | snoc, v, w => v.items?.map fun vs => .list (vs ++ [w])
  | first, v, _ => some v
  | second, _, w => some w

def orInapplicable : Option Value → Except Fault Value
  | some v => .ok v
  | none => .error .inapplicable

def Unary.apply : Unary → Value → Except Fault Value
  | printed, v => v.printed.map .text
  | op, v => orInapplicable (op.result? v)

def Binary.apply (op : Binary) (v w : Value) : Except Fault Value := orInapplicable (op.result? v w)

def Function.apply : Function → Value → Except Fault Value
  | unary op, v => op.apply v
  | constant w, _ => .ok w
  | raising message, _ => .error (.raised message)
  | binary op, v => .ok (.function (.binaryWith op v))
  | binaryWith op v, w => op.apply v w

def Value.call : Value → Value → Except Fault Value
  | .function f, v => f.apply v
  | _, _ => .error .inapplicable

def Value.count : Value → Except Fault Int
  | .text t => Text.integer t
  | v =>
    match v.number? with
    | some n => .ok n
    | none => .error .inapplicable

end Descent
