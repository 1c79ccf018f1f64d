import Descent.Fault
import Descent.Result

/-! Values of grammars that are given as data, their printed forms, and the templates of messages in
which they are filled in. -/

namespace Descent

inductive Binary where
  | add
  | sub
  | pair
  | list
  | cons
  | snoc
  | first
  | second
deriving DecidableEq

inductive Unary where
  | identity
  | negate
  | increment
  | double
  | size
  | join
  | codePoint
  | first
  | second
  | content
  | singleton
  | reverse
  | sum
  | printed
deriving DecidableEq

mutual

inductive Value where
  | absent
  | bool (b : Bool)
  | int (n : Int)
  | text (t : Text)
  | list (items : List Value)
  | pair (first second : Value)
  | present (value : Value)
  | function (f : Function)

inductive Function where
  | unary (op : Unary)
  | constant (v : Value)
  | raising (message : Text)
  | binary (op : Binary)
  | binaryWith (op : Binary) (first : Value)

end

namespace Value

instance : Inhabited Value := ⟨absent⟩

def ofChar (c : Char) : Value := text [c]

def ofOption : Option Value → Value
  | none => absent
  | some v => present v

/-- The number that a value is; a truth value counts as 1 or 0. -/
def number? : Value → Option Int
  | int n => some n
  | bool true => some 1
  | bool false => some 0
  | _ => none

def text? : Value → Option Text
  | text t => some t
  | _ => none

end Value

mutual

def Value.same : Value → Value → Bool
  | .absent, .absent => true
  | .text s, .text t => s == t
  | .list vs, .list ws => Value.sameAll vs ws
  | .pair a b, .pair c d => a.same c && b.same d
  | .present v, .present w => v.same w
  | .function f, .function g => f.same g
  | v, w =>
    match v.number?, w.number? with
    | some m, some n => m == n
    | _, _ => false

def Value.sameAll : List Value → List Value → Bool
  | [], [] => true
  | v :: vs, w :: ws => v.same w && Value.sameAll vs ws
  | _, _ => false

def Function.same : Function → Function → Bool
  | .unary f, .unary g => f == g
  | .constant v, .constant w => v.same w
  | .raising s, .raising t => s == t
  | .binary f, .binary g => f == g
  | .binaryWith f v, .binaryWith g w => f == g && v.same w
  | _, _ => false

end

instance : BEq Value := ⟨Value.same⟩

/-! The words of the printed forms. -/

namespace Value.Spelling

def absent : Text := Text.ofString "None"

def yes : Text := Text.ofString "True"

def no : Text := Text.ofString "False"

def pair : Text := Text.ofString "Pair(first="

def second : Text := Text.ofString ", second="

def present : Text := Text.ofString "Present(value="

def function : Text := Text.ofString "<function>"

end Value.Spelling

mutual

/-- The printed form of a value, over a way to quote texts. The one of a function names no more than
that it is one. -/
def Value.printBy (quote : Text → Text) : Value → Text
  | .absent => Spelling.absent
  | .bool true => Spelling.yes
  | .bool false => Spelling.no
  | .int n => Text.decimal n
  | .text t => quote t
  | .list vs => '[' :: Value.printAllBy quote vs ++ [']']
  | .pair v w =>
    Spelling.pair ++ v.printBy quote ++ Spelling.second ++ w.printBy quote ++ [')']
  | .present v => Spelling.present ++ v.printBy quote ++ [')']
  | .function _ => Spelling.function

def Value.printAllBy (quote : Text → Text) : List Value → Text
  | [] => []
  | v :: vs => v.printBy quote ++ Value.printRestBy quote vs

def Value.printRestBy (quote : Text → Text) : List Value → Text
  | [] => []
  | v :: vs => ',' :: ' ' :: (v.printBy quote ++ Value.printRestBy quote vs)

end

namespace Value

def print : Value → Text := printBy Text.quote

def display : Value → Text
  | text t => t
  | v => v.print

end Value

/-! Printing within the limit on digits. A value that holds a longer integer has a printed form, and
asking for it is at fault. -/

mutual

def Value.isPrintable : Value → Bool
  | .int n => (Text.decimal n.natAbs).length ≤ maxDigits
  | .list vs => Value.areAllPrintable vs
  | .pair v w => v.isPrintable && w.isPrintable
  | .present v => v.isPrintable
  | _ => true

def Value.areAllPrintable : List Value → Bool
  | [] => true
  | v :: vs => v.isPrintable && Value.areAllPrintable vs

end

namespace Value

def printed (v : Value) : Except Fault Text :=
  if v.isPrintable then .ok v.print else .error .unprintable

end Value

namespace Result

def printed (r : Result Value) : Except Fault Text :=
  match r with
  | success v _ => v.printed.map fun _ => r.print Value.print
  | failure _ => .ok (r.print Value.print)

end Result

end Descent

/-! Message templates. The letter s in braces stands for a value as it is and the letter r in braces
for its printed form; what is filled in is not looked at again. -/

namespace Descent.Template

def fillFrom (shown printed : Text) : Nat → Text → Text
  | _, [] => []
  | skip + 1, _ :: rest => fillFrom shown printed skip rest
  | 0, c :: rest =>
    if c = '{' ∧ rest.take 2 = ['s', '}'] then shown ++ fillFrom shown printed 2 rest
    else if c = '{' ∧ rest.take 2 = ['r', '}'] then printed ++ fillFrom shown printed 2 rest
    else c :: fillFrom shown printed 0 rest

def hasGap : Text → Bool
  | [] => false
  | c :: rest =>
    (c == '{' && (rest.take 2 == ['s', '}'] || rest.take 2 == ['r', '}'])) || hasGap rest

def fillText (template t : Text) : Text := fillFrom t (Text.quote t) 0 template

/-- A template that does not ask for its value takes one that cannot be printed. -/
def fill (template : Text) (v : Value) : Except Fault Text :=
  if v.isPrintable || !hasGap template then .ok (fillFrom v.display v.print 0 template)
  else .error .unprintable

end Descent.Template
