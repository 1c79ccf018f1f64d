import Descent.Text.Classes
import Descent.Text.LowerCase

/-! The syntax of patterns: sets of characters, anchors, and the expressions made of them, with how
few and how many characters these can match, as far as that can be read off them. -/

namespace Descent.Pattern

structure Width where
  least : Nat
  most : Option Nat
deriving DecidableEq

namespace Width

def exactly (n : Nat) : Width := ⟨n, some n⟩

def add (v w : Width) : Width :=
  ⟨v.least + w.least, v.most.bind fun m => w.most.map fun n => m + n⟩

def either (v w : Width) : Width :=
  ⟨min v.least w.least, v.most.bind fun m => w.most.map fun n => max m n⟩

/-- From `least` to `most` times in a row. What matches the empty text only still does so however
often it is repeated, and no repetition at all has no width. -/
def times (w : Width) (least : Nat) (most : Option Nat) : Width :=
  ⟨least * w.least,
    if w.most = some 0 ∨ most = some 0 then some 0
    else most.bind fun m => w.most.map fun n => m * n⟩

def isFixed (w : Width) : Bool := w.most == some w.least

end Width

/-! Where case is ignored, those characters count as the same letter that have one lower case, or
whose lower cases differ only as two spellings of one capital. -/

-- Lower-case letters that share a capital.
def twins : List (List Char) :=
  [['i', '\u0131'], ['s', '\u017f'], ['\u00b5', '\u03bc'], ['\u0345', '\u03b9', '\u1fbe'],
    ['\u0390', '\u1fd3'], ['\u03b0', '\u1fe3'], ['\u03b2', '\u03d0'], ['\u03b5', '\u03f5'],
    ['\u03b8', '\u03d1'], ['\u03ba', '\u03f0'], ['\u03c0', '\u03d6'], ['\u03c1', '\u03f1'],
    ['\u03c2', '\u03c3'], ['\u03c6', '\u03d5'], ['\u0432', '\u1c80'], ['\u0434', '\u1c81'],
    ['\u043e', '\u1c82'], ['\u0441', '\u1c83'], ['\u0442', '\u1c84', '\u1c85'],
    ['\u044a', '\u1c86'], ['\u0463', '\u1c87'], ['\ua64b', '\u1c88'], ['\u1e61', '\u1e9b'],
    ['\ufb05', '\ufb06']]

def foldChar (ascii : Bool) (c : Char) : Char :=
  if ascii then c.toLower else Text.lowerChar c

def variants (ascii : Bool) (c : Char) : List Char :=
  if ascii then [c, c.toLower, c.toUpper]
  else
    let low := Text.lowerChar c
    let lows := match twins.find? (·.contains low) with
      | some family => family
      | none => [low]
    c :: lows ++ lows.flatMap Text.capitals

inductive Category where
  | digit
  | space
  | word
deriving DecidableEq

def Category.contains (ascii : Bool) (k : Category) (c : Char) : Bool :=
  if ascii && 0x80 ≤ c.toNat then false
  else match k with
    | digit => Text.isDigit c
    | word => Text.isWord c
    | space => if ascii then Text.isAsciiSpace c else Text.isSpace c

/-- What a set is made of. Characters are given by their code points, among which there may be some
that no text contains. -/
inductive SetItem where
  | single (code : Nat)
  | range (low high : Nat)
  | category (k : Category) (negated : Bool)
deriving DecidableEq

namespace SetItem

def holds (ascii : Bool) (c : Char) : SetItem → Bool
  | single code => c.toNat == code
  | range low high => low ≤ c.toNat && c.toNat ≤ high
  | category k negated => k.contains ascii c != negated

def wide : Nat := 0x10000

/-- Where case is ignored, a character belongs to an item with each of its variants, and its
category is that of its lower case. Of the code points from `wide` on a set knows less: a single one
has to be in lower case, and for the end of a range the lower case and its capital are looked at. -/
def holdsFolded (ascii : Bool) (c : Char) : SetItem → Bool
  | category k negated => (category k negated).holds ascii (foldChar ascii c)
  | single code =>
    if code < wide then (variants ascii c).any fun d => (single code).holds ascii d
    else (single code).holds ascii (foldChar ascii c)
  | range low high =>
    let low' := foldChar ascii c
    ((variants ascii c).any fun d => d.toNat < wide && (range low high).holds ascii d) ||
      (wide ≤ high &&
        (low' :: (Text.capitals low').take 1).any fun d => (range low high).holds ascii d)

end SetItem

structure CharSet where
  items : List SetItem
  negated : Bool := false
  ignoreCase : Bool := false
  ascii : Bool := false
deriving DecidableEq

namespace CharSet

def finds (s : CharSet) (c : Char) : Bool :=
  if !s.ignoreCase then s.items.any (·.holds s.ascii c)
  else match s.items with
    | [.single code] => (variants s.ascii c).any fun d => d.toNat == code
    | items => items.any (·.holdsFolded s.ascii c)

def contains (s : CharSet) (c : Char) : Bool := s.finds c != s.negated

end CharSet

inductive Anchor where
  | textStart
  | lineStart
  | textEnd
  | lastLineEnd
  | lineEnd
  | boundary (ascii expected : Bool)
deriving DecidableEq

inductive Greed where
  | greedy
  | reluctant
  | possessive
deriving DecidableEq

/-- Pattern expressions. A `group` with an index remembers what it matched, `again` matches that
text once more and `given` asks whether there is one. `again` holds the width of its group, and
`behind` how far it goes back. -/
inductive Node where
  | empty
  | one (set : CharSet)
  | anchor (a : Anchor)
  | cat (a b : Node)
  | alt (a b : Node)
  | times (least : Nat) (most : Option Nat) (greed : Greed) (body : Node)
  | group (index : Option Nat) (body : Node)
  | atomic (body : Node)
  | again (index : Nat) (width : Width) (ignoreCase ascii : Bool)
  | given (index : Nat) (yes no : Node)
  | ahead (expected : Bool) (body : Node)
  | behind (expected : Bool) (width : Nat) (body : Node)
deriving DecidableEq

namespace Node

def ofList : List Node → Node
  | [] => empty
  | [a] => a
  | a :: rest => cat a (ofList rest)

def width : Node → Width
  | empty => .exactly 0
  | one _ => .exactly 1
  | anchor _ => .exactly 0
  | cat a b => a.width.add b.width
  | alt a b => a.width.either b.width
  | times least most _ body => body.width.times least most
  | group _ body => body.width
  | atomic body => body.width
  | again _ width _ _ => width
  | given _ yes no => yes.width.either no.width
  | ahead .. => .exactly 0
  | behind .. => .exactly 0

def all (test : Node → Bool) (node : Node) : Bool :=
  test node && match node with
    | cat a b => a.all test && b.all test
    | alt a b => a.all test && b.all test
    | given _ yes no => yes.all test && no.all test
    | times _ _ _ body => body.all test
    | group _ body => body.all test
    | atomic body => body.all test
    | ahead _ body => body.all test
    | behind _ _ body => body.all test
    | _ => true

end Node
end Descent.Pattern
