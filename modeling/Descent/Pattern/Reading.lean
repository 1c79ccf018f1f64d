import Descent.Fault
import Descent.Pattern.Syntax

/-! How far a pattern has been read: the flags in force, the groups that are still open, the
innermost first, and what is known of those that have been closed. -/

namespace Descent.Pattern

structure Flags where
  ignoreCase : Bool := false
  multiline : Bool := false
  dotAll : Bool := false
  verbose : Bool := false
  ascii : Bool := false
deriving DecidableEq

namespace Flags

def put (on : Bool) (flags : Flags) (letter : Char) : Flags :=
  match letter with
  | 'i' => { flags with ignoreCase := on }
  | 'm' => { flags with multiline := on }
  | 's' => { flags with dotAll := on }
  | 'x' => { flags with verbose := on }
  | 'a' => { flags with ascii := on }
  | 'u' => { flags with ascii := !on }
  | _ => flags

def putAll (on : Bool) (flags : Flags) (letters : Text) : Flags := letters.foldl (put on) flags

end Flags

def Node.ofAlternatives : List (List Node) → Node
  | [] => .empty
  | [a] => .ofList a
  | a :: rest => .alt (.ofList a) (ofAlternatives rest)

def Node.isLeaf : Node → Bool
  | one _ => true
  | anchor _ => true
  | again .. => true
  | _ => false

def shareFront : List Node → List (List Node) → List Node × List (List Node)
  | [], others => ([], [] :: others)
  | a :: first, others =>
    if a.isLeaf && others.all (·.head? == some a) then
      let (front, rests) := shareFront first (others.map List.tail)
      (a :: front, rests)
    else ([], (a :: first) :: others)

def sets? : List (List Node) → Option (List CharSet)
  | [] => some []
  | [.one set] :: rest => if set.negated then none else (sets? rest).map fun sets => set :: sets
  | _ => none

def union (flags : Flags) (sets : List CharSet) : CharSet :=
  ⟨(sets.flatMap (·.items)).eraseDups, false, flags.ignoreCase, flags.ascii⟩

def alternatives (flags : Flags) : List (List Node) → List Node
  | [] => []
  | [only] => only
  | first :: others =>
    let (front, rests) := shareFront first others
    front ++ [match sets? rests with
      | some sets => .one (union flags sets)
      | none => .ofAlternatives rests]

inductive Opening where
  | whole
  | plain
  | flagged
  | capture (index : Nat)
  | atomic
  | ahead (expected : Bool)
  | behind (expected : Bool) (groups : Nat)
  | given (index : Nat)
deriving DecidableEq

structure Item where
  parts : List Node
  repeatable : Bool := true

/-- An open group: the alternatives that are finished and the items of the one being read, each the
last first. -/
structure Frame where
  opening : Opening
  flags : Flags
  finished : List (List Node) := []
  items : List Item := []

namespace Frame

def isEmpty (f : Frame) : Bool := f.finished.isEmpty && f.items.isEmpty

def alternative (f : Frame) : List Node := f.items.reverse.flatMap (·.parts)

def body (f : Frame) : List Node :=
  alternatives f.flags (f.alternative :: f.finished).reverse

/-- The item that the group becomes. A question about a group has its answers as alternatives, the
second of which may be missing. -/
def close (f : Frame) : Item :=
  let node := Node.ofList f.body
  match f.opening with
  | .whole => ⟨f.body, true⟩
  | .plain => ⟨f.body, true⟩
  | .flagged => ⟨[.group none node], true⟩
  | .capture i => ⟨[.group (some i) node], true⟩
  | .atomic => ⟨[.atomic node], true⟩
  | .ahead expected => ⟨[.ahead expected node], true⟩
  | .behind expected _ => ⟨[.behind expected node.width.least node], true⟩
  | .given i =>
    match f.finished with
    | [] => ⟨[.given i (.ofList f.alternative) .empty], true⟩
    | yes :: _ => ⟨[.given i (.ofList yes) (.ofList f.alternative)], true⟩

def setOf (f : Frame) (items : List SetItem) (negated : Bool) : Node :=
  .one ⟨items, negated, f.flags.ignoreCase, f.flags.ascii⟩

end Frame

structure Reading where
  frame : Frame
  outer : List Frame := []
  groups : Nat := 0
  names : List (Text × Nat) := []
  widths : List (Nat × Width) := []
  -- The highest number by which a group has been asked for.
  asked : Nat := 0
  unicode : Bool := false
  onceOnly : Bool := false

namespace Reading

def pushItem (r : Reading) (item : Item) : Reading :=
  { r with frame := { r.frame with items := item :: r.frame.items } }

def push (r : Reading) (node : Node) : Reading := r.pushItem ⟨[node], true⟩

def pushAnchor (r : Reading) (a : Anchor) : Reading := r.pushItem ⟨[.anchor a], false⟩

def literal (r : Reading) (code : Nat) : Reading := r.push (r.frame.setOf [.single code] false)

def category (r : Reading) (k : Category) (negated : Bool) : Reading :=
  r.push (r.frame.setOf [.category k negated] false)

def enter (r : Reading) (opening : Opening) (flags : Flags) : Reading :=
  { r with frame := { opening, flags }, outer := r.frame :: r.outer }

def enterCapture (r : Reading) : Reading :=
  let r := { r with groups := r.groups + 1 }
  r.enter (.capture r.groups) r.frame.flags

def leave (r : Reading) (parent : Frame) (outer : List Frame) : Reading :=
  let widths := match r.frame.opening with
    | .capture i => (i, (Node.ofList r.frame.body).width) :: r.widths
    | _ => r.widths
  { r with frame := parent, outer := outer, widths := widths }.pushItem r.frame.close

def orElse (r : Reading) : Except Fault Reading :=
  let f := r.frame
  match f.opening, f.finished with
  | .given _, _ :: _ => .error .invalidPattern
  | _, finished => .ok
    { r with frame := { f with finished := f.alternative :: finished, items := [] } }

def fixedGroups? (r : Reading) : Option Nat :=
  ((r.frame :: r.outer).filterMap fun f =>
    match f.opening with
    | .behind _ groups => some groups
    | _ => none).getLast?

def sees (r : Reading) (i : Nat) : Bool :=
  -- A lookbehind sees only groups that were closed before it was opened.
  r.fixedGroups?.all fun groups => (r.widths.lookup i).isSome && i ≤ groups

def again (r : Reading) (i : Nat) : Except Fault Reading :=
  match r.widths.lookup i with
  | some width =>
    if r.sees i then .ok (r.push (.again i width r.frame.flags.ignoreCase r.frame.flags.ascii))
    else .error .invalidPattern
  | none => .error .invalidPattern

def repeatLast (r : Reading) (least : Nat) (most : Option Nat) (greed : Greed) :
    Except Fault Reading :=
  match r.frame.items with
  | [] => .error .invalidPattern
  | item :: others =>
    if item.repeatable then
      let node := Node.times least most greed (.ofList item.parts)
      .ok { r with frame := { r.frame with items := ⟨[node], false⟩ :: others } }
    else .error .invalidPattern

end Reading
end Descent.Pattern
