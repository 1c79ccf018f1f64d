import Descent.Pattern.Syntax

/-! Matching by backtracking. A node is run with what is to follow it; where that fails, the next
way to match the node is tried, in the order of the pattern. -/

namespace Descent.Pattern

/-- A place in a text: what stands before it, the nearest character first, and what stands after. -/
structure Cursor where
  before : Text
  after : Text
  position : Nat

namespace Cursor

def start (src : Text) : Cursor := ⟨[], src, 0⟩

def next? (cur : Cursor) : Option (Char × Cursor) :=
  match cur.after with
  | [] => none
  | c :: rest => some (c, ⟨c :: cur.before, rest, cur.position + 1⟩)

def back? (cur : Cursor) : Nat → Option Cursor
  | 0 => some cur
  | n + 1 =>
    match cur.before with
    | [] => none
    | c :: earlier => back? ⟨earlier, c :: cur.after, cur.position - 1⟩ n

end Cursor

def Anchor.holds (cur : Cursor) : Anchor → Bool
  | textStart => cur.before.isEmpty
  | lineStart => cur.before.head?.all (· == '\n')
  | textEnd => cur.after.isEmpty
  | lastLineEnd => cur.after.isEmpty || cur.after == ['\n']
  | lineEnd => cur.after.head?.all (· == '\n')
  | boundary ascii expected =>
    let isWord := fun c => Category.word.contains ascii c
    -- In an empty text there is neither a boundary nor a place that is none.
    !(cur.before.isEmpty && cur.after.isEmpty) &&
      (cur.before.head?.any isWord != cur.after.head?.any isWord) == expected

/-- What happened to a group: it was entered, or left behind a match, at that position. -/
inductive Mark where
  | entered (index position : Nat)
  | left (index position : Nat) (matched : Text)

abbrev Captures : Type := List Mark

namespace Captures

def text? (caps : Captures) (index : Nat) : Option Text :=
  caps.findSome? fun
    | .left i _ matched => if i = index then some matched else none
    | _ => none

/-- Whether a group has a match. One that is being matched anew still has its old match, unless that
ended further in front. -/
def has (caps : Captures) (index : Nat) : Bool :=
  let entry := caps.findSome? fun
    | .entered i position => if i = index then some position else none
    | _ => none
  let exit := caps.findSome? fun
    | .left i position _ => if i = index then some position else none
    | _ => none
  match entry, exit with
  | some entry, some exit => entry ≤ exit
  | _, _ => false

end Captures

abbrev Finish : Type := Cursor × Captures

abbrev Follow : Type := Cursor → Captures → Option Finish

def Cursor.literal (same : Char → Char → Bool) (k : Cursor → Option Finish) :
    Text → Cursor → Option Finish
  | [], cur => k cur
  | c :: rest, cur =>
    match cur.next? with
    | some (d, next) => if same c d then Cursor.literal same k rest next else none
    | none => none

def runTimes (body : Follow → Follow) (k : Follow) : Nat → Follow
  | 0 => k
  | n + 1 => body (runTimes body k n)

/-- Up to `n` further repetitions. None begins where the one before it began, so a repetition that
matches the empty text is not tried twice in one place. -/
def runMore (body : Follow → Follow) (reluctant : Bool) (k : Follow) : Nat → Option Nat → Follow
  | 0, _, cur, caps => k cur caps
  | n + 1, last, cur, caps =>
    let more := fun (_ : Unit) =>
      if last = some cur.position then none
      else body (runMore body reluctant k n (some cur.position)) cur caps
    if reluctant then
      match k cur caps with
      | some finish => some finish
      | none => more ()
    else
      match more () with
      | some finish => some finish
      | none => k cur caps

def finish : Follow := fun cur caps => some (cur, caps)

def commit (body : Follow) (k : Follow) : Follow := fun cur caps =>
  match body cur caps with
  | some (next, caps) => k next caps
  | none => none

def firmTimes (body : Follow) : Nat → Follow
  | 0, cur, caps => some (cur, caps)
  | n + 1, cur, caps =>
    match body cur caps with
    | some (next, caps) => firmTimes body n next caps
    | none => none

def firmMore (body : Follow) : Nat → Option Nat → Cursor → Captures → Finish
  | 0, _, cur, caps => (cur, caps)
  | n + 1, last, cur, caps =>
    if last = some cur.position then (cur, caps)
    else match body cur caps with
      | some (next, caps) => firmMore body n (some cur.position) next caps
      | none => (cur, caps)

def roomFor (least : Nat) (most : Option Nat) (cur : Cursor) : Nat :=
  -- Each further repetition begins in another place, so there are no more of them than places.
  let places := cur.after.length + 1
  match most with
  | some most => min (most - least) places
  | none => places

def runRest (body : Follow → Follow) (reluctant : Bool) (k : Follow) (least : Nat)
    (most : Option Nat) : Follow := fun cur caps =>
  runMore body reluctant k (roomFor least most cur) none cur caps

def firmRepeat (body : Follow) (least : Nat) (most : Option Nat) : Follow := fun cur caps =>
  match firmTimes body least cur caps with
  | some (next, caps) => some (firmMore body (roomFor least most next) none next caps)
  | none => none

def peek (expected : Bool) (body : Option Finish) (k : Follow) : Follow := fun cur caps =>
  match body, expected with
  | some (_, caps), true => k cur caps
  | none, false => k cur caps
  | _, _ => none

def Node.run : Node → Follow → Follow
  | empty, k => k
  | one set, k => fun cur caps =>
    match cur.next? with
    | some (c, next) => if set.contains c then k next caps else none
    | none => none
  | anchor a, k => fun cur caps => if a.holds cur then k cur caps else none
  | cat a b, k => a.run (b.run k)
  | alt a b, k => fun cur caps =>
    match a.run k cur caps with
    | some finish => some finish
    | none => b.run k cur caps
  | times least most greed body, k =>
    match greed with
    | .greedy => runTimes body.run (runRest body.run false k least most) least
    | .reluctant => runTimes body.run (runRest body.run true k least most) least
    | .possessive => commit (firmRepeat (body.run finish) least most) k
  | group none body, k => body.run k
  | group (some i) body, k => fun cur caps =>
    body.run (fun next caps =>
      let matched := cur.after.take (next.position - cur.position)
      k next (.left i next.position matched :: caps)) cur (.entered i cur.position :: caps)
  | atomic body, k => commit (body.run finish) k
  | again i _ ignoreCase ascii, k => fun cur caps =>
    match caps.text? i with
    | some t =>
      let same := fun c d => if ignoreCase then foldChar ascii c == foldChar ascii d else c == d
      Cursor.literal same (fun next => k next caps) t cur
    | none => none
  | given i yes no, k => fun cur caps =>
    if caps.has i then yes.run k cur caps else no.run k cur caps
  | ahead expected body, k => fun cur caps =>
    peek expected (body.run finish cur caps) k cur caps
  | behind expected width body, k => fun cur caps =>
    match cur.back? width with
    | some earlier => peek expected (body.run finish earlier caps) k cur caps
    | none => if expected then none else k cur caps

def Node.reach? (node : Node) (src : Text) : Option Nat :=
  (node.run finish (Cursor.start src) []).map fun f => f.1.position

end Descent.Pattern
