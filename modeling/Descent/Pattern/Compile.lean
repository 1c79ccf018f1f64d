import Descent.Pattern.Escape
import Descent.Pattern.Matching
import Descent.Pattern.Reading
import Descent.Text.Lexeme

/-! Reading patterns, and compiled patterns. The reader goes through the tokens once; every step
takes at least one of them. A compiled pattern is an expression together with its spelling, which
messages quote. -/

namespace Descent.Pattern

def readEscape (r : Reading) (c : Char) (rest : List Token) :
    Except Fault (Reading × List Token) :=
  match category? c with
  | some (k, negated) => .ok (r.category k negated, rest)
  | none =>
    if c = 'A' then .ok (r.pushAnchor .textStart, rest)
    else if c = 'Z' then .ok (r.pushAnchor .textEnd, rest)
    else if c = 'b' then .ok (r.pushAnchor (.boundary r.frame.flags.ascii true), rest)
    else if c = 'B' then .ok (r.pushAnchor (.boundary r.frame.flags.ascii false), rest)
    else if c = '0' then do
      let (digits, rest) := Token.run isOctal 2 rest
      return (r.literal (← octal digits), rest)
    else if c.isDigit then do
      let (code, behind) := Token.run isOctal 2 rest
      if isOctal c && code.length == 2 then return (r.literal (← octal (c :: code)), behind)
      else
        let (digits, rest) := Token.run Char.isDigit 1 rest
        return (← r.again (Text.decimalValue (c :: digits)), rest)
    else do
      let (code, rest) ← readChar c rest
      return (r.literal code, rest)

structure Bounds where
  low : Text
  high : Option Text

def readBounds? (tokens : List Token) : Option (Bounds × List Token) :=
  let (low, rest) := Token.run Char.isDigit tokens.length tokens
  match rest with
  | .plain '}' :: rest => if low.isEmpty then none else some (⟨low, none⟩, rest)
  | .plain ',' :: rest =>
    let (high, rest) := Token.run Char.isDigit rest.length rest
    match rest with
    | .plain '}' :: rest => some (⟨low, some high⟩, rest)
    | _ => none
  | _ => none

namespace Bounds

def limit : Nat := 0xffffffff

def value (digits : Text) : Except Fault Nat :=
  if maxDigits < digits.length then .error (.tooManyDigits digits.length)
  else
    let n := Text.decimalValue digits
    if n < limit then .ok n else .error .repetitionTooLarge

def least (b : Bounds) : Except Fault Nat := if b.low.isEmpty then .ok 0 else value b.low

def most (b : Bounds) : Except Fault (Option Nat) :=
  let digits := b.high.getD b.low
  if digits.isEmpty then .ok none else (value digits).map some

def values (b : Bounds) : Except Fault (Nat × Option Nat) := do
  let least ← b.least
  let most ← b.most
  if most.any (· < least) then .error .invalidPattern else .ok (least, most)

end Bounds

def readRepeat (r : Reading) (least : Nat) (most : Option Nat) (tokens : List Token) :
    Except Fault (Reading × List Token) := do
  let (greed, rest) := match tokens with
    | .plain '?' :: rest => (Greed.reluctant, rest)
    | .plain '+' :: rest => (Greed.possessive, rest)
    | _ => (Greed.greedy, tokens)
  return (← r.repeatLast least most greed, rest)

def readBrace (r : Reading) (tokens : List Token) : Except Fault (Reading × List Token) :=
  match readBounds? tokens with
  -- Where no bounds follow, the brace stands for itself.
  | none => .ok (r.literal '{'.toNat, tokens)
  | some (bounds, rest) =>
    if breaksOff rest then .error .invalidPattern
    else do
      let (least, most) ← bounds.values
      readRepeat r least most rest

def readName (stop : Char) (tokens : List Token) : Except Fault (Text × List Token) :=
  match Token.upTo? stop tokens with
  | some (name, rest) => if Text.isIdentifier name then .ok (name, rest) else .error .invalidPattern
  | none => .error .invalidPattern

def readNamedCapture (r : Reading) (tokens : List Token) :
    Except Fault (Reading × List Token) := do
  let (name, rest) ← readName '>' tokens
  if (r.names.lookup name).isSome then .error .invalidPattern
  else return ({ r with names := (name, r.groups + 1) :: r.names }.enterCapture, rest)

def readNamedAgain (r : Reading) (tokens : List Token) :
    Except Fault (Reading × List Token) := do
  let (name, rest) ← readName ')' tokens
  match r.names.lookup name with
  | some i => return (← r.again i, rest)
  | none => .error .invalidPattern

def maxGroups : Nat := 0x40000000

def readGiven (r : Reading) (tokens : List Token) : Except Fault (Reading × List Token) :=
  match Token.upTo? ')' tokens with
  | none => .error .invalidPattern
  | some (name, rest) =>
    let index :=
      if Text.isIdentifier name then r.names.lookup name
      else match Text.integer name with
        -- This may be the number of a group that comes later.
        | .ok n => if 0 < n ∧ n < maxGroups then some n.toNat else none
        | .error _ => none
    match index with
    | none => .error .invalidPattern
    | some i =>
      if r.sees i then .ok ({ r with asked := max r.asked i }.enter (.given i) r.frame.flags, rest)
      else .error .invalidPattern

def isFlag (c : Char) : Bool := (Text.ofString "imsxatu").contains c

/-- Flags hold for the whole pattern if nothing comes before them. What says that the pattern keeps
to ASCII and what says that it does not are kept apart. -/
def setFlags (r : Reading) (letters : Text) : Except Fault Reading :=
  if !r.outer.isEmpty || !r.frame.isEmpty then .error .invalidPattern
  else .ok { r with
    frame := { r.frame with flags := r.frame.flags.putAll true (letters.filter (· != 'u')) }
    unicode := r.unicode || letters.contains 'u'
    onceOnly := r.onceOnly || letters.contains 't' }

def readFlags (r : Reading) (tokens : List Token) : Except Fault (Reading × List Token) :=
  let (on, rest) := Token.run isFlag tokens.length tokens
  if on.contains 'a' && on.contains 'u' then .error .invalidPattern
  else match rest with
    | .plain ')' :: rest =>
      if on.isEmpty then .error .invalidPattern else (setFlags r on).map fun r => (r, rest)
    | .plain ':' :: rest =>
      if on.contains 't' then .error .invalidPattern
      else .ok (r.enter .flagged (r.frame.flags.putAll true on), rest)
    | .plain '-' :: rest =>
      let (off, rest) := Token.run isFlag rest.length rest
      let wrong := on.contains 't' || off.isEmpty || off.any fun c =>
        c == 'a' || c == 'u' || c == 't' || on.contains c
      match rest with
      | .plain ':' :: rest =>
        if wrong then .error .invalidPattern
        else .ok (r.enter .flagged ((r.frame.flags.putAll true on).putAll false off), rest)
      | _ => .error .invalidPattern
    | _ => .error .invalidPattern

def readGroup (r : Reading) (tokens : List Token) : Except Fault (Reading × List Token) :=
  let flags := r.frame.flags
  match tokens with
  | .plain '?' :: .plain ':' :: rest => .ok (r.enter .plain flags, rest)
  | .plain '?' :: .plain '>' :: rest => .ok (r.enter .atomic flags, rest)
  | .plain '?' :: .plain '=' :: rest => .ok (r.enter (.ahead true) flags, rest)
  | .plain '?' :: .plain '!' :: rest => .ok (r.enter (.ahead false) flags, rest)
  | .plain '?' :: .plain '<' :: .plain '=' :: rest =>
    .ok (r.enter (.behind true r.groups) flags, rest)
  | .plain '?' :: .plain '<' :: .plain '!' :: rest =>
    .ok (r.enter (.behind false r.groups) flags, rest)
  | .plain '?' :: .plain '(' :: rest => readGiven r rest
  | .plain '?' :: .plain 'P' :: .plain '<' :: rest => readNamedCapture r rest
  | .plain '?' :: .plain 'P' :: .plain '=' :: rest => readNamedAgain r rest
  | .plain '?' :: .plain '#' :: rest =>
    match Token.upTo? ')' rest with
    | some (_, rest) => .ok (r, rest)
    | none => .error .invalidPattern
  | .plain '?' :: rest => readFlags r rest
  | _ => .ok (r.enterCapture, tokens)

def readPlain (r : Reading) (c : Char) (rest : List Token) : Except Fault (Reading × List Token) :=
  let flags := r.frame.flags
  if flags.verbose && Text.isAsciiSpace c then .ok (r, rest)
  else if flags.verbose && c == '#' then
    -- A comment ends where its line does.
    .ok (r, rest.dropWhile fun token => token != .plain '\n' && token != .dangling)
  else match c with
    | '[' => do
      let ((items, negated), rest) ← readSet rest
      return (r.push (r.frame.setOf items negated), rest)
    | '*' => readRepeat r 0 none rest
    | '+' => readRepeat r 1 none rest
    | '?' => readRepeat r 0 (some 1) rest
    | '{' => readBrace r rest
    | '.' =>
      .ok (r.push (.one ⟨if flags.dotAll then [] else [.single '\n'.toNat], true, false, false⟩),
        rest)
    | '^' => .ok (r.pushAnchor (if flags.multiline then .lineStart else .textStart), rest)
    | '$' => .ok (r.pushAnchor (if flags.multiline then .lineEnd else .lastLineEnd), rest)
    | '(' => readGroup r rest
    | ')' =>
      match r.outer with
      | parent :: outer => .ok (r.leave parent outer, rest)
      | [] => .error .invalidPattern
    | '|' => do return (← r.orElse, rest)
    | _ => .ok (r.literal c.toNat, rest)

def readItem (r : Reading) (token : Token) (rest : List Token) :
    Except Fault (Reading × List Token) :=
  match token with
  | .plain c => readPlain r c rest
  | .escaped c => readEscape r c rest
  | .dangling => .error .invalidPattern

/-- Reads up to the end, or up to a closing parenthesis that closes nothing; answers with what is
left. Each step takes a token, and `fuel` is their number. -/
def readItems : (fuel : Nat) → Reading → List Token → Except Fault (Reading × List Token)
  | _, r, [] => .ok (r, [])
  | 0, _, _ => .error .invalidPattern
  | n + 1, r, token :: rest =>
    if token = .plain ')' ∧ r.outer.isEmpty then .ok (r, token :: rest)
    else match readItem r token rest with
      | .ok (r, rest) => readItems n r rest
      | .error e => .error e

def maxWidth : Nat := 0x7fffffff

def Node.hasFixedLookbehind (node : Node) : Bool :=
  node.all fun
    | .behind _ _ body => body.width.isFixed && body.width.least < 0x100000000
    | _ => true

def Node.hasNearLookbehind (node : Node) : Bool :=
  node.all fun
    | .behind _ width _ => width ≤ maxWidth
    | _ => true

def Node.hasRepeat (node : Node) : Bool :=
  !node.all fun
    | .times .. => false
    | _ => true

/-- The expression that has been read, with `rest` left over. Of several faults the first in this
order counts. -/
def Reading.finish (r : Reading) (rest : List Token) : Except Fault Node :=
  let node := Node.ofList r.frame.body
  if !r.outer.isEmpty then .error .invalidPattern
  else if r.unicode && r.frame.flags.ascii then .error .conflictingFlags
  else if !rest.isEmpty || r.groups < r.asked || !node.hasFixedLookbehind then
    .error .invalidPattern
  else if r.onceOnly && node.hasRepeat then .error .invalidPattern
  else if !node.hasNearLookbehind then .error .lookbehindTooWide
  else .ok node

def Node.read (flags : Flags) (src : Text) : Except Fault Node := do
  let tokens := Token.ofText src
  let (r, rest) ← readItems tokens.length { frame := { opening := .whole, flags } } tokens
  r.finish rest

end Descent.Pattern

namespace Descent

structure Pattern where
  source : Text
  node : Pattern.Node
deriving DecidableEq

namespace Pattern

def compile (source : Text) (flags : Flags) : Except Fault Pattern :=
  (Node.read flags source).map fun node => ⟨source, node⟩

def withFlags (p : Pattern) (flags : Flags) : Except Fault Pattern :=
  if flags = {} then .ok p else .error .flagsAfterCompiling

def split? (p : Pattern) (src : Text) : Option (Text × Text) :=
  (p.node.reach? src).map fun n => (src.take n, src.drop n)

theorem append_of_split? {p : Pattern} {src front rest : Text}
    (h : p.split? src = some (front, rest)) : front ++ rest = src := by
  obtain ⟨n, _, hn⟩ := Option.map_eq_some_iff.1 h
  simp only [Prod.mk.injEq] at hn
  rw [← hn.1, ← hn.2, List.take_append_drop]

end Pattern
end Descent
