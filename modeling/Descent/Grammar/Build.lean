import Descent.Grammar
import Descent.Parser.Values

/-! Building the parser that a grammar describes. Parts are built from left to right and the first
fault wins; what is delayed is built when it is used. Every node has an address of its own. -/

namespace Descent

abbrev Resolver : Type := Text → Address → Except Fault ValueParser

def Pattern.Flags.ofLetters (letters : Text) : Pattern.Flags := Pattern.Flags.putAll true {} letters

mutual

def Grammar.build (resolve : Resolver) (address : Address) : Grammar → Except Fault ValueParser
  | .anyChar => .ok (.ofChar .anyChar)
  | .blank => .ok (.ofChar .blank)
  | .digit => .ok (.ofChar .digit)
  | .blanks => .ok (.ofText .blanks)
  | .blanks1 => .ok (.ofText .blanks1)
  | .endOfInput => .ok (.ofText .endOfInput)
  | .integer => .ok (.ofInt .integer)
  | .char c => return .ofChar (.char (← c.single))
  | .notChar c => return .ofChar (.notChar (← c.single))
  | .oneOf members => .ok (.ofChar (.oneOf members))
  | .satisfy test mismatch atEnd =>
    .ok (.ofChar (.satisfy (test.holds ·) (fun c => Template.fillText mismatch [c]) atEnd))
  | .text t => .ok (.ofText (.text t))
  | .textIgnoringCase t => .ok (.ofText (.textIgnoringCase t))
  | .upTo c => return .ofText (.upTo (← c.single))
  | .quotedText quote escape replacements => do
    let e ← escape.single
    let q ← quote.single
    return .ofText (.quotedText q e fun c => replacements.lookup [c])
  | .pattern source flags =>
    return .ofText (.matching (← Pattern.compile source (.ofLetters flags)))
  | .compiledPattern source flags laterFlags => do
    let p ← Pattern.compile source (.ofLetters flags)
    return .ofText (.matching (← p.withFlags (.ofLetters laterFlags)))
  | .succeed v => .ok (.pure v)
  | .fail message => .ok (.fail message)
  | .take n => .ok (.ofText (.take n))
  | .remainder => .ok (.ofText .remainder)
  | .insert t => .ok (.ofText (.insert t))
  | .raise message => .ok (.raise (.raised message))
  | .after leading body => do
    let p ← leading.build resolve (0 :: address)
    let q ← body.build resolve (1 :: address)
    return .after p q
  | .before body trailing => do
    let p ← body.build resolve (0 :: address)
    let q ← trailing.build resolve (1 :: address)
    return .before p q
  | .pair first second => do
    let p ← first.build resolve (0 :: address)
    let q ← second.build resolve (1 :: address)
    return .ofPair (.pair p q)
  | .between left right body => do
    let p ← body.build resolve (0 :: address)
    let l ← left.build resolve (1 :: address)
    let r ← right.build resolve (2 :: address)
    return .between l r p
  | .within delimiter body => do
    let p ← body.build resolve (0 :: address)
    let d ← delimiter.build resolve (1 :: address)
    return .between d d p
  | .orElse first second => do
    let p ← first.build resolve (0 :: address)
    let q ← second.build resolve (1 :: address)
    return .orElse p q
  | .choose alternatives => do
    ParserT.choose (← Grammar.buildAll resolve address 0 alternatives)
  | .guarded gate body => do
    let p ← gate.build resolve (0 :: address)
    let q ← body.build resolve (1 :: address)
    return .guarded p q
  | .notAhead body message => do
    let p ← body.build resolve (0 :: address)
    return .ofUnit (.notAheadM (fun v => Eval.ofExcept (Template.fill message v)) p)
  | .lookahead body => return .lookahead (← body.build resolve (0 :: address))
  | .optional body => return .ofOption (.optional (← body.build resolve (0 :: address)))
  | .withDefault body v => return .withDefault v (← body.build resolve (0 :: address))
  | .many body => return .ofList (.many (← body.build resolve (0 :: address)))
  | .many1 body => return .ofList (.many1 (← body.build resolve (0 :: address)))
  | .sequence parts => return .ofList (.sequence (← Grammar.buildAll resolve address 0 parts))
  | .times n body => do
    let p ← body.build resolve (0 :: address)
    return .ofList (← ParserT.times? n p)
  | .sepBy item separator => do
    let p ← item.build resolve (0 :: address)
    let s ← separator.build resolve (1 :: address)
    return .ofList (.sepBy p s)
  | .sepBy1 item separator => do
    let p ← item.build resolve (0 :: address)
    let s ← separator.build resolve (1 :: address)
    return .ofList (.sepBy1 p s)
  | .map f body => return .mapM (ValueParser.calling f) (← body.build resolve (0 :: address))
  | .apply function body => do
    let f ← function.build resolve (0 :: address)
    let p ← body.build resolve (1 :: address)
    return .apply (f.map fun g v => Eval.ofExcept (g.call v)) p
  | .lift₁ f body => return .lift₁ (ValueParser.calling f) (← body.build resolve (0 :: address))
  | .lift₂ op first second => do
    let p ← first.build resolve (0 :: address)
    let q ← second.build resolve (1 :: address)
    return .lift₂ (fun v w => Eval.ofExcept (op.apply v w)) p q
  | .bind body next => do
    let p ← body.build resolve (0 :: address)
    let k ← next.build resolve (1 :: address)
    return .bind p fun v => .ofExcept (k v)
  | .delayed name body =>
    .ok (.delayed address (some name) fun _ => body.build resolve (0 :: address))
  | .rule name => .ok (.delayed address none fun _ => resolve name (0 :: address))
  | .probe name body => return .probe name id (← body.build resolve (0 :: address))

def Grammar.buildAll (resolve : Resolver) (address : Address) (i : Nat) :
    List Grammar → Except Fault (List ValueParser)
  | [] => .ok []
  | g :: rest => do
    let p ← g.build resolve (i :: address)
    let ps ← Grammar.buildAll resolve address (i + 1) rest
    return p :: ps

def Continuation.build (resolve : Resolver) (address : Address) :
    Continuation → Except Fault (Value → Except Fault ValueParser)
  | .times body => do
    let p ← body.build resolve (0 :: address)
    return fun v => (ValueParser.timesOf p v).map .ofList
  | .char => .ok fun v => (ValueParser.charOf v).map .ofChar
  | .notChar => .ok fun v => (ValueParser.notCharOf v).map .ofChar
  | .text => .ok fun v => (ValueParser.textOf v).map .ofText
  | .textIgnoringCase => .ok fun v => (ValueParser.textIgnoringCaseOf v).map .ofText
  | .upTo => .ok fun v => (ValueParser.upToOf v).map .ofText
  | .oneOf => .ok fun v => (ValueParser.memberOf v).map .ofChar
  | .compute f => .ok fun v => (f.apply v).map .pure
  | .always body => do
    let p ← body.build resolve (0 :: address)
    return fun _ => .ok p
  | .cases arms => arms.build resolve address 0

def Arms.build (resolve : Resolver) (address : Address) (i : Nat) :
    Arms → Except Fault (Value → Except Fault ValueParser)
  | .otherwise body => do
    let p ← body.build resolve (i :: address)
    return fun _ => .ok p
  | .arm v body rest => do
    let p ← body.build resolve (i :: address)
    let others ← rest.build resolve address (i + 1)
    return fun w => if v == w then .ok p else others w

end

abbrev Rules : Type := List (Text × Grammar)

/-- Builds a rule anew for each reference. References within references are followed `depth` times
at most; what lies deeper is a parser that never answers. -/
def Rules.resolve (rules : Rules) : Nat → Resolver
  | 0, _, _ => .ok .tooDeep
  | depth + 1, name, address =>
    match rules.lookup name with
    | some g => g.build (Rules.resolve rules depth) address
    | none => .error (.undefinedRule name)

def Grammar.parser (g : Grammar) (rules : Rules) (depth : Nat) : Except Fault ValueParser :=
  g.build (Rules.resolve rules depth) []

end Descent
