import Descent.Fault
import Descent.Pattern.Syntax

/-! The tokens of a pattern, and what is read from them first: escapes of characters and of
categories, and the sets between brackets that are made of them and of plain characters.

A token is a character that stands by itself, or a backslash together with the character behind it.
A pattern is cut into tokens before anything else is read, so a backslash takes its character along
in comments as well. -/

namespace Descent.Pattern

inductive Token where
  | plain (c : Char)
  | escaped (c : Char)
  | dangling
deriving DecidableEq

namespace Token

def ofText : Text → List Token
  | [] => []
  | [c] => [if c = '\\' then dangling else plain c]
  | c :: d :: rest => if c = '\\' then escaped d :: ofText rest else plain c :: ofText (d :: rest)

def spelling : Token → Text
  | plain c => [c]
  | escaped c => ['\\', c]
  | dangling => ['\\']

def run (test : Char → Bool) : Nat → List Token → Text × List Token
  | n + 1, plain c :: rest =>
    if test c then
      let (front, rest) := run test n rest
      (c :: front, rest)
    else ([], plain c :: rest)
  | _, tokens => ([], tokens)

def upTo? (stop : Char) : List Token → Option (Text × List Token)
  | [] => none
  | token :: rest =>
    if token = plain stop then some ([], rest)
    else (upTo? stop rest).map fun (t, rest) => (token.spelling ++ t, rest)

end Token

def isOctal (c : Char) : Bool := '0' ≤ c && c ≤ '7'

def isHex (c : Char) : Bool := c.isDigit || ('a' ≤ c && c ≤ 'f') || ('A' ≤ c && c ≤ 'F')

def hexValue (c : Char) : Nat :=
  if c.isDigit then c.toNat - '0'.toNat else c.toLower.toNat - 'a'.toNat + 10

def readHex (digits : Text) : Nat := digits.foldl (fun value c => 16 * value + hexValue c) 0

def readOctal (digits : Text) : Nat :=
  digits.foldl (fun value c => 8 * value + (c.toNat - '0'.toNat)) 0

def control? (c : Char) : Option Nat :=
  match c with
  | 'a' => some 0x7
  | 'f' => some 0xc
  | 'n' => some 0xa
  | 'r' => some 0xd
  | 't' => some 0x9
  | 'v' => some 0xb
  | _ => none

def category? (c : Char) : Option (Category × Bool) :=
  match c with
  | 'd' => some (.digit, false)
  | 'D' => some (.digit, true)
  | 's' => some (.space, false)
  | 'S' => some (.space, true)
  | 'w' => some (.word, false)
  | 'W' => some (.word, true)
  | _ => none

def hexWidth? (c : Char) : Option Nat :=
  match c with
  | 'x' => some 2
  | 'u' => some 4
  | 'U' => some 8
  | _ => none

def lastCode : Nat := 0x10ffff

def breaksOff (tokens : List Token) : Bool := tokens.head? == some .dangling

def readCode (width : Nat) (tokens : List Token) : Except Fault (Nat × List Token) :=
  let (digits, rest) := Token.run isHex width tokens
  let code := readHex digits
  -- Looking for the token behind the digits already shows that the pattern breaks off there.
  if digits.length < width || breaksOff rest then .error .invalidPattern
  else if code ≤ lastCode then .ok (code, rest)
  else if code < 0x80000000 then .error .invalidPattern
  else .error .codeTooLarge

def readChar (c : Char) (rest : List Token) : Except Fault (Nat × List Token) :=
  match control? c, hexWidth? c with
  | some code, _ => .ok (code, rest)
  | none, some width => readCode width rest
  -- No other letter has a meaning here; characters are not looked up by their names.
  | none, none => if c.isAlphanum then .error .invalidPattern else .ok (c.toNat, rest)

def octal (digits : Text) : Except Fault Nat :=
  if readOctal digits < 0x100 then .ok (readOctal digits) else .error .invalidPattern

def readMember : List Token → Except Fault (SetItem × List Token)
  | .plain c :: rest => .ok (.single c.toNat, rest)
  | .escaped c :: rest =>
    match category? c with
    | some (k, negated) => .ok (.category k negated, rest)
    | none =>
      if c = 'b' then .ok (.single 0x8, rest)
      else if isOctal c then do
        let (digits, rest) := Token.run isOctal 2 rest
        return (.single (← octal (c :: digits)), rest)
      else do
        let (code, rest) ← readChar c rest
        return (.single code, rest)
  | _ => .error .invalidPattern

/-- Reads the members of a set up to its closing bracket. A bracket right at the start is a member.
Each step takes a token, and `fuel` is their number. -/
def readMembers : (fuel : Nat) → List SetItem → List Token →
    Except Fault (List SetItem × List Token)
  | 0, _, _ => .error .invalidPattern
  | n + 1, found, tokens =>
    if tokens.head? = some (.plain ']') ∧ !found.isEmpty then .ok (found.reverse, tokens.tail)
    else do
      let (low, rest) ← readMember tokens
      match rest with
      | .plain '-' :: .plain ']' :: rest =>
        return ((.single '-'.toNat :: low :: found).reverse, rest)
      | .plain '-' :: rest =>
        let (high, rest) ← readMember rest
        match low, high with
        | .single a, .single b =>
          if a ≤ b then readMembers n (.range a b :: found) rest else .error .invalidPattern
        | _, _ => .error .invalidPattern
      | _ => readMembers n (low :: found) rest

def readSet (tokens : List Token) : Except Fault ((List SetItem × Bool) × List Token) := do
  let (negated, tokens) := match tokens with
    | .plain '^' :: rest => (true, rest)
    | _ => (false, tokens)
  let (items, rest) ← readMembers (tokens.length + 1) [] tokens
  return ((items.eraseDups, negated), rest)

end Descent.Pattern
