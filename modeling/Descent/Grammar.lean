import Descent.Value

/-! Grammars as data: which parsers to build and how to combine them. A grammar may be ill formed,
which shows when it is built. -/

namespace Descent

inductive CharTest where
  | among (members : Text)
  | outside (members : Text)
  | between (low high : Char)
  | always
  | never
deriving DecidableEq

def CharTest.holds (c : Char) : CharTest → Bool
  | among members => members.contains c
  | outside members => !members.contains c
  | between low high => low ≤ c && c ≤ high
  | always => true
  | never => false

mutual

/-- A parser to be built. Characters are given as texts, which have to be of length one. -/
inductive Grammar where
  | anyChar
  | blank
  | digit
  | blanks
  | blanks1
  | endOfInput
  | integer
  | char (c : Text)
  | notChar (c : Text)
  | oneOf (members : List Text)
  | satisfy (test : CharTest) (mismatch atEnd : Text)
  | text (t : Text)
  | textIgnoringCase (t : Text)
  | upTo (c : Text)
  | quotedText (quote escape : Text) (replacements : List (Text × Text))
  | pattern (source flags : Text)
  | compiledPattern (source flags laterFlags : Text)
  | succeed (v : Value)
  | fail (message : Text)
  | take (n : Nat)
  | remainder
  | insert (t : Text)
  | raise (message : Text)
  | after (leading body : Grammar)
  | before (body trailing : Grammar)
  | pair (first second : Grammar)
  | between (left right body : Grammar)
  | within (delimiter body : Grammar)
  | orElse (first second : Grammar)
  | choose (alternatives : List Grammar)
  | guarded (gate body : Grammar)
  | notAhead (body : Grammar) (message : Text)
  | lookahead (body : Grammar)
  | optional (body : Grammar)
  | withDefault (body : Grammar) (default : Value)
  | many (body : Grammar)
  | many1 (body : Grammar)
  | sequence (parts : List Grammar)
  | times (n : Int) (body : Grammar)
  | sepBy (item separator : Grammar)
  | sepBy1 (item separator : Grammar)
  | map (f : Function) (body : Grammar)
  | apply (function body : Grammar)
  | lift₁ (f : Function) (body : Grammar)
  | lift₂ (op : Binary) (first second : Grammar)
  | bind (body : Grammar) (next : Continuation)
  | delayed (name : Text) (body : Grammar)
  | rule (name : Text)
  | probe (name : Text) (body : Grammar)

inductive Continuation where
  | times (body : Grammar)
  | char
  | notChar
  | text
  | textIgnoringCase
  | upTo
  | oneOf
  | compute (f : Function)
  | always (body : Grammar)
  | cases (arms : Arms)

inductive Arms where
  | otherwise (body : Grammar)
  | arm (v : Value) (body : Grammar) (rest : Arms)

end

end Descent
