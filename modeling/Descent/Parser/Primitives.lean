import Descent.Parser.Basic
import Descent.Pattern.Compile

/-! Ready-made parsers: of single characters, of the input as it is, of fixed texts and runs of
characters, of decimal integers, of quoted texts, and of patterns. -/

namespace Descent.ParserT

variable {m : Type → Type} [Monad m]

def satisfy (test : Char → Bool) (mismatch : Char → Text) (atEnd : Text) : ParserT m Char
  | [] => pure (.failure atEnd)
  | c :: rest => pure (if test c then .success c rest else .failure (mismatch c))

def endName : Text := Text.ofString "end of input"

def shown : Option Char → Text
  | some c => Text.quote [c]
  | none => endName

def wanted (what : Text) (got : Option Char) : Text :=
  Text.ofString "Expected " ++ what ++ Text.ofString " but got " ++ shown got

def expect (what : Text) (test : Char → Bool) : ParserT m Char :=
  satisfy test (fun c => wanted what (some c)) (wanted what none)

def char (c : Char) : ParserT m Char := expect (Text.quote [c]) (· == c)

def notChar (c : Char) : ParserT m Char :=
  expect (Text.ofString "any character except " ++ Text.quote [c]) (· != c)

def anyChar : ParserT m Char := expect (Text.ofString "any character") fun _ => true

/-- Matches a character that is a member on its own. Members of another length match nothing; the
messages show them all the same. -/
def oneOf (members : List Text) : ParserT m Char :=
  expect (Text.ofString "one of " ++ Text.quote (Text.sortedDistinct members).flatten)
    fun c => members.contains [c]

def blank : ParserT m Char := expect (Text.ofString "whitespace") Alphabet.blanks.contains

def digit : ParserT m Char := expect (Text.ofString "a digit") Alphabet.decimal.contains

theorem satisfy_nil (test : Char → Bool) (mismatch : Char → Text) (atEnd : Text) :
    satisfy (m := m) test mismatch atEnd [] = pure (.failure atEnd) := rfl

theorem satisfy_cons (test : Char → Bool) (mismatch : Char → Text) (atEnd : Text) (c : Char)
    (rest : Text) : satisfy (m := m) test mismatch atEnd (c :: rest) =
      pure (if test c then .success c rest else .failure (mismatch c)) := rfl

/-! The input as it is, whatever it holds. `insert` leaves more than it was given. -/

def take (n : Nat) : ParserT m Text := fun src =>
  pure <| if n ≤ src.length then .success (src.take n) (src.drop n)
    else .failure (Text.ofString "Expected " ++ Text.decimal n ++ Text.ofString " characters")

def remainder : ParserT m Text := fun src => pure (.success src [])

def insert (t : Text) : ParserT m Text := fun src => pure (.success t (t ++ src))

def raise {α : Type} [MonadExceptOf Fault m] (f : Fault) : ParserT m α := fun _ => throw f

/-! Fixed texts, runs of characters and the end of the text. -/

def text (t : Text) : ParserT m Text := sequence (t.map char)

def partIgnoringCase (t : Text) : ParserT m Char :=
  expect (Text.quote t ++ Text.ofString " (any case)") fun c => Text.lower c == t.flatMap Text.lower

def charIgnoringCase (c : Char) : ParserT m Char := partIgnoringCase [c]

/-- Matches the text `t` in any mixture of cases; the value is as the input spells it. -/
def textIgnoringCase (t : Text) : ParserT m Text := sequence (t.map charIgnoringCase)

def upTo (c : Char) : ParserT m Text := before (many (notChar c)) (lookahead (char c))

def blanks : ParserT m Text := many blank

def blanks1 : ParserT m Text := many1 blank

def endOfInput : ParserT m Text :=
  (notAhead (fun c => wanted endName (some c)) anyChar).map fun _ => []

/-! Decimal integers. -/

section
variable [MonadExceptOf Fault m]

def readDigits (digits : Text) : m Nat :=
  if maxDigits < digits.length then throw (.tooManyDigits digits.length)
  else pure (Text.decimalValue digits)

def magnitude : ParserT m Nat :=
  orElse ((char '0').map fun _ => 0) ((many1 digit).mapM readDigits)

def withSign (sign : Option Char) (n : Nat) : Int :=
  match sign with
  | none => n
  | some _ => -n

def integer : ParserT m Int :=
  (pair (ParserT.optional (char '-')) magnitude).map fun sn => withSign sn.1 sn.2

end

/-! Text between two quote characters, in which an escape character changes the meaning of the
character behind it. -/

/-- The escape character and any character, read as its replacement, or as itself if it has none. -/
def escapedChar (escape : Char) (replacement : Char → Option Text) : ParserT m Text :=
  after (char escape)
    ((satisfy (fun _ => true) (fun c => wanted (Text.ofString "a character to escape") (some c))
      (wanted (Text.ofString "a character to escape after " ++ Text.quote [escape]) none)).map
        fun c => (replacement c).getD [c])

def plainChar (quote escape : Char) : ParserT m Text :=
  (satisfy (fun c => c != quote && c != escape)
    (fun c => wanted (Text.ofString "a string character") (some c))
    (wanted (Text.ofString "closing " ++ Text.quote [quote]) none)).map fun c => [c]

def quotedBody (quote escape : Char) (replacement : Char → Option Text) : ParserT m Text :=
  (many (orElse (escapedChar escape replacement) (plainChar quote escape))).map List.flatten

def quotedText (quote escape : Char) (replacement : Char → Option Text) : ParserT m Text :=
  between (char quote) (char quote) (quotedBody quote escape replacement)

/-- Matches the pattern at the start of what is left. It sees nothing that was read before. -/
def matching (p : Pattern) : ParserT m Text := fun src =>
  pure <| match p.split? src with
    | some (front, rest) => .success front rest
    | none => .failure (wanted (Text.ofString "a match for /" ++ p.source ++ ['/']) src.head?)

end Descent.ParserT
