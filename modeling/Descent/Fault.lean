import Descent.Text.Printed

/-! Faults: what stops a grammar from being built, or a parse from going on. A failed match is not
a fault; no parser absorbs a fault. -/

namespace Descent

inductive Fault where
  | notSingleCharacter
  | noAlternatives
  | negativeCount
  | flagsAfterCompiling
  | tooManyDigits (count : Nat)
  | unprintable
  | notAnInteger (t : Text)
  | invalidPattern
  | conflictingFlags
  | repetitionTooLarge
  | codeTooLarge
  | lookbehindTooWide
  | notIndexSized
  | outOfMemory
  | raised (message : Text)
  | inapplicable
  | undefinedRule (name : Text)
deriving DecidableEq

/-- The most digits that are converted to an integer or from one. -/
def maxDigits : Nat := 4300

def maxShown : Nat := 200

namespace Fault

def opening : Fault → String
  | notSingleCharacter => "Expected a single character."
  | noAlternatives => "At least one parser required."
  | negativeCount => "The repetition count can't be negative."
  | flagsAfterCompiling => "cannot process flags argument with a compiled pattern"
  | tooManyDigits _ =>
    "Exceeds the limit (4300 digits) for integer string conversion: value has "
  | unprintable => "Exceeds the limit (4300 digits) for integer string conversion"
  | notAnInteger _ => "invalid literal for int() with base 10: "
  | invalidPattern => "invalid pattern"
  | conflictingFlags => "ASCII and UNICODE flags are incompatible"
  | repetitionTooLarge => "the repetition number is too large"
  | codeTooLarge => "Python int too large to convert to C int"
  | lookbehindTooWide => "invalid SRE code"
  | notIndexSized => "cannot fit 'int' into an index-sized integer"
  | outOfMemory => ""
  | raised _ => ""
  | inapplicable => "the function does not apply to this value"
  | undefinedRule _ => ""

def details : Fault → Text
  | tooManyDigits count => Text.decimal count
  | notAnInteger t => (Text.quote t).take maxShown
  | raised message => message
  | undefinedRule name => Text.quote name
  | _ => []

def closing : Fault → String
  | tooManyDigits _ => " digits; use sys.set_int_max_str_digits() to increase the limit"
  | unprintable => "; use sys.set_int_max_str_digits() to increase the limit"
  | _ => ""

def message (f : Fault) : Text := Text.ofString f.opening ++ f.details ++ Text.ofString f.closing

end Fault
end Descent
