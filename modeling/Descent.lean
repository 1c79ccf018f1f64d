import Descent.Text.Classes
import Descent.Text.LowerCase
import Descent.Text.Printed
import Descent.Place
import Descent.Parser.Primitives
import Descent.Parser.Delayed
import Descent.Value
import Descent.Value.Apply
import Descent.Grammar.Build
import Descent.Complete
import Descent.Proofs.Repetition
import Descent.Proofs.Sequencing
import Descent.Proofs.Counting
import Descent.Proofs.Alternatives
import Descent.Proofs.Outcome
import Descent.Proofs.Runs
import Descent.Proofs.Integer
import Descent.Proofs.Nesting
import Descent.Proofs.Safety
import Descent.Proofs.Remainder
import Descent.Proofs.NestedLists
import Descent.Proofs.Coupling
import Descent.Proofs.Substitution
import Descent.Proofs.Rebuilding
import Descent.Proofs.Messages
import Descent.Proofs.Reuse
import Descent.Proofs.Reading
import Descent.Proofs.Verbatim
import Descent.Proofs.WholeInput
import Descent.Proofs.KeyValues
import Descent.Proofs.Quotation
import Descent.Proofs.Unclosed
import Descent.Proofs.FixedText
import Descent.Proofs.LengthPrefix
import Descent.Proofs.Excerpt
import Descent.Proofs.Attempts
import Descent.Proofs.SeparatedLists
import Descent.Proofs.ExcerptRange
import Descent.Proofs.Location
import Descent.Proofs.LineEnds
import Descent.Proofs.FirstUse
import Descent.Proofs.IgnoringCase
import Descent.Proofs.Pieces
import Descent.Proofs.PlainQuotation
import Descent.Proofs.Parentheses
import Descent.Proofs.Invocations
import Descent.Proofs.OrderedChoice
import Descent.Proofs.CharacterSets
import Descent.Proofs.LongestRun
import Descent.Proofs.PrintedText
import Descent.Proofs.PrintedForm
