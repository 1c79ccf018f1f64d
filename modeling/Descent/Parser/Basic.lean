import Descent.Fault
import Descent.Result

/-! Parsers and their combinators. A parser takes the text that is left and answers with a result,
in a monad `m` that carries whatever else running it does.

Sequencing hands each parser what the one before it left, and the first failure is the failure of
the whole. A parser that is tried after a failure starts from the same text, and the failure's
message is forgotten. A greedy repetition goes on while its parser matches and shortens the text; a
match that leaves the text as long as it was is kept, and is the last one. -/

namespace Descent

def ParserT (m : Type → Type) (α : Type) : Type := Text → m (Result α)

abbrev Parser : Type → Type := ParserT Id

namespace ParserT

variable {m : Type → Type} [Monad m] {α β γ : Type}

def run (p : ParserT m α) (src : Text) : m (Result α) := p src

def parse (p : Parser α) (src : Text) : Result α := Id.run (p src)

protected def pure (v : α) : ParserT m α := fun src => Pure.pure (.success v src)

def fail (message : Text) : ParserT m α := fun _ => pure (.failure message)

protected def lift (effect : m α) : ParserT m α := fun src =>
  effect >>= fun v => pure (.success v src)

protected def bind (p : ParserT m α) (next : α → ParserT m β) : ParserT m β := fun src =>
  p src >>= fun
    | .success v rest => next v rest
    | .failure e => pure (.failure e)

protected def map (f : α → β) (p : ParserT m α) : ParserT m β := fun src =>
  p src >>= fun
    | .success v rest => pure (.success (f v) rest)
    | .failure e => pure (.failure e)

protected def mapM (f : α → m β) (p : ParserT m α) : ParserT m β := fun src =>
  p src >>= fun
    | .success v rest => f v >>= fun w => pure (.success w rest)
    | .failure e => pure (.failure e)

def after (leading : ParserT m α) (p : ParserT m β) : ParserT m β := fun src =>
  leading src >>= fun
    | .success _ rest => p rest
    | .failure e => pure (.failure e)

def before (p : ParserT m α) (trailing : ParserT m β) : ParserT m α := fun src =>
  p src >>= fun
    | .success v rest => trailing rest >>= fun
      | .success _ last => pure (.success v last)
      | .failure e => pure (.failure e)
    | .failure e => pure (.failure e)

def pair (p : ParserT m α) (q : ParserT m β) : ParserT m (α × β) := fun src =>
  p src >>= fun
    | .success v rest => q rest >>= fun
      | .success w last => pure (.success (v, w) last)
      | .failure e => pure (.failure e)
    | .failure e => pure (.failure e)

def between (left : ParserT m α) (right : ParserT m γ) (p : ParserT m β) : ParserT m β :=
  before (after left p) right

def apply (f : ParserT m (α → m β)) (p : ParserT m α) : ParserT m β :=
  (pair f p).mapM fun fv => fv.1 fv.2

def lift₁ (f : α → m β) (p : ParserT m α) : ParserT m β := apply (ParserT.pure f) p

def lift₂ (f : α → β → m γ) (p : ParserT m α) (q : ParserT m β) : ParserT m γ :=
  apply (apply (ParserT.pure fun v => pure (f v)) p) q

instance : Monad (ParserT m) where
  pure := ParserT.pure
  bind := ParserT.bind
  map := ParserT.map
  seqLeft p q := before p (q ())
  seqRight p q := after p (q ())

instance : MonadLift m (ParserT m) := ⟨ParserT.lift⟩

/-! Alternatives and lookahead. -/

def orElse (p q : ParserT m α) : ParserT m α := fun src =>
  p src >>= fun
    | .success v rest => pure (.success v rest)
    | .failure _ => q src

def choose : List (ParserT m α) → Except Fault (ParserT m α)
  | [] => .error .noAlternatives
  | p :: rest => .ok (rest.foldl orElse p)

def guarded (gate : ParserT m α) (p : ParserT m β) : ParserT m β := fun src =>
  gate src >>= fun
    | .success _ _ => p src
    | .failure e => pure (.failure e)

def notAhead (message : α → Text) (p : ParserT m α) : ParserT m Unit := fun src =>
  p src >>= fun
    | .success v _ => pure (.failure (message v))
    | .failure _ => pure (.success () src)

def notAheadM (message : α → m Text) (p : ParserT m α) : ParserT m Unit := fun src =>
  p src >>= fun
    | .success v _ => message v >>= fun e => pure (.failure e)
    | .failure _ => pure (.success () src)

def lookahead (p : ParserT m α) : ParserT m α := fun src =>
  p src >>= fun
    | .success v _ => pure (.success v src)
    | .failure e => pure (.failure e)

protected def optional (p : ParserT m α) : ParserT m (Option α) := fun src =>
  p src >>= fun
    | .success v rest => pure (.success (some v) rest)
    | .failure _ => pure (.success none src)

def withDefault (default : α) (p : ParserT m α) : ParserT m α := fun src =>
  p src >>= fun
    | .success v rest => pure (.success v rest)
    | .failure _ => pure (.success default src)

instance : OrElse (ParserT m α) := ⟨fun p q => orElse p (q ())⟩

/-! Repetition. -/

def gather (p : ParserT m α) (found : Array α) (src : Text) : m (Result (List α)) :=
  p src >>= fun
    | .failure _ => pure (.success found.toList src)
    | .success v rest =>
      if rest.length < src.length then gather p (found.push v) rest
      else pure (.success (found.push v).toList rest)
termination_by src.length

def many (p : ParserT m α) : ParserT m (List α) := fun src =>
  p src >>= fun
    | .failure _ => pure (.success [] src)
    | .success v rest =>
      if rest.length < src.length then gather p #[v] rest else pure (.success [v] rest)

def many1 (p : ParserT m α) : ParserT m (List α) := fun src =>
  p src >>= fun
    | .failure e => pure (.failure e)
    | .success v rest =>
      if rest.length < src.length then gather p #[v] rest else pure (.success [v] rest)

def collect (found : Array α) : List (ParserT m α) → Text → m (Result (List α))
  | [], src => pure (.success found.toList src)
  | p :: rest, src => p src >>= fun
    | .failure e => pure (.failure e)
    | .success v next => collect (found.push v) rest next

def sequence (ps : List (ParserT m α)) : ParserT m (List α) := collect #[] ps

def collectTimes (p : ParserT m α) (found : Array α) : Nat → Text → m (Result (List α))
  | 0, src => pure (.success found.toList src)
  | n + 1, src => p src >>= fun
    | .failure e => pure (.failure e)
    | .success v rest => collectTimes p (found.push v) n rest

def times (n : Nat) (p : ParserT m α) : ParserT m (List α) := collectTimes p #[] n

def maxTimes : Nat := 0x1000000000

def maxLength : Nat := 0x8000000000000000

/-- `times`, for a count that may be negative or too large. `room` is the first number of parsers
that there is no memory for; `maxLength` is the first that is too large for the length of a list. -/
def timesWithin? (room : Nat) (n : Int) (p : ParserT m α) : Except Fault (ParserT m (List α)) :=
  if n < 0 then .error .negativeCount
  else if maxLength ≤ n.toNat then .error .notIndexSized
  else if room ≤ n.toNat then .error .outOfMemory
  else .ok (times n.toNat p)

def times? (n : Int) (p : ParserT m α) : Except Fault (ParserT m (List α)) :=
  timesWithin? maxTimes n p

/-- One or more items with separators between them. A separator that no item follows is left. -/
def sepBy1 (item : ParserT m α) (separator : ParserT m β) : ParserT m (List α) :=
  (pair item (many (after separator item))).map fun found => found.1 :: found.2

def sepBy (item : ParserT m α) (separator : ParserT m β) : ParserT m (List α) :=
  orElse (sepBy1 item separator) (ParserT.pure [])

theorem timesWithin?_natCast {room n : Nat} (hl : n < maxLength) (h : n < room)
    (p : ParserT m α) : timesWithin? room n p = .ok (times n p) := by
  rw [timesWithin?, if_neg (by omega), Int.toNat_natCast, if_neg (Nat.not_le.2 hl),
    if_neg (Nat.not_le.2 h)]

theorem timesWithin?_of_neg (room : Nat) {n : Int} (h : n < 0) (p : ParserT m α) :
    timesWithin? room n p = .error .negativeCount := if_pos h

end ParserT
end Descent
