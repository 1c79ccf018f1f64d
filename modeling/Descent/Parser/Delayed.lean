import Descent.Session

/-! Delayed parsers, which are made on first use, and parsers that report what they do. A grammar
refers to itself through a delayed parser. -/

namespace Descent

variable {ω α : Type}

def Session.called (s : Session ω) (address : Address) (label : Option Text) (slot : Slot) :
    Session ω where
  memory := s.memory.set address slot
  trace := match label with
    | some name => s.trace.push (.built name)
    | none => s.trace

theorem Session.get_called (s : Session ω) (a b : Address) (label : Option Text) (slot : Slot) :
    (s.called a label slot).memory.get b = if a = b then slot else s.memory.get b :=
  s.memory.get_set a b slot

namespace ParserT

def ofExcept (p : Except Fault (ParserT (Eval ω) α)) : ParserT (Eval ω) α := fun src =>
  match p with
  | .ok p => p src
  | .error f => throwThe Stop (.fault f)

/-- Never ends with a result. Stands where references are nested deeper than they may be. -/
def tooDeep : ParserT (Eval ω) α := fun _ => throwThe Stop .tooDeep

/-- Calls `factory` on first use, and again at each use until a call returns; from then on this
parser is the one that was returned. `factory` is given the number of the call and the label, if
there is one, is recorded at each call. -/
def delayed (address : Address) (label : Option Text)
    (factory : Nat → Except Fault (ParserT (Eval ω) α)) : ParserT (Eval ω) α := fun src => do
  match ← Eval.slot address with
  | .ready call => ofExcept (factory call) src
  | .pending failed =>
    if let some name := label then Eval.record (.built name)
    match factory failed with
    | .ok p =>
      Eval.setSlot address (.ready failed)
      p src
    | .error f =>
      Eval.setSlot address (.pending (failed + 1))
      throwThe Stop (.fault f)

theorem run_delayed (address : Address) (label : Option Text)
    (factory : Nat → Except Fault (ParserT (Eval ω) α)) (src : Text) (s : Session ω) :
    (delayed address label factory src).run s =
      match s.memory.get address with
      | .ready call => (ofExcept (factory call) src).run s
      | .pending failed =>
        match factory failed with
        | .ok p => (p src).run (s.called address label (.ready failed))
        | .error f => (.error (.fault f), s.called address label (.pending (failed + 1))) := by
  unfold delayed
  rw [Eval.run_bind, Eval.run_slot]
  cases s.memory.get address with
  | ready call => rfl
  | pending failed =>
    cases label <;> cases hf : factory failed <;>
      simp [hf, Eval.run_bind, Eval.run_record, Eval.run_setSlot, Eval.run_throw, Session.called]

def probe (name : Text) (view : α → ω) (p : ParserT (Eval ω) α) :
    ParserT (Eval ω) α := fun src => do
  Eval.record (.entered name src)
  let result ← p src
  Eval.record (.left name (result.map view))
  return result

end ParserT
end Descent
