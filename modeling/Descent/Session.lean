import Std.Data.HashMap
import Descent.Parser.Basic

/-! The session in which parses run, one after the other. It remembers what became of the delayed
parsers of a grammar and records what happened during the parse. Both survive a fault. -/

namespace Descent

/-- The place of a parser in its grammar: the way from the root, the last step first. -/
abbrev Address : Type := List Nat

/-- What became of a delayed parser: its factory has failed that many times, or call number `call`,
counted from 0, returned. -/
inductive Slot where
  | pending (failed : Nat)
  | ready (call : Nat)
deriving DecidableEq

structure Memory where
  slots : Std.HashMap Address Slot := {}

namespace Memory

def get (memory : Memory) (address : Address) : Slot :=
  memory.slots.getD address (.pending 0)

def set (memory : Memory) (address : Address) (slot : Slot) : Memory :=
  ⟨memory.slots.insert address slot⟩

theorem get_empty (address : Address) : get {} address = .pending 0 := by
  simp [get]

theorem get_set (memory : Memory) (a b : Address) (slot : Slot) :
    (memory.set a slot).get b = if a = b then slot else memory.get b := by
  simp [get, set, Std.HashMap.getD_insert]

end Memory

inductive Event (ω : Type) where
  | entered (name src : Text)
  | left (name : Text) (result : Result ω)
  | built (name : Text)

structure Session (ω : Type) where
  memory : Memory := {}
  trace : Array (Event ω) := #[]

inductive Stop where
  | fault (fault : Fault)
  | tooDeep
deriving DecidableEq

abbrev Eval (ω : Type) : Type → Type := ExceptT Stop (StateM (Session ω))

namespace Eval

variable {ω α : Type}

instance : MonadExceptOf Fault (Eval ω) where
  throw f := throwThe Stop (.fault f)
  tryCatch x handle := tryCatchThe Stop x fun
    | .fault f => handle f
    | .tooDeep => throwThe Stop .tooDeep

def record (event : Event ω) : Eval ω Unit :=
  modify fun s => { s with trace := s.trace.push event }

def slot (address : Address) : Eval ω Slot := return (← get).memory.get address

def setSlot (address : Address) (value : Slot) : Eval ω Unit :=
  modify fun s => { s with memory := s.memory.set address value }

def ofExcept : Except Fault α → Eval ω α
  | .ok v => pure v
  | .error f => throwThe Stop (.fault f)

def run (x : Eval ω α) (session : Session ω) : Except Stop α × Session ω :=
  StateT.run (ExceptT.run x) session

def observe (x : Eval ω α) (session : Session ω) :
    Except Stop α × Array (Event ω) × Session ω :=
  let (outcome, after) := x.run { session with trace := #[] }
  (outcome, after.trace, after)

theorem run_pure (v : α) (s : Session ω) : run (pure v) s = (.ok v, s) := rfl

theorem run_throw (stop : Stop) (s : Session ω) :
    run (throwThe Stop stop : Eval ω α) s = (.error stop, s) := rfl

theorem run_bind {β : Type} (x : Eval ω α) (f : α → Eval ω β) (s : Session ω) :
    run (x >>= f) s =
      match run x s with
      | (.ok v, t) => run (f v) t
      | (.error stop, t) => (.error stop, t) := by
  simp only [run, ExceptT.run_bind, StateT.run_bind]
  cases h : StateT.run (ExceptT.run x) s with
  | mk outcome t => cases outcome <;> rfl

theorem run_map {β : Type} (f : α → β) (x : Eval ω α) (s : Session ω) :
    run (f <$> x) s = ((run x s).1.map f, (run x s).2) := by
  rw [map_eq_pure_bind, run_bind]
  cases h : run x s with
  | mk outcome t => cases outcome <;> rfl

theorem run_record (event : Event ω) (s : Session ω) :
    run (record event) s = (.ok (), { s with trace := s.trace.push event }) := rfl

theorem run_slot (address : Address) (s : Session ω) :
    run (slot address) s = (.ok (s.memory.get address), s) := rfl

theorem run_setSlot (address : Address) (value : Slot) (s : Session ω) :
    run (setSlot address value) s =
      (.ok (), { s with memory := s.memory.set address value }) := rfl

end Eval
end Descent
