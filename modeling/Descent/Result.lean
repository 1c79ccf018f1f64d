import Descent.Text.Printed

/-! The result of a parser: a value with the text that was left, or a message. A result cannot be
changed once it is made. -/

namespace Descent

inductive Result (α : Type) where
  | success (value : α) (rest : Text)
  | failure (message : Text)
deriving DecidableEq, BEq

namespace Result

variable {α β : Type}

def isSuccess : Result α → Bool
  | success _ _ => true
  | failure _ => false

def map (f : α → β) : Result α → Result β
  | success v rest => success (f v) rest
  | failure e => failure e

def successName : Text := Text.ofString "Success"

def failureName : Text := Text.ofString "Failure"

def kind : Result α → Text
  | success _ _ => successName
  | failure _ => failureName

def printBy (quote : Text → Text) (printValue : α → Text) : Result α → Text
  | success v rest => successName ++ ['('] ++ printValue v ++ [',', ' '] ++ quote rest ++ [')']
  | failure e => failureName ++ ['('] ++ quote e ++ [')']

def print (printValue : α → Text) : Result α → Text := printBy Text.quote printValue

inductive Change where
  | set
  | delete

def refusal (r : Result α) (change : Change) (name : Text) : Text :=
  let verb := match change with
    | .set => Text.ofString "set"
    | .delete => Text.ofString "delete"
  r.kind ++ Text.ofString " is immutable, can't " ++ verb ++ [' '] ++ Text.quote name

theorem map_id (r : Result α) : r.map id = r := by cases r <;> rfl

theorem map_map {γ : Type} (r : Result α) (f : α → β) (g : β → γ) :
    (r.map f).map g = r.map (g ∘ f) := by cases r <;> rfl

end Result
end Descent
