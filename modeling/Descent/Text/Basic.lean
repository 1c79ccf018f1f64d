/-! Text is a list of code points. It is what a parser reads, what a parser leaves, and what a
message says; positions and lengths count its elements. -/

namespace Descent

abbrev Text := List Char

@[elab_as_elim]
theorem shorter_induction {α : Type} {motive : List α → Prop}
    (shorter : ∀ src, (∀ rest : List α, rest.length < src.length → motive rest) → motive src)
    (src : List α) : motive src :=
  (measure List.length).wf.induction src shorter

namespace Text

def ofString (s : String) : Text := s.toList

def precedes : Text → Text → Bool
  | [], _ => true
  | _ :: _, [] => false
  | c :: s, d :: t => c.toNat < d.toNat || (c == d && precedes s t)

/-- The distinct members in order: one list for every way to write down the same set. -/
def sortedDistinct (members : List Text) : List Text := members.eraseDups.mergeSort precedes

theorem precedes_total (s t : Text) : (precedes s t || precedes t s) = true := by
  induction s generalizing t with
  | nil => rfl
  | cons c s ih =>
    cases t with
    | nil => simp [precedes]
    | cons d t =>
      have hs := ih t
      rcases Nat.lt_trichotomy c.toNat d.toNat with h | h | h
      · simp [precedes, h]
      · have hcd : c = d := Char.toNat_inj.1 h
        subst hcd
        simpa [precedes] using hs
      · simp [precedes, h]

end Text
end Descent
