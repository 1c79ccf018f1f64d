import Descent.Proofs.Alternatives
import Descent.Proofs.Invocations

/-!
# Ordered choice

Alternatives are put together from the left, two at a time. Since it does not matter which two are
put together first, they can be taken from the other end: the first one, or else what the others
choose. So they are tried in order, all on the same text, up to the first one that does not fail,
and the last one that is tried decides.
-/

namespace Descent.ParserT

section
variable {m : Type → Type} [Monad m] [LawfulMonad m] {α : Type}

instance : Std.Associative (orElse (m := m) (α := α)) := ⟨orElse_assoc⟩

theorem foldl_orElse (p q : ParserT m α) (ps : List (ParserT m α)) :
    (q :: ps).foldl orElse p = orElse p (ps.foldl orElse q) := List.foldl_assoc

theorem choose_append (p q : ParserT m α) (ps qs : List (ParserT m α)) :
    choose (p :: ps ++ q :: qs) = .ok (orElse (ps.foldl orElse p) (qs.foldl orElse q)) := by
  rw [List.cons_append, choose, List.foldl_append, foldl_orElse]

end

variable {ω α : Type}

inductive TriesInOrder :
    Nat → Nat → Text → List (Invocation α) → Except Stop (Result α) → Prop
  | last (first : Nat) (src : Text) (outcome : Except Stop (Result α)) :
    TriesInOrder first 1 src [⟨⟨src, outcome⟩, first⟩] outcome
  | stopped (first n : Nat) (src : Text) (stop : Stop) :
    TriesInOrder first (n + 1) src [⟨⟨src, .error stop⟩, first⟩] (.error stop)
  | matched (first n : Nat) (src : Text) (v : α) (rest : Text) :
    TriesInOrder first (n + 1) src [⟨⟨src, .ok (.success v rest)⟩, first⟩] (.ok (.success v rest))
  | next {first n : Nat} {src : Text} {calls : List (Invocation α)}
    {outcome : Except Stop (Result α)} (e : Text)
    (h : TriesInOrder (first + 1) n src calls outcome) :
    TriesInOrder first (n + 1) src (⟨⟨src, .ok (.failure e)⟩, first⟩ :: calls) outcome

theorem run_choice_allPlaced (p : ParserT (Eval ω) α) (ps : List (ParserT (Eval ω) α))
    (first : Nat) (src : Text) (made : List (Invocation α)) (s : Session ω) :
    ∃ calls outcome t,
      ((allPlaced (first + 1) ps).foldl orElse (p.placed first) src).run made s =
        (outcome, made ++ calls, t) ∧
      (ps.foldl orElse p src).run s = (outcome, t) ∧
      TriesInOrder first (ps.length + 1) src calls outcome := by
  induction ps generalizing p first made s with
  | nil => exact ⟨_, _, _, rfl, rfl, .last first src _⟩
  | cons q ps ih =>
    rw [allPlaced_cons, foldl_orElse, foldl_orElse, orElse, orElse, Noted.run_bind, Eval.run_bind,
      placed, run_noted]
    rcases (p src).run s with ⟨outcome, t⟩
    cases outcome with
    | error stop => exact ⟨_, _, t, rfl, rfl, .stopped first _ src stop⟩
    | ok r =>
      cases r with
      | success v rest => exact ⟨_, _, t, rfl, rfl, .matched first _ src v rest⟩
      | failure e =>
        obtain ⟨calls, outcome, u, hnoted, hrun, hcalls⟩ :=
          ih q (first + 1) (made ++ [⟨⟨src, .ok (.failure e)⟩, first⟩]) t
        refine ⟨_, _, u, ?_, hrun, hcalls.next e⟩
        rw [List.append_assoc] at hnoted
        exact hnoted

namespace TriesInOrder

variable {first n : Nat} {src : Text} {calls : List (Invocation α)}
  {outcome : Except Stop (Result α)}

theorem places (h : TriesInOrder first n src calls outcome) :
    calls.map Invocation.place = List.range' first calls.length := by
  induction h with
  | last | stopped | matched => rfl
  | next e h ih => rw [List.map_cons, ih, List.length_cons, List.range'_succ]

theorem length_le (h : TriesInOrder first n src calls outcome) : calls.length ≤ n := by
  induction h with
  | last => exact Nat.le_refl 1
  | stopped | matched => exact Nat.succ_pos _
  | next e h ih => exact Nat.succ_le_succ ih

theorem same_src (h : TriesInOrder first n src calls outcome) : ∀ c ∈ calls, c.src = src := by
  induction h with
  | last | stopped | matched => simp
  | next e h ih => simpa using ih

theorem ne_nil (h : TriesInOrder first n src calls outcome) : calls ≠ [] := by
  cases h <;> exact List.cons_ne_nil _ _

theorem front_fails (h : TriesInOrder first n src calls outcome) :
    ∀ c ∈ calls.dropLast, ∃ e, c.outcome = .ok (.failure e) := by
  induction h with
  | last | stopped | matched => simp
  | next e h ih =>
    rw [List.dropLast_cons_of_ne_nil h.ne_nil, List.forall_mem_cons]
    exact ⟨⟨e, rfl⟩, ih⟩

theorem last_decides (h : TriesInOrder first n src calls outcome) :
    calls.getLast?.map (·.outcome) = some outcome := by
  induction h with
  | last | stopped | matched => rfl
  | next e h ih => rwa [List.getLast?_cons_of_ne_nil h.ne_nil]

theorem length_eq_of_failure (h : TriesInOrder first n src calls outcome) {e : Text}
    (he : outcome = .ok (.failure e)) : calls.length = n := by
  induction h with
  | last => rfl
  | stopped | matched => cases he
  | next e' h ih => exact congrArg (· + 1) (ih he)

end TriesInOrder

/-- The invocations of a choice from `n` parsers on `src` that ends with `outcome`. They are made in
order, none twice and none left out, and all on the same text. Each but the last one fails; the last
one decides, and where it fails all have been tried. -/
structure ChosenInOrder (n : Nat) (src : Text) (calls : List (Invocation α))
    (outcome : Except Stop (Result α)) : Prop where
  places : calls.map Invocation.place = List.range calls.length
  length_le : calls.length ≤ n
  same_src : ∀ c ∈ calls, c.src = src
  front_fails : ∀ c ∈ calls.dropLast, ∃ e, c.outcome = .ok (.failure e)
  last_decides : calls.getLast?.map (·.outcome) = some outcome
  all_tried : ∀ e, outcome = .ok (.failure e) → calls.length = n

theorem TriesInOrder.chosenInOrder {n : Nat} {src : Text} {calls : List (Invocation α)}
    {outcome : Except Stop (Result α)} (h : TriesInOrder 0 n src calls outcome) :
    ChosenInOrder n src calls outcome where
  places := h.places.trans List.range_eq_range'.symm
  length_le := h.length_le
  same_src := h.same_src
  front_fails := h.front_fails
  last_decides := h.last_decides
  all_tried _ he := h.length_eq_of_failure he

/-- A choice tries its parsers in order on the text that it was given, up to the first one that
matches or stops; its own ending is that one's, and that of the last parser where all fail. A choice
from two lists is the choice from the first one, or else the choice from the second one. -/
theorem choice_tries_in_order (p : ParserT (Eval ω) α) (ps : List (ParserT (Eval ω) α)) :
    ∃ q q', choose (p :: ps) = .ok q ∧ choose (allPlaced 0 (p :: ps)) = .ok q' ∧
      (∀ (src : Text) (s : Session ω), ∃ calls outcome t,
        (q' src).run [] s = (outcome, calls, t) ∧ (q src).run s = (outcome, t) ∧
        ChosenInOrder (p :: ps).length src calls outcome) ∧
      ∀ (r : ParserT (Eval ω) α) (rs : List (ParserT (Eval ω) α)), ∃ q'',
        choose (r :: rs) = .ok q'' ∧ choose (p :: ps ++ r :: rs) = .ok (orElse q q'') := by
  refine ⟨_, _, rfl, rfl, fun src s => ?_, fun r rs => ⟨_, rfl, choose_append p r ps rs⟩⟩
  obtain ⟨calls, outcome, t, hnoted, hrun, hcalls⟩ := run_choice_allPlaced p ps 0 src [] s
  exact ⟨calls, outcome, t, hnoted, hrun, hcalls.chosenInOrder⟩

end Descent.ParserT
