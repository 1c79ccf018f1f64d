import Mathlib.Data.List.Chain
import Descent.Proofs.Attempts
import Descent.Proofs.Counting
import Descent.Proofs.FixedText

/-!
# The parsers of a sequence

A sequence runs its parsers in order, each on what the one before it has left, up to the first one
that does not match. To tell which parsers are run, each is numbered by its place in the list, and
each time it is run this is noted beside the session, with the text that it was given and how that
ended. What the parsers do to the text, to the session or to the run is left open. From the order of
the runs it follows that a sequence may be cut anywhere, and that so may a number of matches.
-/

namespace Descent

structure Invocation (α : Type) extends Attempt α where
  place : Nat

variable {ω α : Type}

namespace ParserT

def placed (place : Nat) (p : ParserT (Eval ω) α) : ParserT (Noted (Invocation α) ω) α :=
  p.noted fun attempt => ⟨attempt, place⟩

def allPlaced (first : Nat) (ps : List (ParserT (Eval ω) α)) :
    List (ParserT (Noted (Invocation α) ω) α) :=
  (ps.zipIdx first).map fun pi => pi.1.placed pi.2

theorem allPlaced_cons (first : Nat) (p : ParserT (Eval ω) α) (ps : List (ParserT (Eval ω) α)) :
    allPlaced first (p :: ps) = p.placed first :: allPlaced (first + 1) ps := rfl

inductive RunsInOrder :
    Nat → Nat → Text → List (Invocation α) → Except Stop (Result (List α)) → Prop
  | done (first : Nat) (src : Text) : RunsInOrder first 0 src [] (.ok (.success [] src))
  | stopped (first n : Nat) (src : Text) (stop : Stop) :
    RunsInOrder first (n + 1) src [⟨⟨src, .error stop⟩, first⟩] (.error stop)
  | failed (first n : Nat) (src e : Text) :
    RunsInOrder first (n + 1) src [⟨⟨src, .ok (.failure e)⟩, first⟩] (.ok (.failure e))
  | next {first n : Nat} {rest : Text} {calls : List (Invocation α)}
    {outcome : Except Stop (Result (List α))} (src : Text) (v : α)
    (h : RunsInOrder (first + 1) n rest calls outcome) :
    RunsInOrder first (n + 1) src (⟨⟨src, .ok (.success v rest)⟩, first⟩ :: calls)
      (outcome.map (Result.map (v :: ·)))

theorem run_sequence_allPlaced (ps : List (ParserT (Eval ω) α)) (first : Nat) (src : Text)
    (made : List (Invocation α)) (s : Session ω) : ∃ calls outcome t,
      (sequence (allPlaced first ps) src).run made s = (outcome, made ++ calls, t) ∧
      (sequence ps src).run s = (outcome, t) ∧
      RunsInOrder first ps.length src calls outcome := by
  induction ps generalizing first src made s with
  | nil => exact ⟨[], _, s, by rw [List.append_nil]; rfl, rfl, .done first src⟩
  | cons p ps ih =>
    rw [allPlaced_cons, sequence_cons, sequence_cons, ParserT.bind, ParserT.bind, Noted.run_bind,
      Eval.run_bind, placed, run_noted]
    rcases (p src).run s with ⟨outcome, t⟩
    cases outcome with
    | error stop => exact ⟨_, _, t, rfl, rfl, .stopped first _ src stop⟩
    | ok r =>
      cases r with
      | failure e => exact ⟨_, _, t, rfl, rfl, .failed first _ src e⟩
      | success v rest =>
        obtain ⟨calls, outcome, u, hnoted, hrun, hcalls⟩ :=
          ih (first + 1) rest (made ++ [⟨⟨src, .ok (.success v rest)⟩, first⟩]) t
        refine ⟨_, _, u, ?_, ?_, hcalls.next src v⟩
        · dsimp only
          rw [map_apply, Noted.run_map, hnoted, List.append_assoc]
          rfl
        · dsimp only
          rw [map_apply, Eval.run_map, hrun]

namespace RunsInOrder

variable {first n : Nat} {src : Text} {calls : List (Invocation α)}
  {outcome : Except Stop (Result (List α))}

theorem head_src (h : RunsInOrder first n src calls outcome) : ∀ c ∈ calls.head?, c.src = src := by
  cases h with
  | done => exact nofun
  | stopped | failed | next => rintro _ ⟨⟩; rfl

theorem places (h : RunsInOrder first n src calls outcome) :
    calls.map Invocation.place = List.range' first calls.length := by
  induction h with
  | done first src => rfl
  | stopped first n src stop => rfl
  | failed first n src e => rfl
  | next src v h ih => rw [List.map_cons, ih, List.length_cons, List.range'_succ]

theorem length_le (h : RunsInOrder first n src calls outcome) : calls.length ≤ n := by
  induction h with
  | done first src => exact Nat.le_refl 0
  | stopped first n src stop => exact Nat.succ_pos n
  | failed first n src e => exact Nat.succ_pos n
  | next src v h ih => exact Nat.succ_le_succ ih

theorem handed_on (h : RunsInOrder first n src calls outcome) :
    calls.IsChain fun c d => ∃ v, c.outcome = .ok (.success v d.src) := by
  induction h with
  | done first src => exact .nil
  | stopped first n src stop => exact .singleton _
  | failed first n src e => exact .singleton _
  | next src v h ih =>
    refine ih.cons fun d hd => ⟨v, ?_⟩
    rw [h.head_src d hd]

theorem fails_iff (h : RunsInOrder first n src calls outcome) (e : Text) :
    outcome = .ok (.failure e) ↔ ∃ c ∈ calls, c.outcome = .ok (.failure e) := by
  induction h with
  | done first src => simp
  | stopped first n src stop => simp
  | failed first n src e' => simp
  | @next first n rest calls outcome src v h ih =>
    rcases outcome with stop | ⟨vs, last⟩ | e' <;>
    simpa [Except.map, Result.map] using ih

theorem stops_iff (h : RunsInOrder first n src calls outcome) (stop : Stop) :
    outcome = .error stop ↔ ∃ c ∈ calls, c.outcome = .error stop := by
  induction h with
  | done first src => simp
  | stopped first n src stop' => simp
  | failed first n src e => simp
  | @next first n rest calls outcome src v h ih =>
    cases outcome with
    | error stop' => simpa [Except.map] using ih
    | ok found => simpa [Except.map] using ih

theorem matched (h : RunsInOrder first n src calls outcome) {vs : List α} {rest : Text}
    (hr : outcome = .ok (.success vs rest)) :
    calls.length = n ∧ calls.map (·.value?) = vs.map some ∧
      (∀ c ∈ calls.getLast?, ∃ v, c.outcome = .ok (.success v rest)) ∧ (n = 0 → rest = src) := by
  induction h generalizing vs rest with
  | done first src =>
    cases hr
    exact ⟨rfl, rfl, nofun, fun _ => rfl⟩
  | stopped first n src stop => cases hr
  | failed first n src e => cases hr
  | @next first n mid calls outcome src v h ih =>
    rcases outcome with stop | ⟨ws, last⟩ | e
    · cases hr
    · cases hr
      obtain ⟨hlength, hvalues, hlast, hnone⟩ := ih rfl
      refine ⟨congrArg (· + 1) hlength, ?_, fun c hc => ?_, nofun⟩
      · rw [List.map_cons, hvalues]
        rfl
      · cases calls with
        | nil =>
          cases hc
          obtain rfl := hnone hlength.symm
          exact ⟨v, rfl⟩
        | cons d calls => exact hlast c hc
    · cases hr

end RunsInOrder

/-- The invocations of a sequence of `n` parsers on `src` that ends with `outcome`. They are made in
order, none twice and none left out, and each but the first is on what the one before it has left;
a match of the sequence is a match of all, and a failure or a stop is that of the last one made. -/
structure InOrder (n : Nat) (src : Text) (calls : List (Invocation α))
    (outcome : Except Stop (Result (List α))) : Prop where
  places : calls.map Invocation.place = List.range calls.length
  length_le : calls.length ≤ n
  head_src : ∀ c ∈ calls.head?, c.src = src
  handed_on : calls.IsChain fun c d => ∃ v, c.outcome = .ok (.success v d.src)
  matched : ∀ vs rest, outcome = .ok (.success vs rest) →
    calls.length = n ∧ vs.length = n ∧ calls.map (·.value?) = vs.map some ∧
      (∀ c ∈ calls.getLast?, ∃ v, c.outcome = .ok (.success v rest)) ∧ (n = 0 → rest = src)
  fails_iff : ∀ e, outcome = .ok (.failure e) ↔ ∃ c ∈ calls, c.outcome = .ok (.failure e)
  stops_iff : ∀ stop, outcome = .error stop ↔ ∃ c ∈ calls, c.outcome = .error stop

theorem RunsInOrder.inOrder {n : Nat} {src : Text} {calls : List (Invocation α)}
    {outcome : Except Stop (Result (List α))} (h : RunsInOrder 0 n src calls outcome) :
    InOrder n src calls outcome where
  places := h.places.trans List.range_eq_range'.symm
  length_le := h.length_le
  head_src := h.head_src
  handed_on := h.handed_on
  matched vs rest hr := by
    obtain ⟨hlength, hvalues, hrest⟩ := h.matched hr
    have hcount := congrArg List.length hvalues
    rw [List.length_map, List.length_map] at hcount
    exact ⟨hlength, hcount.symm.trans hlength, hvalues, hrest⟩
  fails_iff := h.fails_iff
  stops_iff := h.stops_iff

section
variable {m : Type → Type} [Monad m] [LawfulMonad m]

theorem times_eq_sequence (n : Nat) (p : ParserT m α) :
    times n p = sequence (List.replicate n p) := by
  induction n with
  | zero => rfl
  | succ n ih => rw [times_succ, List.replicate_succ, sequence_cons, ih]

theorem times_append (k n : Nat) (p : ParserT m α) : times (k + n) p =
    .map (fun found => found.1 ++ found.2) (.pair (times k p) (times n p)) := by
  rw [times_add, pair_eq_bind]
  simp only [map_eq_bind, ParserT.bind_assoc, ParserT.pure_bind]

end

/-- A sequence in two parts is its first part and then, on what that leaves, its second one, with
the values behind one another. A number of matches is a sequence of one and the same parser, so that
it may be split in two in the same way; where there is memory for the whole, there is for its parts.
The parsers of a sequence are invoked in order up to the first one that does not match. -/
theorem sequence_runs_in_order :
    (∀ ps qs : List (ParserT (Eval ω) α), sequence (ps ++ qs) =
      .map (fun found => found.1 ++ found.2) (.pair (sequence ps) (sequence qs))) ∧
    (∀ (n : Nat) (p : ParserT (Eval ω) α), times n p = sequence (List.replicate n p)) ∧
    (∀ (k n : Nat) (p : ParserT (Eval ω) α), times (k + n) p =
      .map (fun found => found.1 ++ found.2) (.pair (times k p) (times n p))) ∧
    (∀ (room k n : Nat) (p : ParserT (Eval ω) α) (q : ParserT (Eval ω) (List α)),
      timesWithin? room (k + n) p = .ok q → ∃ a b, timesWithin? room k p = .ok a ∧
        timesWithin? room n p = .ok b ∧
        q = .map (fun found => found.1 ++ found.2) (.pair a b)) ∧
    ∀ (ps : List (ParserT (Eval ω) α)) (src : Text) (s : Session ω), ∃ calls outcome t,
      (sequence (allPlaced 0 ps) src).run [] s = (outcome, calls, t) ∧
      (sequence ps src).run s = (outcome, t) ∧ InOrder ps.length src calls outcome := by
  refine ⟨sequence_append, times_eq_sequence, times_append, fun room k n p q h => ?_,
    fun ps src s => ?_⟩
  · obtain ⟨-, hl, hr, rfl⟩ := timesWithin?_eq_ok_iff.1 h
    exact ⟨times k p, times n p, timesWithin?_natCast (by omega) (by omega) p,
      timesWithin?_natCast (by omega) (by omega) p, times_append k n p⟩
  · obtain ⟨calls, outcome, t, hnoted, hrun, hcalls⟩ := run_sequence_allPlaced ps 0 src [] s
    exact ⟨calls, outcome, t, hnoted, hrun, hcalls.inOrder⟩

theorem sequence_runs_in_order_short :
    (∃ q a b, timesWithin? 4 (1 + 2 : Nat) (char 'a' : ParserT (Eval Unit) Char) = .ok q ∧
      timesWithin? 4 (1 : Nat) (char 'a') = .ok a ∧ timesWithin? 4 (2 : Nat) (char 'a') = .ok b ∧
      q = .map (fun found => found.1 ++ found.2) (.pair a b)) ∧
    ∃ calls, (sequence (allPlaced 0 [char 'a', char 'b', raise (.raised [])]) ['a', 'c']).run []
        ({} : Session Unit) =
          (.ok (.failure (Text.ofString "Expected 'b' but got 'c'")), calls, {}) ∧
      calls.map Invocation.place = [0, 1] ∧
      InOrder 3 ['a', 'c'] calls (.ok (.failure (Text.ofString "Expected 'b' but got 'c'"))) := by
  obtain ⟨-, -, -, hparts, hcalls⟩ := @sequence_runs_in_order Unit Char
  have hroom : timesWithin? 4 (1 + 2 : Nat) (char 'a' : ParserT (Eval Unit) Char) =
      .ok (times 3 (char 'a')) := timesWithin?_natCast (by decide) (by decide) _
  obtain ⟨a, b, ha, hb, hq⟩ := hparts 4 1 2 _ _ hroom
  obtain ⟨calls, outcome, t, hnoted, hrun, horder⟩ :=
    hcalls [char 'a', char 'b', raise (.raised [])] ['a', 'c'] {}
  cases hrun
  cases hnoted
  exact ⟨⟨_, a, b, hroom, ha, hb, hq⟩, _, rfl, rfl, horder⟩

end ParserT
end Descent
