import Descent.Proofs.Runs
import Descent.Session

/-!
# The attempts of a repetition

A parser is watched by noting its attempts beside the session: the text that each was given, and how
it ended. A repetition goes on only behind a match that shortened the text, so each
attempt is given a shorter text than the one before it. There is at most one attempt for each
length, and nothing but an attempt can stop the repetition. What the parser does to the text, to the
session or to the run is left open.
-/

namespace Descent

structure Attempt (α : Type) where
  src : Text
  outcome : Except Stop (Result α)

def Attempt.value? {α : Type} (a : Attempt α) : Option α :=
  match a.outcome with
  | .ok (.success v _) => some v
  | _ => none

/-- Runs with a list of notes beside their session. Like the session, it survives a stop. -/
abbrev Noted (ε ω : Type) : Type → Type := ExceptT Stop (StateM (List ε × Session ω))

variable {ε ω α β γ : Type}

namespace Noted

def run (x : Noted ε ω β) (made : List ε) (s : Session ω) :
    Except Stop β × List ε × Session ω :=
  Id.run (StateT.run (ExceptT.run x) (made, s))

theorem run_bind (x : Noted ε ω β) (f : β → Noted ε ω γ) (made : List ε) (s : Session ω) :
    run (x >>= f) made s =
      match run x made s with
      | (.ok v, made, t) => run (f v) made t
      | (.error stop, made, t) => (.error stop, made, t) := by
  simp only [run, ExceptT.run_bind, StateT.run_bind]
  cases h : StateT.run (ExceptT.run x) (made, s) with
  | mk outcome t => cases outcome <;> rfl

theorem run_map (f : β → γ) (x : Noted ε ω β) (made : List ε) (s : Session ω) :
    run (f <$> x) made s = ((run x made s).1.map f, (run x made s).2) := by
  rw [map_eq_pure_bind, run_bind]
  rcases run x made s with ⟨outcome, notes, t⟩
  cases outcome <;> rfl

end Noted

namespace ParserT

def noted (note : Attempt α → ε) (p : ParserT (Eval ω) α) : ParserT (Noted ε ω) α := fun src =>
  ExceptT.mk (modifyGet fun state =>
    (((p src).run state.2).1,
      state.1 ++ [note ⟨src, ((p src).run state.2).1⟩], ((p src).run state.2).2))

theorem run_noted (note : Attempt α → ε) (p : ParserT (Eval ω) α) (src : Text) (made : List ε)
    (s : Session ω) : (p.noted note src).run made s =
      (((p src).run s).1, made ++ [note ⟨src, ((p src).run s).1⟩], ((p src).run s).2) := rfl

def watched (p : ParserT (Eval ω) α) : ParserT (Noted (Attempt α) ω) α := p.noted id

/-- A repetition on `src`, made of its attempts in the order of time, and how it ends. -/
inductive Repeats : Text → List (Attempt α) → Except Stop (Result (List α)) → Prop
  | stopped (src : Text) (stop : Stop) : Repeats src [⟨src, .error stop⟩] (.error stop)
  | failed (src e : Text) : Repeats src [⟨src, .ok (.failure e)⟩] (.ok (.success [] src))
  | last {src rest : Text} (v : α) (h : src.length ≤ rest.length) :
    Repeats src [⟨src, .ok (.success v rest)⟩] (.ok (.success [v] rest))
  | more {src rest : Text} {attempts : List (Attempt α)} {outcome : Except Stop (Result (List α))}
    (v : α) (h : rest.length < src.length) (hrest : Repeats rest attempts outcome) :
    Repeats src (⟨src, .ok (.success v rest)⟩ :: attempts) (outcome.map (Result.map (v :: ·)))

namespace Repeats

variable {src : Text} {attempts : List (Attempt α)} {outcome : Except Stop (Result (List α))}

theorem head_src (h : Repeats src attempts outcome) :
    attempts.head?.map Attempt.src = some src := by
  cases h <;> rfl

theorem length_src_le (h : Repeats src attempts outcome) :
    ∀ a ∈ attempts, a.src.length ≤ src.length := by
  induction h with
  | stopped src stop => simp
  | failed src e => simp
  | last v h => simp
  | more v h hrest ih =>
    intro a ha
    rcases List.mem_cons.1 ha with rfl | ha
    · exact Nat.le_refl _
    · have hle := ih a ha
      omega

theorem pairwise_shorter (h : Repeats src attempts outcome) :
    attempts.Pairwise fun a b => b.src.length < a.src.length := by
  induction h with
  | stopped src stop => exact List.pairwise_singleton _ _
  | failed src e => exact List.pairwise_singleton _ _
  | last v h => exact List.pairwise_singleton _ _
  | more v h hrest ih =>
    refine List.pairwise_cons.2 ⟨fun a ha => ?_, ih⟩
    have hle := hrest.length_src_le a ha
    dsimp only
    omega

theorem length_le (h : Repeats src attempts outcome) : attempts.length ≤ src.length + 1 := by
  induction h with
  | stopped src stop => simp
  | failed src e => simp
  | last v h => simp
  | more v h hrest ih =>
    rw [List.length_cons]
    omega

theorem values (h : Repeats src attempts outcome) {r : Result (List α)} (hr : outcome = .ok r) :
    ∃ rest, r = .success (attempts.filterMap Attempt.value?) rest := by
  induction h generalizing r with
  | stopped src stop => cases hr
  | failed src e =>
    cases hr
    exact ⟨src, rfl⟩
  | @last src rest v h =>
    cases hr
    exact ⟨rest, rfl⟩
  | @more src rest attempts outcome v h hrest ih =>
    cases outcome with
    | error stop => cases hr
    | ok found =>
      cases hr
      obtain ⟨last, rfl⟩ := ih rfl
      exact ⟨last, rfl⟩

theorem stops_iff (h : Repeats src attempts outcome) (stop : Stop) :
    outcome = .error stop ↔ ∃ a ∈ attempts, a.outcome = .error stop := by
  induction h with
  | stopped src stop' => simp
  | failed src e => simp
  | last v h => simp
  | @more src rest attempts outcome v h hrest ih =>
    cases outcome with
    | error stop' => simpa [Except.map] using ih
    | ok found => simpa [Except.map] using ih

end Repeats

section
variable (p : ParserT (Eval ω) α) {src rest : Text}

theorem run_continueMany_watched (v : α) (made : List (Attempt α)) (s : Session ω)
    (hmany : rest.length < src.length → ∀ made : List (Attempt α), ∃ attempts outcome t,
      (many p.watched rest).run made s = (outcome, made ++ attempts, t) ∧
      (many p rest).run s = (outcome, t) ∧ Repeats rest attempts outcome) :
    ∃ attempts outcome t,
      (continueMany p.watched src v rest).run (made ++ [⟨src, .ok (.success v rest)⟩]) s =
        (outcome, made ++ attempts, t) ∧
      (continueMany p src v rest).run s = (outcome, t) ∧ Repeats src attempts outcome := by
  by_cases hlt : rest.length < src.length
  · obtain ⟨attempts, outcome, t, hwatched, hrun, hrepeats⟩ :=
      hmany hlt (made ++ [⟨src, .ok (.success v rest)⟩])
    refine ⟨_, _, t, ?_, ?_, hrepeats.more v hlt⟩
    · rw [continueMany, if_pos hlt, Noted.run_map, hwatched, List.append_assoc]
      rfl
    · rw [continueMany, if_pos hlt, Eval.run_map, hrun]
  · refine ⟨_, _, s, ?_, ?_, .last v (Nat.not_lt.1 hlt)⟩
    · rw [continueMany, if_neg hlt]
      rfl
    · rw [continueMany, if_neg hlt]
      rfl

theorem run_many_watched (src : Text) (made : List (Attempt α)) (s : Session ω) :
    ∃ attempts outcome t, (many p.watched src).run made s = (outcome, made ++ attempts, t) ∧
      (many p src).run s = (outcome, t) ∧ Repeats src attempts outcome := by
  -- By the length of the text: what is left behind a match is watched only where it is shorter.
  induction src using shorter_induction generalizing made s with
  | shorter src ih =>
    rw [many_eq, many_eq, Noted.run_bind, Eval.run_bind, watched, run_noted]
    rcases (p src).run s with ⟨outcome, t⟩
    cases outcome with
    | error stop => exact ⟨_, _, t, rfl, rfl, .stopped src stop⟩
    | ok r =>
      cases r with
      | failure e => exact ⟨_, _, t, rfl, rfl, .failed src e⟩
      | success v rest =>
        exact run_continueMany_watched p v made t fun hlt made => ih rest hlt made t

theorem run_many1_watched (src : Text) (made : List (Attempt α)) (s : Session ω) :
    ∃ attempts outcome t, (many1 p.watched src).run made s = (outcome, made ++ attempts, t) ∧
      (many1 p src).run s = (outcome, t) ∧
      (Repeats src attempts outcome ∨
        ∃ e, attempts = [⟨src, .ok (.failure e)⟩] ∧ outcome = .ok (.failure e)) := by
  rw [many1_eq, many1_eq, Noted.run_bind, Eval.run_bind, watched, run_noted]
  rcases (p src).run s with ⟨outcome, t⟩
  cases outcome with
  | error stop => exact ⟨_, _, t, rfl, rfl, .inl (.stopped src stop)⟩
  | ok r =>
    cases r with
    | failure e => exact ⟨_, _, t, rfl, rfl, .inr ⟨e, rfl, rfl⟩⟩
    | success v rest =>
      obtain ⟨attempts, outcome, u, hwatched, hrun, hrepeats⟩ :=
        run_continueMany_watched p v made t fun _ made => run_many_watched p rest made t
      exact ⟨attempts, outcome, u, hwatched, hrun, .inl hrepeats⟩

end

/-- The attempts of a repetition on `src` that ends with `outcome`: they begin with `src` and each
one is given a shorter text than those before it. The values of the matches are what is collected,
and nothing but an attempt stops the repetition. -/
structure Bounded (src : Text) (attempts : List (Attempt α))
    (outcome : Except Stop (Result (List α))) : Prop where
  head_src : attempts.head?.map Attempt.src = some src
  pairwise_shorter : attempts.Pairwise fun a b => b.src.length < a.src.length
  length_le : attempts.length ≤ src.length + 1
  values : ∀ vs rest, outcome = .ok (.success vs rest) →
    vs = attempts.filterMap Attempt.value? ∧ vs.length ≤ src.length + 1
  stops_iff : ∀ stop, outcome = .error stop ↔ ∃ a ∈ attempts, a.outcome = .error stop
  answers : (∀ a ∈ attempts, ∃ r, a.outcome = .ok r) → ∃ r, outcome = .ok r

theorem Repeats.bounded {src : Text} {attempts : List (Attempt α)}
    {outcome : Except Stop (Result (List α))} (h : Repeats src attempts outcome) :
    Bounded src attempts outcome := by
  refine ⟨h.head_src, h.pairwise_shorter, h.length_le, fun vs rest hr => ?_, h.stops_iff,
    fun hall => ?_⟩
  · obtain ⟨_, hvalues⟩ := h.values hr
    obtain ⟨rfl, -⟩ := Result.success.inj hvalues
    exact ⟨rfl, Nat.le_trans (List.length_filterMap_le _ _) h.length_le⟩
  · cases outcome with
    | ok r => exact ⟨r, rfl⟩
    | error stop =>
      obtain ⟨a, ha, hstop⟩ := (h.stops_iff stop).1 rfl
      obtain ⟨r, hr⟩ := hall a ha
      rw [hr] at hstop
      cases hstop

theorem bounded_failure (src e : Text) :
    Bounded (α := α) src [⟨src, .ok (.failure e)⟩] (.ok (.failure e)) := by
  refine ⟨rfl, List.pairwise_singleton _ _, by simp, fun vs rest h => ?_, by simp, by simp⟩
  cases h

theorem exists_bounded_many (p : ParserT (Eval ω) α) (src : Text) (s : Session ω) :
    ∃ attempts outcome t, (many p.watched src).run [] s = (outcome, attempts, t) ∧
      (many p src).run s = (outcome, t) ∧ Bounded src attempts outcome := by
  obtain ⟨attempts, outcome, t, hwatched, hrun, hrepeats⟩ := run_many_watched p src [] s
  exact ⟨attempts, outcome, t, hwatched, hrun, hrepeats.bounded⟩

theorem exists_bounded_many1 (p : ParserT (Eval ω) α) (src : Text) (s : Session ω) :
    ∃ attempts outcome t, (many1 p.watched src).run [] s = (outcome, attempts, t) ∧
      (many1 p src).run s = (outcome, t) ∧ Bounded src attempts outcome := by
  obtain ⟨attempts, outcome, t, hwatched, hrun, hend⟩ := run_many1_watched p src [] s
  rcases hend with hrepeats | ⟨e, rfl, rfl⟩
  · exact ⟨attempts, outcome, t, hwatched, hrun, hrepeats.bounded⟩
  · exact ⟨_, _, t, hwatched, hrun, bounded_failure src e⟩

theorem Bounded.length_eq {src rest : Text} {attempts : List (Attempt α)} {vs : List α}
    (h : Bounded src attempts (.ok (.success vs rest))) (hvs : vs.length = src.length + 1) :
    attempts.length = src.length + 1 := by
  have hle : vs.length ≤ attempts.length := by
    rw [(h.values vs rest rfl).1]
    exact List.length_filterMap_le _ _
  have hattempts := h.length_le
  omega

/-! The most attempts that a text has room for. -/

section
variable {m : Type → Type} [Monad m] [LawfulMonad m]

theorem many1_eq_many_of_success {p : ParserT m α} {src rest : Text} {v : α}
    (h : p src = pure (.success v rest)) : many1 p src = many p src := by
  rw [many1_eq, many_eq, h, pure_bind, pure_bind]

theorem exists_optional_anyChar_eq_success (src : Text) :
    ∃ v, ParserT.optional (anyChar (m := m)) src = pure (.success v src.tail) := by
  cases src with
  | nil =>
    refine ⟨none, ?_⟩
    rw [ParserT.optional, anyChar, expect, satisfy_nil, pure_bind]
    rfl
  | cons c rest =>
    refine ⟨some c, ?_⟩
    rw [ParserT.optional, anyChar, expect_of_test _ _ rfl, pure_bind]
    rfl

theorem exists_many_optional_anyChar (src : Text) :
    ∃ vs, many (ParserT.optional (anyChar (m := m))) src = pure (.success vs []) ∧
      vs.length = src.length + 1 := by
  induction src with
  | nil =>
    obtain ⟨v, hv⟩ := exists_optional_anyChar_eq_success (m := m) []
    refine ⟨[v], ?_, rfl⟩
    rw [many_eq, hv, pure_bind]
    rfl
  | cons c rest ih =>
    obtain ⟨v, hv⟩ := exists_optional_anyChar_eq_success (m := m) (c :: rest)
    obtain ⟨vs, hvs, hlength⟩ := ih
    refine ⟨v :: vs, ?_, congrArg (· + 1) hlength⟩
    rw [many_of_success hv (Nat.lt_succ_self _), List.tail_cons, hvs, map_pure]
    rfl

end

/-- Whatever its parser does, a repetition ends: its attempts are given ever shorter texts, and it
answers if each of them does. There are parsers with which it makes as many attempts, and collects
as many values, as the length of the text allows. -/
theorem repetition_ends_within_length (p : ParserT (Eval ω) α) (src : Text) (s : Session ω) :
    (∃ attempts outcome t, (many p.watched src).run [] s = (outcome, attempts, t) ∧
      (many p src).run s = (outcome, t) ∧ Bounded src attempts outcome) ∧
    (∃ attempts outcome t, (many1 p.watched src).run [] s = (outcome, attempts, t) ∧
      (many1 p src).run s = (outcome, t) ∧ Bounded src attempts outcome) ∧
    ∃ q : ParserT (Eval ω) (Option Char),
      (∃ attempts vs, (many q.watched src).run [] s = (.ok (.success vs []), attempts, s) ∧
        attempts.length = src.length + 1 ∧ vs.length = src.length + 1) ∧
      ∃ attempts vs, (many1 q.watched src).run [] s = (.ok (.success vs []), attempts, s) ∧
        attempts.length = src.length + 1 ∧ vs.length = src.length + 1 := by
  refine ⟨exists_bounded_many p src s, exists_bounded_many1 p src s, .optional anyChar, ?_, ?_⟩
  · obtain ⟨attempts, outcome, t, hwatched, hrun, hbounded⟩ :=
      exists_bounded_many (.optional anyChar) src s
    obtain ⟨vs, hvs, hlength⟩ := exists_many_optional_anyChar (m := Eval ω) src
    rw [hvs] at hrun
    cases hrun
    exact ⟨attempts, vs, hwatched, hbounded.length_eq hlength, hlength⟩
  · obtain ⟨attempts, outcome, t, hwatched, hrun, hbounded⟩ :=
      exists_bounded_many1 (.optional anyChar) src s
    obtain ⟨v, hv⟩ := exists_optional_anyChar_eq_success (m := Eval ω) src
    obtain ⟨vs, hvs, hlength⟩ := exists_many_optional_anyChar (m := Eval ω) src
    rw [many1_eq_many_of_success hv, hvs] at hrun
    cases hrun
    exact ⟨attempts, vs, hwatched, hbounded.length_eq hlength, hlength⟩

end ParserT
end Descent
