import Descent.Proofs.Counting

/-!
# The three endings of a parser

Run in a session, a parser matches, fails or stops. What becomes of a sequence, of alternatives and
of a repetition is told by the endings of their parts. A greedy repetition makes progress through
matches that shorten the text, up to a text on which its parser fails, stops, or matches without
shortening it; that is where it ends, in one of three ways.
-/

namespace Descent.ParserT

variable {ω α β : Type}

def Halts (p : ParserT (Eval ω) α) (src : Text) (s : Session ω) (stop : Stop) (t : Session ω) :
    Prop := (p src).run s = (.error stop, t)

section
variable {p q : ParserT (Eval ω) α} {next : α → ParserT (Eval ω) β} {src rest last e : Text}
  {v v' : α} {w : β} {s t u : Session ω} {stop : Stop}

theorem matches_or_fails_or_halts (p : ParserT (Eval ω) α) (src : Text) (s : Session ω) :
    (∃ v rest t, p.Matches src s v rest t) ∨ (∃ e t, p.Fails src s e t) ∨
      ∃ stop t, p.Halts src s stop t := by
  rcases h : (p src).run s with ⟨outcome, t⟩
  cases outcome with
  | error stop => exact .inr (.inr ⟨stop, t, h⟩)
  | ok r =>
    cases r with
    | failure e => exact .inr (.inl ⟨e, t, h⟩)
    | success v rest => exact .inl ⟨v, rest, t, h⟩

theorem Matches.unique (h : p.Matches src s v rest t) (h' : p.Matches src s v' last u) :
    v = v' ∧ rest = last ∧ t = u := by
  have hrun := h.symm.trans h'
  cases hrun
  exact ⟨rfl, rfl, rfl⟩

theorem Halts.not_matches (h : p.Halts src s stop t) : ¬ p.Matches src s v rest u := by
  intro hv
  rw [Matches, h] at hv
  cases hv

theorem Halts.not_fails (h : p.Halts src s stop t) : ¬ p.Fails src s e u := by
  intro hfail
  rw [Fails, h] at hfail
  cases hfail

theorem matches_bind_iff : (ParserT.bind p next).Matches src s w last u ↔
    ∃ v rest t, p.Matches src s v rest t ∧ (next v).Matches rest t w last u := by
  constructor
  · exact Matches.exists_of_bind
  · intro ⟨v, rest, t, hp, hnext⟩
    exact hp.run_bind.trans hnext

theorem fails_bind_iff : (ParserT.bind p next).Fails src s e u ↔
    p.Fails src s e u ∨ ∃ v rest t, p.Matches src s v rest t ∧ (next v).Fails rest t e u := by
  constructor
  · intro h
    rw [Fails, ParserT.bind, Eval.run_bind] at h
    split at h
    next r t hp =>
      cases r with
      | success v rest => exact .inr ⟨v, rest, t, hp, h⟩
      | failure e =>
        cases h
        exact .inl hp
    next => cases h
  · intro h
    rcases h with hp | ⟨v, rest, t, hp, hnext⟩
    · exact hp.bind
    · exact hp.run_bind.trans hnext

theorem halts_bind_iff : (ParserT.bind p next).Halts src s stop u ↔
    p.Halts src s stop u ∨ ∃ v rest t, p.Matches src s v rest t ∧ (next v).Halts rest t stop u := by
  constructor
  · intro h
    rw [Halts, ParserT.bind, Eval.run_bind] at h
    split at h
    next r t hp =>
      cases r with
      | success v rest => exact .inr ⟨v, rest, t, hp, h⟩
      | failure e => cases h
    next t hp =>
      cases h
      exact .inl hp
  · intro h
    rcases h with hp | ⟨v, rest, t, hp, hnext⟩
    · rw [Halts, ParserT.bind, Eval.run_bind, hp]
    · exact hp.run_bind.trans hnext

theorem fails_map_iff {f : α → β} : (ParserT.map f p).Fails src s e t ↔ p.Fails src s e t := by
  constructor
  · intro h
    rcases fails_bind_iff.1 h with hp | ⟨v, rest, u, -, hpure⟩
    · exact hp
    · cases hpure
  · exact Fails.bind

theorem halts_map_iff {f : α → β} :
    (ParserT.map f p).Halts src s stop t ↔ p.Halts src s stop t := by
  constructor
  · intro h
    rcases halts_bind_iff.1 h with hp | ⟨v, rest, u, -, hpure⟩
    · exact hp
    · cases hpure
  · intro h
    exact halts_bind_iff.2 (.inl h)

theorem Matches.orElse (h : p.Matches src s v rest t) : (orElse p q).Matches src s v rest t := by
  rw [Matches, ParserT.orElse, Eval.run_bind, h]
  rfl

theorem Fails.run_orElse (h : p.Fails src s e t) : (orElse p q src).run s = (q src).run t := by
  rw [ParserT.orElse, Eval.run_bind, h]

theorem Halts.orElse (h : p.Halts src s stop t) : (orElse p q).Halts src s stop t := by
  rw [Halts, ParserT.orElse, Eval.run_bind, h]

theorem matches_orElse_iff : (orElse p q).Matches src s v rest t ↔
    p.Matches src s v rest t ∨ ∃ e u, p.Fails src s e u ∧ q.Matches src u v rest t := by
  constructor
  · intro h
    rcases matches_or_fails_or_halts p src s with ⟨v', last, u, hp⟩ | ⟨e, u, hp⟩ | ⟨stop, u, hp⟩
    · obtain ⟨rfl, rfl, rfl⟩ := h.unique hp.orElse
      exact .inl hp
    · exact .inr ⟨e, u, hp, hp.run_orElse.symm.trans h⟩
    · exact absurd h hp.orElse.not_matches
  · intro h
    rcases h with hp | ⟨e, u, hp, hq⟩
    · exact hp.orElse
    · exact hp.run_orElse.trans hq

theorem fails_orElse_iff : (orElse p q).Fails src s e t ↔
    ∃ e' u, p.Fails src s e' u ∧ q.Fails src u e t := by
  constructor
  · intro h
    rcases matches_or_fails_or_halts p src s with ⟨v', last, u, hp⟩ | ⟨e', u, hp⟩ | ⟨stop, u, hp⟩
    · exact absurd hp.orElse h.not_matches
    · exact ⟨e', u, hp, hp.run_orElse.symm.trans h⟩
    · exact absurd h hp.orElse.not_fails
  · intro ⟨e', u, hp, hq⟩
    exact hp.run_orElse.trans hq

theorem halts_orElse_iff : (orElse p q).Halts src s stop t ↔
    p.Halts src s stop t ∨ ∃ e u, p.Fails src s e u ∧ q.Halts src u stop t := by
  constructor
  · intro h
    rcases matches_or_fails_or_halts p src s with ⟨v', last, u, hp⟩ | ⟨e, u, hp⟩ | ⟨stop', u, hp⟩
    · exact absurd hp.orElse h.not_matches
    · exact .inr ⟨e, u, hp, hp.run_orElse.symm.trans h⟩
    · have hrun := h.symm.trans hp.orElse
      cases hrun
      exact .inl hp
  · intro h
    rcases h with hp | ⟨e, u, hp, hq⟩
    · exact hp.orElse
    · exact hp.run_orElse.trans hq

end

/-- Rounds that follow one another, each of which shortens the text. -/
inductive Progress (round : Text → Session ω → α → Text → Session ω → Prop) :
    Text → Session ω → List α → Text → Session ω → Prop
  | done (src : Text) (s : Session ω) : Progress round src s [] src s
  | step {src rest last : Text} {s t u : Session ω} {v : α} {vs : List α}
    (h : round src s v rest t) (hlt : rest.length < src.length)
    (hmore : Progress round rest t vs last u) : Progress round src s (v :: vs) last u

section
variable {p : ParserT (Eval ω) α} {src rest last e : Text} {v : α} {vs ws : List α}
  {s t u : Session ω} {stop : Stop}

/-! What a repetition does on one text. -/

theorem Fails.run_many (h : p.Fails src s e t) :
    (many p src).run s = (.ok (.success [] src), t) := by
  rw [many_eq, Eval.run_bind, h]
  rfl

theorem Halts.run_many (h : p.Halts src s stop t) : (many p src).run s = (.error stop, t) := by
  rw [many_eq, Eval.run_bind, h]

theorem Matches.run_many_of_le (h : p.Matches src s v rest t) (hle : src.length ≤ rest.length) :
    (many p src).run s = (.ok (.success [v] rest), t) := by
  rw [many_eq, Eval.run_bind, h]
  change (continueMany p src v rest).run t = _
  rw [continueMany, if_neg (Nat.not_lt.2 hle)]
  rfl

theorem Matches.run_many_of_lt (h : p.Matches src s v rest t) (hlt : rest.length < src.length) :
    (many p src).run s = (Result.map (v :: ·) <$> many p rest).run t := by
  rw [many_eq, Eval.run_bind, h]
  change (continueMany p src v rest).run t = _
  rw [continueMany, if_pos hlt]

theorem Progress.run_many (h : Progress p.Matches src s ws rest t) :
    (many p src).run s = (Result.map (ws ++ ·) <$> many p rest).run t := by
  induction h with
  | done src s =>
    have hid : Result.map (([] : List α) ++ ·) = id := funext Result.map_id
    rw [hid, id_map]
  | @step src mid last s t u v vs h hlt hmore ih =>
    rw [h.run_many_of_lt hlt, Eval.run_map, ih, ← Eval.run_map, Functor.map_map]
    simp only [Result.map_map, Function.comp_def, List.cons_append]

theorem exists_progress (p : ParserT (Eval ω) α) (src : Text) (s : Session ω) :
    ∃ ws rest t, Progress p.Matches src s ws rest t ∧
      ∀ v last u, p.Matches rest t v last u → rest.length ≤ last.length := by
  induction src using shorter_induction generalizing s with
  | shorter src ih =>
    by_cases h : ∃ v rest t, p.Matches src s v rest t ∧ rest.length < src.length
    · obtain ⟨v, rest, t, hv, hlt⟩ := h
      obtain ⟨ws, last, u, hprogress, hend⟩ := ih rest hlt t
      exact ⟨v :: ws, last, u, .step hv hlt hprogress, hend⟩
    · refine ⟨[], src, s, .done src s, fun v last u hv => Nat.not_lt.1 fun hlt => ?_⟩
      exact h ⟨v, last, u, hv, hlt⟩

theorem Progress.many_of_fails (h : Progress p.Matches src s ws rest t)
    (hfail : p.Fails rest t e u) : (many p).Matches src s ws rest u := by
  rw [Matches, h.run_many, Eval.run_map, hfail.run_many]
  simp only [Except.map, Result.map, List.append_nil]

theorem Progress.many_of_matches (h : Progress p.Matches src s ws rest t)
    (hv : p.Matches rest t v last u) (hle : rest.length ≤ last.length) :
    (many p).Matches src s (ws ++ [v]) last u := by
  rw [Matches, h.run_many, Eval.run_map, hv.run_many_of_le hle]
  rfl

theorem Progress.many_of_halts (h : Progress p.Matches src s ws rest t)
    (hstop : p.Halts rest t stop u) : (many p).Halts src s stop u := by
  rw [Halts, h.run_many, Eval.run_map, hstop.run_many]
  rfl

/-- A repetition is its progress, and then a failure, a match without progress, or a stop. -/
theorem exists_progress_many (p : ParserT (Eval ω) α) (src : Text) (s : Session ω) :
    ∃ ws rest t, Progress p.Matches src s ws rest t ∧
      ((∃ e u, p.Fails rest t e u ∧ (many p).Matches src s ws rest u) ∨
        (∃ v last u, p.Matches rest t v last u ∧ rest.length ≤ last.length ∧
          (many p).Matches src s (ws ++ [v]) last u) ∨
        ∃ stop u, p.Halts rest t stop u ∧ (many p).Halts src s stop u) := by
  obtain ⟨ws, rest, t, hprogress, hend⟩ := exists_progress p src s
  refine ⟨ws, rest, t, hprogress, ?_⟩
  rcases matches_or_fails_or_halts p rest t with ⟨v, last, u, hv⟩ | ⟨e, u, hfail⟩ |
    ⟨stop, u, hstop⟩
  · have hle := hend v last u hv
    exact .inr (.inl ⟨v, last, u, hv, hle, hprogress.many_of_matches hv hle⟩)
  · exact .inl ⟨e, u, hfail, hprogress.many_of_fails hfail⟩
  · exact .inr (.inr ⟨stop, u, hstop, hprogress.many_of_halts hstop⟩)

theorem many_matches_iff : (many p).Matches src s vs last u ↔
    ∃ ws rest t, Progress p.Matches src s ws rest t ∧
      (vs = ws ∧ last = rest ∧ (∃ e, p.Fails rest t e u) ∨
        ∃ v, vs = ws ++ [v] ∧ p.Matches rest t v last u ∧ rest.length ≤ last.length) := by
  constructor
  · intro h
    obtain ⟨ws, rest, t, hprogress, hend⟩ := exists_progress_many p src s
    refine ⟨ws, rest, t, hprogress, ?_⟩
    rcases hend with ⟨e, u', hfail, hmany⟩ | ⟨v, last', u', hv, hle, hmany⟩ |
      ⟨stop, u', -, hmany⟩
    · obtain ⟨rfl, rfl, rfl⟩ := h.unique hmany
      exact .inl ⟨rfl, rfl, e, hfail⟩
    · obtain ⟨rfl, rfl, rfl⟩ := h.unique hmany
      exact .inr ⟨v, rfl, hv, hle⟩
    · exact absurd h hmany.not_matches
  · intro ⟨ws, rest, t, hprogress, hend⟩
    rcases hend with ⟨rfl, rfl, e, hfail⟩ | ⟨v, rfl, hv, hle⟩
    · exact hprogress.many_of_fails hfail
    · exact hprogress.many_of_matches hv hle

theorem not_fails_many : ¬ (many p).Fails src s e t := by
  intro h
  obtain ⟨ws, rest, u, -, hend⟩ := exists_progress_many p src s
  rcases hend with ⟨_, _, -, hmany⟩ | ⟨_, _, _, -, -, hmany⟩ | ⟨_, _, -, hmany⟩
  · exact h.not_matches hmany
  · exact h.not_matches hmany
  · exact hmany.not_fails h

theorem many_halts_iff : (many p).Halts src s stop u ↔
    ∃ ws rest t, Progress p.Matches src s ws rest t ∧ p.Halts rest t stop u := by
  constructor
  · intro h
    obtain ⟨ws, rest, t, hprogress, hend⟩ := exists_progress_many p src s
    refine ⟨ws, rest, t, hprogress, ?_⟩
    rcases hend with ⟨_, _, -, hmany⟩ | ⟨_, _, _, -, -, hmany⟩ | ⟨stop', u', hstop, hmany⟩
    · exact absurd hmany h.not_matches
    · exact absurd hmany h.not_matches
    · have hrun := h.symm.trans hmany
      cases hrun
      exact hstop
  · intro ⟨ws, rest, t, hprogress, hstop⟩
    exact hprogress.many_of_halts hstop

end

end Descent.ParserT
