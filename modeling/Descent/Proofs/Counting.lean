import Descent.Proofs.Runs
import Descent.Proofs.Sequencing

/-!
# Repetition by count and without a count

The number of matches that a repetition without a count has found is the count with which the same
parser finds the same matches. Where every match shortens the text it is the largest such count: the
next match fails, and with it each larger count. Parsers are followed from session to session, so
that what a parser does may depend on what was done before.
-/

namespace Descent.ParserT

section
variable {m : Type → Type} [Monad m] {α : Type}

theorem times_zero (p : ParserT m α) : times 0 p = .pure [] := rfl

variable [LawfulMonad m]

theorem collectTimes_eq_map (p : ParserT m α) (found : Array α) (n : Nat) (src : Text) :
    collectTimes p found n src = Result.map (found.toList ++ ·) <$> times n p src := by
  induction n generalizing found src with
  | zero => simp [times, collectTimes, Result.map]
  | succ n ih =>
    rw [times, collectTimes, collectTimes, map_bind]
    refine bind_result_congr (fun v rest => ?_) fun e => ?_
    · have step (found : Array α) := ih (found.push v) rest
      dsimp only
      rw [step, step, Functor.map_map]
      simp only [Result.map_map, Function.comp_def, Array.toList_push, List.append_assoc]
      rfl
    · simp [Result.map]

theorem times_succ (n : Nat) (p : ParserT m α) :
    times (n + 1) p = .bind p fun v => .map (v :: ·) (times n p) := by
  funext src
  refine bind_result_congr (fun v rest => ?_) fun _ => rfl
  have hrest : collectTimes p (#[].push v) n rest = Result.map (v :: ·) <$> times n p rest :=
    collectTimes_eq_map p (#[].push v) n rest
  exact hrest.trans (map_apply (v :: ·) (times n p) rest).symm

theorem times_add (k n : Nat) (p : ParserT m α) :
    times (k + n) p = .bind (times k p) fun vs => .map (vs ++ ·) (times n p) := by
  induction k with
  | zero =>
    rw [Nat.zero_add, times_zero, ParserT.pure_bind, map_eq_bind]
    exact (ParserT.bind_pure (times n p)).symm
  | succ k ih =>
    rw [Nat.add_right_comm, times_succ, times_succ, ih]
    simp only [map_eq_bind, ParserT.bind_assoc, ParserT.pure_bind, List.cons_append]

theorem times_map {β : Type} (f : α → β) (n : Nat) (p : ParserT m α) :
    times n (.map f p) = .map (List.map f) (times n p) := by
  induction n with
  | zero => exact (ParserT.pure_bind [] fun vs => .pure (vs.map f)).symm
  | succ n ih =>
    rw [times_succ, times_succ, ih]
    simp only [map_eq_bind, ParserT.bind_assoc, ParserT.pure_bind, List.map_cons]

end

variable {ω α β : Type}

/-- Run in the session `s`, `p` matches at the beginning of `src` and leaves `rest` and the session
`t`. -/
def Matches (p : ParserT (Eval ω) α) (src : Text) (s : Session ω) (v : α) (rest : Text)
    (t : Session ω) : Prop := (p src).run s = (.ok (.success v rest), t)

def Fails (p : ParserT (Eval ω) α) (src : Text) (s : Session ω) (e : Text) (t : Session ω) : Prop :=
  (p src).run s = (.ok (.failure e), t)

def Shortens (p : ParserT (Eval ω) α) : Prop :=
  ∀ src s v rest t, p.Matches src s v rest t → rest.length < src.length

variable {p : ParserT (Eval ω) α} {next : α → ParserT (Eval ω) β} {src rest last e : Text}
  {v : α} {w : β} {vs : List α} {s t u : Session ω} {n : Nat}

theorem Matches.run_bind (h : p.Matches src s v rest t) :
    (ParserT.bind p next src).run s = (next v rest).run t := by
  rw [ParserT.bind, Eval.run_bind, h]

theorem Fails.bind (h : p.Fails src s e t) : (ParserT.bind p next).Fails src s e t := by
  rw [Fails, ParserT.bind, Eval.run_bind, h]
  rfl

theorem Matches.exists_of_bind (h : (ParserT.bind p next).Matches src s w last u) :
    ∃ v rest t, p.Matches src s v rest t ∧ (next v).Matches rest t w last u := by
  rw [Matches, ParserT.bind, Eval.run_bind] at h
  split at h
  next r t hp =>
    cases r with
    | success v rest => exact ⟨v, rest, t, hp, h⟩
    | failure e => cases h
  next => cases h

theorem Matches.map {f : α → β} (h : p.Matches src s v rest t) :
    (ParserT.map f p).Matches src s (f v) rest t := h.run_bind

theorem Matches.exists_of_map {f : α → β} (h : (ParserT.map f p).Matches src s w last u) :
    ∃ v, w = f v ∧ p.Matches src s v last u := by
  obtain ⟨v, rest, t, hp, hv⟩ := h.exists_of_bind
  cases hv
  exact ⟨v, rfl, hp⟩

theorem Matches.many_cases (h : (many p).Matches src s vs last t) :
    (vs = [] ∧ last = src ∧ ∃ e, p.Fails src s e t) ∨
    (∃ v, vs = [v] ∧ p.Matches src s v last t ∧ src.length ≤ last.length) ∨
    ∃ v rest u more, vs = v :: more ∧ p.Matches src s v rest u ∧
      rest.length < src.length ∧ (many p).Matches rest u more last t := by
  rw [Matches, many_eq, Eval.run_bind] at h
  split at h
  next r u hp =>
    cases r with
    | failure e =>
      cases h
      exact .inl ⟨rfl, rfl, e, hp⟩
    | success v rest =>
      change (continueMany p src v rest).run u = _ at h
      by_cases hlt : rest.length < src.length
      · rw [continueMany, if_pos hlt, ← map_apply] at h
        obtain ⟨more, rfl, hmore⟩ := Matches.exists_of_map h
        exact .inr (.inr ⟨v, rest, u, more, rfl, hp, hlt, hmore⟩)
      · rw [continueMany, if_neg hlt] at h
        cases h
        exact .inr (.inl ⟨v, rfl, hp, Nat.not_lt.1 hlt⟩)
  next => cases h

theorem Matches.times_succ (h : p.Matches src s v rest t)
    (hmore : (times n p).Matches rest t vs last u) :
    (times (n + 1) p).Matches src s (v :: vs) last u := by
  rw [ParserT.times_succ]
  exact h.run_bind.trans hmore.map

theorem Matches.times_one (h : p.Matches src s v rest t) : (times 1 p).Matches src s [v] rest t :=
  h.times_succ rfl

theorem Matches.exists_times (h : (many p).Matches src s vs last t) :
    ∃ u, (times vs.length p).Matches src s vs last u ∧
      ((∃ e, p.Fails last u e t) ∨
        u = t ∧ ∃ start s' v, p.Matches start s' v last t ∧ start.length ≤ last.length) := by
  induction src using shorter_induction generalizing s vs with
  | shorter src ih =>
    rcases h.many_cases with ⟨rfl, rfl, hfail⟩ | ⟨v, rfl, hv, hle⟩ |
      ⟨v, rest, s', more, rfl, hv, hlt, hmore⟩
    · exact ⟨s, rfl, .inl hfail⟩
    · exact ⟨t, hv.times_one, .inr ⟨rfl, src, s, v, hv, hle⟩⟩
    · obtain ⟨u, hu, hend⟩ := ih rest hlt hmore
      exact ⟨u, hv.times_succ hu, hend⟩

theorem Matches.exists_times_of_le {k : Nat} (h : (times n p).Matches src s vs last u)
    (hk : k ≤ n) : ∃ front rest t, (times k p).Matches src s front rest t := by
  obtain ⟨more, rfl⟩ := Nat.exists_eq_add_of_le hk
  rw [times_add] at h
  obtain ⟨front, rest, t, hfront, -⟩ := h.exists_of_bind
  exact ⟨front, rest, t, hfront⟩

theorem Matches.times_fails {k : Nat} (h : (times n p).Matches src s vs last u)
    (hfail : p.Fails last u e t) (hk : n < k) : (times k p).Fails src s e t := by
  obtain ⟨more, rfl⟩ := Nat.exists_eq_add_of_lt hk
  rw [Nat.add_assoc, times_add]
  have hmore : (times (more + 1) p).Fails last u e t := by
    rw [ParserT.times_succ]
    exact hfail.bind
  exact h.run_bind.trans hmore.bind

theorem Fails.not_matches (h : p.Fails src s e t) : ¬ p.Matches src s v rest u := by
  intro hv
  rw [Matches, h] at hv
  cases hv

theorem timesWithin?_eq_ok_iff {m : Type → Type} [Monad m] {room : Nat} {n : Int}
    {p : ParserT m α} {q : ParserT m (List α)} :
    timesWithin? room n p = .ok q ↔ 0 ≤ n ∧ n < maxLength ∧ n < room ∧ q = times n.toNat p := by
  constructor
  · intro h
    rw [timesWithin?] at h
    split at h
    next => cases h
    next hneg =>
      split at h
      next => cases h
      next hlength =>
        split at h
        next => cases h
        next hroom =>
          cases h
          exact ⟨Int.not_lt.1 hneg, by omega, by omega, rfl⟩
  · rintro ⟨hneg, hlength, hroom, rfl⟩
    obtain ⟨k, rfl⟩ := Int.eq_ofNat_of_zero_le hneg
    exact timesWithin?_natCast (Int.ofNat_lt.1 hlength) (Int.ofNat_lt.1 hroom) p

/-- A repetition without a count agrees with the count of its matches. If each match shortens the
text, the parser fails on what the repetition has left, the counts that match are those from zero up
to the number of matches that were found, as far as their lists can be made, and each larger count
fails as the parser does there. -/
theorem times_agrees_with_many (h : (many p).Matches src s vs rest t) :
    (∃ u, (times vs.length p).Matches src s vs rest u) ∧
    (∀ room q, timesWithin? room vs.length p = .ok q → ∃ u, q.Matches src s vs rest u) ∧
    (p.Shortens → ∃ e u, (times vs.length p).Matches src s vs rest u ∧ p.Fails rest u e t ∧
      (∀ n, (∃ ws last u, (times n p).Matches src s ws last u) ↔ n ≤ vs.length) ∧
      (∀ n, vs.length < n → (times n p).Fails src s e t) ∧
      (∀ (room : Nat) (n : Int),
        (∃ q ws last u, timesWithin? room n p = .ok q ∧ q.Matches src s ws last u) ↔
          0 ≤ n ∧ n ≤ vs.length ∧ n < maxLength ∧ n < room) ∧
      ∀ (room : Nat) (n : Int) (q : ParserT (Eval ω) (List α)), timesWithin? room n p = .ok q →
        vs.length < n → q.Fails src s e t) := by
  obtain ⟨u, hu, hend⟩ := h.exists_times
  refine ⟨⟨u, hu⟩, fun room q hq => ?_, fun hshort => ?_⟩
  · obtain ⟨-, -, -, rfl⟩ := timesWithin?_eq_ok_iff.1 hq
    exact ⟨u, hu⟩
  have hfail : ∃ e, p.Fails rest u e t := by
    rcases hend with hfail | ⟨-, start, s', v, hv, hle⟩
    · exact hfail
    · exact absurd (hshort _ _ _ _ _ hv) (Nat.not_lt.2 hle)
  obtain ⟨e, hfail⟩ := hfail
  have hcount : ∀ n, (∃ ws last u, (times n p).Matches src s ws last u) ↔ n ≤ vs.length := by
    refine fun n => ⟨fun ⟨ws, last, u', hn⟩ => ?_, fun hn => hu.exists_times_of_le hn⟩
    exact Nat.not_lt.1 fun hlt => (hu.times_fails hfail hlt).not_matches hn
  refine ⟨e, u, hu, hfail, hcount, fun n hn => hu.times_fails hfail hn, fun room n => ⟨?_, ?_⟩,
    fun room n q hq hn => ?_⟩
  · rintro ⟨q, ws, last, u', hq, hmatch⟩
    obtain ⟨hneg, hlength, hroom, rfl⟩ := timesWithin?_eq_ok_iff.1 hq
    have hle := (hcount n.toNat).1 ⟨ws, last, u', hmatch⟩
    exact ⟨hneg, Int.toNat_le.1 hle, hlength, hroom⟩
  · rintro ⟨hneg, hle, hlength, hroom⟩
    obtain ⟨ws, last, u', hmatch⟩ := (hcount n.toNat).2 (Int.toNat_le.2 hle)
    exact ⟨_, ws, last, u', timesWithin?_eq_ok_iff.2 ⟨hneg, hlength, hroom, rfl⟩, hmatch⟩
  · obtain ⟨hneg, -, -, rfl⟩ := timesWithin?_eq_ok_iff.1 hq
    exact hu.times_fails hfail (by omega)

theorem shortens_satisfy (test : Char → Bool) (mismatch : Char → Text) (atEnd : Text) :
    (satisfy test mismatch atEnd : ParserT (Eval ω) Char).Shortens := by
  intro src s v rest t h
  cases src with
  | nil => cases h
  | cons c tail =>
    cases hc : test c with
    | true =>
      rw [Matches, satisfy_of_test test mismatch atEnd hc] at h
      cases h
      exact Nat.lt_succ_self _
    | false =>
      rw [Matches, satisfy_of_not_test test mismatch atEnd hc] at h
      cases h

theorem times_agrees_with_many_letters :
    (many (insert ['x'])).Matches ['y'] {} [['x']] ['x', 'y'] ({} : Session Unit) ∧
    (∃ u : Session Unit, (times 1 (insert ['x'])).Matches ['y'] {} [['x']] ['x', 'y'] u) ∧
    (char 'a' : ParserT (Eval Unit) Char).Shortens ∧
    (many (char 'a')).Matches ['a', 'a', 'b'] {} ['a', 'a'] ['b'] ({} : Session Unit) ∧
    (∃ q ws last, ∃ u : Session Unit, timesWithin? 9 1 (char 'a') = .ok q ∧
      q.Matches ['a', 'a', 'b'] {} ws last u) ∧
    ¬ (∃ q ws last, ∃ u : Session Unit, timesWithin? 1 1 (char 'a') = .ok q ∧
      q.Matches ['a', 'a', 'b'] {} ws last u) ∧
    ¬ (∃ q ws last, ∃ u : Session Unit, timesWithin? 9 (-1) (char 'a') = .ok q ∧
      q.Matches ['a', 'a', 'b'] {} ws last u) ∧
    ∃ e q, (char 'a').Fails ['b'] {} e ({} : Session Unit) ∧
      timesWithin? 9 7 (char 'a') = .ok q ∧ q.Fails ['a', 'a', 'b'] {} e ({} : Session Unit) := by
  have hinsert : (many (insert ['x'])).Matches ['y'] {} [['x']] ['x', 'y']
      ({} : Session Unit) := by
    rw [Matches, many_eq]
    rfl
  have hletters : (many (char 'a')).Matches ['a', 'a', 'b'] {} ['a', 'a'] ['b']
      ({} : Session Unit) := by
    rw [Matches, char, expect, many_satisfy]
    rfl
  have hshort : (char 'a' : ParserT (Eval Unit) Char).Shortens := shortens_satisfy _ _ _
  obtain ⟨e, u, hu, hfail, -, -, hiff, hlarger⟩ := (times_agrees_with_many hletters).2.2 hshort
  cases hu
  have hseven : timesWithin? 9 7 (char 'a' : ParserT (Eval Unit) Char) = .ok (times 7 (char 'a')) :=
    timesWithin?_natCast (by decide) (by decide) _
  exact ⟨hinsert, (times_agrees_with_many hinsert).1, hshort, hletters,
    (hiff 9 1).2 (by decide), fun hroom => absurd ((hiff 1 1).1 hroom).2.2.2 (by decide),
    fun hnegative => absurd ((hiff 9 (-1)).1 hnegative).1 (by decide), e, _, hfail, hseven,
    hlarger 9 7 _ hseven (by decide)⟩

end Descent.ParserT
