import Descent.Parser.Primitives

/-!
# Greedy repetition by its recursive equation

A repetition takes one match, and after a match that shortened the text it is the same repetition
of the text that is left. The loop with its list of matches found so far, the parser that may match
nothing and the one that has to match once all follow this rule, whatever their parser does to the
text and in whatever monad it runs.
-/

namespace Descent.ParserT

variable {m : Type → Type} [Monad m] {α : Type}

def continueMany (p : ParserT m α) (src : Text) (v : α) (rest : Text) : m (Result (List α)) :=
  if rest.length < src.length then Result.map (v :: ·) <$> many p rest
  else pure (.success [v] rest)

section
variable [LawfulMonad m]

theorem gather_eq_map (p : ParserT m α) (found : Array α) (src : Text) :
    gather p found src = Result.map (found.toList ++ ·) <$> many p src := by
  induction src using shorter_induction generalizing found with
  | shorter src ih =>
    rw [gather, many, map_bind]
    refine bind_congr fun r => ?_
    cases r with
    | failure e => simp [Result.map]
    | success v rest =>
      by_cases hr : rest.length < src.length
      · simp only [hr, ↓reduceIte]
        rw [ih rest hr (found.push v), ih rest hr #[v], Functor.map_map]
        simp only [Result.map_map, Function.comp_def, Array.toList_push, List.append_assoc]
      · simp [hr, Result.map]

theorem gather_push (p : ParserT m α) (v : α) (rest : Text) :
    gather p #[v] rest = Result.map (v :: ·) <$> many p rest :=
  gather_eq_map p #[v] rest

theorem continueMany_eq_gather (p : ParserT m α) (src : Text) (v : α) (rest : Text) :
    continueMany p src v rest =
      if rest.length < src.length then gather p #[v] rest else pure (.success [v] rest) := by
  rw [continueMany, gather_push]

theorem many_eq (p : ParserT m α) (src : Text) : many p src = p src >>= fun
    | .failure _ => pure (.success [] src)
    | .success v rest => continueMany p src v rest := by
  refine bind_congr fun r => ?_
  cases r with
  | failure e => rfl
  | success v rest => exact (continueMany_eq_gather p src v rest).symm

theorem many1_eq (p : ParserT m α) (src : Text) : many1 p src = p src >>= fun
    | .failure e => pure (.failure e)
    | .success v rest => continueMany p src v rest := by
  refine bind_congr fun r => ?_
  cases r with
  | failure e => rfl
  | success v rest => exact (continueMany_eq_gather p src v rest).symm

end

section
variable [LawfulMonad m] {p : ParserT m α} {src : Text}

theorem many_of_failure {e : Text} (h : p src = pure (.failure e)) :
    many p src = pure (.success [] src) := by
  rw [many_eq, h, pure_bind]

theorem many_of_success {v : α} {rest : Text} (h : p src = pure (.success v rest))
    (hlt : rest.length < src.length) : many p src = Result.map (v :: ·) <$> many p rest := by
  rw [many_eq, h, pure_bind]
  exact if_pos hlt

end

section
variable [LawfulMonad m] {β : Type} (f : α → β) (p : ParserT m α)

theorem continueMany_map {src rest : Text} (v : α)
    (hmany : rest.length < src.length →
      many (.map f p) rest = Result.map (List.map f) <$> many p rest) :
    continueMany (.map f p) src (f v) rest =
      Result.map (List.map f) <$> continueMany p src v rest := by
  by_cases hlt : rest.length < src.length
  · rw [continueMany, continueMany, if_pos hlt, if_pos hlt, hmany hlt, Functor.map_map,
      Functor.map_map]
    simp only [Result.map_map, Function.comp_def, List.map_cons]
  · rw [continueMany, continueMany, if_neg hlt, if_neg hlt, map_pure]
    rfl

theorem many_map (src : Text) :
    many (.map f p) src = Result.map (List.map f) <$> many p src := by
  induction src using shorter_induction with
  | shorter src ih =>
    rw [many_eq, many_eq, ParserT.map, bind_assoc, map_bind]
    refine bind_congr fun r => ?_
    cases r with
    | failure e => simp [Result.map]
    | success v rest =>
      rw [pure_bind]
      exact continueMany_map f p v (ih rest)

theorem many1_map (src : Text) :
    many1 (.map f p) src = Result.map (List.map f) <$> many1 p src := by
  rw [many1_eq, many1_eq, ParserT.map, bind_assoc, map_bind]
  refine bind_congr fun r => ?_
  cases r with
  | failure e => simp [Result.map]
  | success v rest =>
    rw [pure_bind]
    exact continueMany_map f p v fun _ => many_map f p rest

end

/-! Parsers that do nothing but read. -/

variable (p : Parser α) (src : Text)

theorem parse_many : (many p).parse src = match p.parse src with
    | .failure _ => .success [] src
    | .success v rest => (continueMany p src v rest).run := by
  rw [parse, many_eq]
  cases h : p.parse src with
  | failure e =>
    change Id.run (p src) = _ at h
    simp [h]
  | success v rest =>
    change Id.run (p src) = _ at h
    simp [h]

theorem parse_many1 : (many1 p).parse src = match p.parse src with
    | .failure e => .failure e
    | .success v rest => (continueMany p src v rest).run := by
  rw [parse, many1_eq]
  cases h : p.parse src with
  | failure e =>
    change Id.run (p src) = _ at h
    simp [h]
  | success v rest =>
    change Id.run (p src) = _ at h
    simp [h]

theorem continueMany_of_le {v : α} {rest : Text} (h : src.length ≤ rest.length) :
    (continueMany p src v rest).run = .success [v] rest := by
  rw [continueMany, if_neg (Nat.not_lt.2 h)]
  rfl

theorem continueMany_of_lt {v : α} {rest : Text} (h : rest.length < src.length) :
    (continueMany p src v rest).run = ((many p).parse rest).map (v :: ·) := by
  rw [continueMany, if_pos h]
  rfl

theorem exists_parse_many : ∃ vs last, (many p).parse src = .success vs last := by
  induction src using shorter_induction with
  | shorter src ih =>
    rw [parse_many]
    cases p.parse src with
    | failure e => exact ⟨[], src, rfl⟩
    | success v rest =>
      by_cases hr : rest.length < src.length
      · obtain ⟨vs, last, hv⟩ := ih rest hr
        exact ⟨v :: vs, last, by simp [continueMany_of_lt p src hr, hv, Result.map]⟩
      · exact ⟨[v], rest, continueMany_of_le p src (Nat.not_lt.1 hr)⟩

/-- Greedy repetition as a recursive definition. It always answers; the three cases are a failure,
a match that does not shorten the text, which is the last one, and a match that does. -/
theorem parse_many_and_many1 :
    (∃ vs last, (many p).parse src = .success vs last) ∧
    (∀ e, p.parse src = .failure e →
      (many p).parse src = .success [] src ∧ (many1 p).parse src = .failure e) ∧
    (∀ v rest, p.parse src = .success v rest → src.length ≤ rest.length →
      (many p).parse src = .success [v] rest ∧ (many1 p).parse src = .success [v] rest) ∧
    ∀ v rest vs last, p.parse src = .success v rest → rest.length < src.length →
      (many p).parse rest = .success vs last →
      (many p).parse src = .success (v :: vs) last ∧
        (many1 p).parse src = .success (v :: vs) last := by
  refine ⟨exists_parse_many p src, fun e h => ?_, fun v rest h hr => ?_,
    fun v rest vs last h hr hv => ?_⟩
  · rw [parse_many, parse_many1, h]
    exact ⟨rfl, rfl⟩
  · rw [parse_many, parse_many1, h]
    exact ⟨continueMany_of_le p src hr, continueMany_of_le p src hr⟩
  · have hmore : (continueMany p src v rest).run = .success (v :: vs) last := by
      rw [continueMany_of_lt p src hr, hv]
      rfl
    rw [parse_many, parse_many1, h]
    exact ⟨hmore, hmore⟩

theorem parse_many_and_many1_cases :
    (many (insert ['x'] : Parser Text)).parse ['y'] = .success [['x']] ['x', 'y'] ∧
    (many (char 'a' : Parser Char)).parse ['b'] = .success [] ['b'] ∧
    (many (char 'a' : Parser Char)).parse ['a', 'b'] = .success ['a'] ['b'] ∧
    (many1 (char 'a' : Parser Char)).parse ['a', 'b'] = .success ['a'] ['b'] := by
  have hx := (parse_many_and_many1 (insert ['x']) ['y']).2.2.1 ['x'] ['x', 'y'] rfl (by decide)
  have hb := (parse_many_and_many1 (char 'a') ['b']).2.1 (wanted (Text.quote ['a']) (some 'b')) rfl
  have ha := (parse_many_and_many1 (char 'a') ['a', 'b']).2.2.2 'a' ['b'] [] ['b'] rfl
    (by decide) hb.1
  exact ⟨hx.1, hb.1, ha⟩

end Descent.ParserT
