import Descent.Proofs.Repetition
import Descent.Proofs.Sequencing

/-!
# The laws of alternatives and of looking ahead

What may be missing is an alternative that matches anyway, a gate is a look ahead, and alternatives
that begin in the same way have a common beginning. The equations keep messages, and hold over every
lawful monad; but a beginning that is tried twice on the one side and once on the other has to be
without effects.
-/

namespace Descent.ParserT

variable {m : Type → Type} [Monad m] {α β γ : Type}

def IsPure (p : ParserT m α) : Prop := ∀ src, ∃ r, p src = pure r

theorem withDefault_eq_orElse (default : α) (p : ParserT m α) :
    withDefault default p = orElse p (.pure default) := rfl

theorem sepBy_eq_withDefault (p : ParserT m α) (q : ParserT m β) :
    sepBy p q = withDefault [] (sepBy1 p q) := rfl

variable [LawfulMonad m]

theorem orElse_of_success {p q : ParserT m α} {src rest : Text} {v : α}
    (h : p src = pure (.success v rest)) : orElse p q src = pure (.success v rest) := by
  rw [orElse, h, pure_bind]

theorem orElse_of_failure {p q : ParserT m α} {src e : Text} (h : p src = pure (.failure e)) :
    orElse p q src = q src := by
  rw [orElse, h, pure_bind]

theorem orElse_assoc (p q r : ParserT m α) :
    orElse (orElse p q) r = orElse p (orElse q r) :=
  funext fun _ => bind_result_assoc (fun _ _ => pure_bind _ _) fun _ => rfl

theorem orElse_map_pure (f : α → β) (default : β) (p : ParserT m α) :
    orElse (.map f p) (.pure default) = fun src => p src >>= fun
      | .success v rest => pure (.success (f v) rest)
      | .failure _ => pure (.success default src) :=
  funext fun _ => bind_result_assoc (fun _ _ => pure_bind _ _) fun _ => pure_bind _ _

theorem optional_eq_orElse (p : ParserT m α) :
    ParserT.optional p = orElse (.map some p) (.pure none) := (orElse_map_pure some none p).symm

theorem after_lookahead (gate : ParserT m α) (p : ParserT m β) :
    after (lookahead gate) p = guarded gate p :=
  funext fun _ => bind_result_assoc (fun _ _ => pure_bind _ _) fun _ => pure_bind _ _

theorem lookahead_lookahead (p : ParserT m α) : lookahead (lookahead p) = lookahead p :=
  funext fun _ => bind_result_assoc (fun _ _ => pure_bind _ _) fun _ => pure_bind _ _

theorem notAhead_notAhead (message : Unit → Text) (inner : α → Text) (p : ParserT m α) :
    notAhead message (notAhead inner p) = fun src => p src >>= fun
      | .success _ _ => pure (.success () src)
      | .failure _ => pure (.failure (message ())) :=
  funext fun _ => bind_result_assoc (fun _ _ => pure_bind _ _) fun _ => pure_bind _ _

theorem continueMany_bind_congr {p : ParserT m α} {k k' : Result (List α) → m β} {src rest : Text}
    (v : α) (h : ∀ vs last, k (.success vs last) = k' (.success vs last))
    (hmany : ∀ {j j' : Result (List α) → m β},
      (∀ vs last, j (.success vs last) = j' (.success vs last)) → rest.length < src.length →
      many p rest >>= j = many p rest >>= j') :
    continueMany p src v rest >>= k = continueMany p src v rest >>= k' := by
  by_cases hlt : rest.length < src.length
  · rw [continueMany, if_pos hlt, bind_map_left, bind_map_left]
    exact hmany (fun vs last => h (v :: vs) last) hlt
  · rw [continueMany, if_neg hlt, pure_bind, pure_bind]
    exact h [v] rest

theorem many_bind_congr (p : ParserT m α) {k k' : Result (List α) → m β}
    (h : ∀ vs last, k (.success vs last) = k' (.success vs last)) (src : Text) :
    many p src >>= k = many p src >>= k' := by
  induction src using shorter_induction generalizing k k' with
  | shorter src ih =>
    rw [many_eq, bind_assoc, bind_assoc]
    refine bind_result_congr (fun v rest => ?_) fun e => ?_
    · exact continueMany_bind_congr v h fun hj hlt => ih rest hlt hj
    · rw [pure_bind, pure_bind]
      exact h [] src

theorem continueMany_bind (p : ParserT m α) (src : Text) (v : α) (rest : Text)
    {k : Result (List α) → m (Result (List α))}
    (h : ∀ vs last, k (.success vs last) = pure (.success vs last)) :
    continueMany p src v rest >>= k = continueMany p src v rest := by
  rw [continueMany_bind_congr v h fun hj _ => many_bind_congr p hj rest, bind_pure]

theorem withDefault_many1 (p : ParserT m α) : withDefault [] (many1 p) = many p := by
  funext src
  rw [withDefault, many1_eq, many_eq]
  exact bind_result_assoc (fun v rest => continueMany_bind p src v rest fun _ _ => rfl)
    fun e => pure_bind (Result.failure e) _

theorem orElse_map (f : α → β) (p q : ParserT m α) :
    orElse (.map f p) (.map f q) = .map f (orElse p q) := by
  funext src
  have hright : ParserT.map f (orElse p q) src = p src >>= fun
      | .success v rest => pure (.success (f v) rest)
      | .failure _ => ParserT.map f q src :=
    bind_result_assoc (fun _ _ => pure_bind _ _) fun _ => rfl
  rw [hright]
  exact bind_result_assoc (fun _ _ => pure_bind _ _) fun _ => pure_bind _ _

theorem orElse_bind {p : ParserT m α} (hp : p.IsPure) (f g : α → ParserT m β) :
    orElse (.bind p f) (.bind p g) = .bind p fun v => orElse (f v) (g v) := by
  funext src
  obtain ⟨r, hr⟩ := hp src
  cases r with
  | success v rest =>
    rw [orElse, bind_of_success hr, bind_of_success hr, bind_of_success hr]
    rfl
  | failure e =>
    rw [orElse, bind_of_failure hr, bind_of_failure hr, bind_of_failure hr]
    exact pure_bind (Result.failure e) _

theorem orElse_pair {p : ParserT m α} (hp : p.IsPure) (q r : ParserT m β) :
    orElse (pair p q) (pair p r) = pair p (orElse q r) := by
  have hpair (q : ParserT m β) : pair p q = .bind p fun v => .map (Prod.mk v) q := rfl
  rw [hpair, hpair, hpair, orElse_bind hp]
  simp only [orElse_map]

theorem orElse_after {p : ParserT m α} (hp : p.IsPure) (q r : ParserT m β) :
    orElse (after p q) (after p r) = after p (orElse q r) := orElse_bind hp _ _

/-! Parsers that do nothing but read. -/

theorem isPure_id (p : Parser α) : p.IsPure := fun src => ⟨p src, rfl⟩

theorem parse_notAhead_notAhead (message : Unit → Text) (inner : α → Text) (p : Parser α)
    (src : Text) : (notAhead message (notAhead inner p)).parse src = match p.parse src with
      | .success _ _ => .success () src
      | .failure _ => .failure (message ()) := by
  rw [notAhead_notAhead]
  simp only [parse, Id.run_bind]
  cases Id.run (p src) with
  | success v rest => rfl
  | failure e => rfl

/-- The laws by which grammars are rewritten, for parsers that do nothing but read. They are equal
on every text, in their values, in what they leave and in their messages. -/
theorem alternative_and_lookahead_laws (p q r : Parser α) (s t : Parser β) (default : α)
    (inner : α → Text) (message : Unit → Text) :
    orElse (orElse p q) r = orElse p (orElse q r) ∧
    withDefault default p = orElse p (.pure default) ∧
    ParserT.optional p = orElse (.map some p) (.pure none) ∧
    many p = withDefault [] (many1 p) ∧
    sepBy p s = withDefault [] (sepBy1 p s) ∧
    guarded p s = after (lookahead p) s ∧
    lookahead (lookahead p) = lookahead p ∧
    (∀ src, ((notAhead message (notAhead inner p)).parse src = .success () src ↔
        ∃ v rest, p.parse src = .success v rest) ∧
      ((notAhead message (notAhead inner p)).parse src = .failure (message ()) ↔
        ∃ e, p.parse src = .failure e)) ∧
    orElse (pair p s) (pair p t) = pair p (orElse s t) ∧
    orElse (after p s) (after p t) = after p (orElse s t) := by
  refine ⟨orElse_assoc p q r, withDefault_eq_orElse default p, optional_eq_orElse p,
    (withDefault_many1 p).symm, sepBy_eq_withDefault p s, (after_lookahead p s).symm,
    lookahead_lookahead p, fun src => ?_, orElse_pair (isPure_id p) s t,
    orElse_after (isPure_id p) s t⟩
  rw [parse_notAhead_notAhead]
  cases p.parse src with
  | success v rest => simp
  | failure e => simp

end Descent.ParserT
