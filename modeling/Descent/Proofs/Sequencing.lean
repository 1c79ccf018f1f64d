import Descent.Grammar.Build

/-!
# Sequencing by `bind` and `pure`

Parsers form a monad, and the combinators that run one parser behind the other are what `bind` and
`pure` make of their parts. The equations hold over every lawful monad `m`. With faults and records
as the effects of `m` this says that both sides run the same parsers on the same texts in the same
order, and that the same fault gets out of them.
-/

namespace Descent.ParserT

variable {m : Type → Type} [Monad m] {α β γ : Type}

theorem bind_result_congr {x : m (Result α)} {k k' : Result α → m β}
    (hsuccess : ∀ v rest, k (.success v rest) = k' (.success v rest))
    (hfailure : ∀ e, k (.failure e) = k' (.failure e)) : x >>= k = x >>= k' := by
  refine bind_congr fun r => ?_
  cases r with
  | success v rest => exact hsuccess v rest
  | failure e => exact hfailure e

theorem map_eq_bind (f : α → β) (p : ParserT m α) :
    ParserT.map f p = .bind p fun v => .pure (f v) := rfl

theorem mapM_eq_bind (f : α → m β) (p : ParserT m α) :
    ParserT.mapM f p = .bind p fun v => .lift (f v) := rfl

theorem after_eq_bind (p : ParserT m α) (q : ParserT m β) : after p q = .bind p fun _ => q := rfl

theorem before_eq_bind (p : ParserT m α) (q : ParserT m β) :
    before p q = .bind p fun v => .bind q fun _ => .pure v := rfl

theorem pair_eq_bind (p : ParserT m α) (q : ParserT m β) :
    pair p q = .bind p fun v => .bind q fun w => .pure (v, w) := rfl

variable [LawfulMonad m]

theorem bind_result_assoc {x : m (Result α)} {k : Result α → m β} {k' : β → m γ}
    {k'' : Result α → m γ}
    (hsuccess : ∀ v rest, k (.success v rest) >>= k' = k'' (.success v rest))
    (hfailure : ∀ e, k (.failure e) >>= k' = k'' (.failure e)) :
    x >>= k >>= k' = x >>= k'' := by
  rw [bind_assoc]
  exact bind_result_congr hsuccess hfailure

theorem bind_of_success {p : ParserT m α} {next : α → ParserT m β} {src rest : Text} {v : α}
    (h : p src = pure (.success v rest)) : ParserT.bind p next src = next v rest := by
  rw [ParserT.bind, h, pure_bind]

theorem bind_of_failure {p : ParserT m α} {next : α → ParserT m β} {src e : Text}
    (h : p src = pure (.failure e)) : ParserT.bind p next src = pure (.failure e) := by
  rw [ParserT.bind, h, pure_bind]

protected theorem pure_bind (v : α) (next : α → ParserT m β) :
    ParserT.bind (.pure v) next = next v := by
  funext src
  exact bind_of_success rfl

protected theorem bind_pure (p : ParserT m α) : ParserT.bind p .pure = p := by
  funext src
  have hreturn : ParserT.bind p .pure src = p src >>= pure :=
    bind_result_congr (fun _ _ => rfl) fun _ => rfl
  rw [hreturn, bind_pure]

protected theorem bind_assoc (p : ParserT m α) (f : α → ParserT m β) (g : β → ParserT m γ) :
    ParserT.bind (.bind p f) g = .bind p fun v => .bind (f v) g :=
  funext fun _ => bind_result_assoc (fun _ _ => rfl) fun e => pure_bind (Result.failure e) _

instance : LawfulMonad (ParserT m) :=
  .mk' (ParserT m) ParserT.bind_pure ParserT.pure_bind ParserT.bind_assoc

theorem lift_pure (v : α) : ParserT.lift (pure v : m α) = ParserT.pure v := by
  funext src
  exact pure_bind v _

theorem map_apply (f : α → β) (p : ParserT m α) (src : Text) :
    ParserT.map f p src = Result.map f <$> p src := by
  rw [map_eq_pure_bind]
  exact bind_result_congr (fun _ _ => rfl) fun _ => rfl

theorem between_eq_after (left : ParserT m α) (right : ParserT m γ) (p : ParserT m β) :
    between left right p = after left (before p right) := by
  rw [between, before_eq_bind, after_eq_bind, after_eq_bind, before_eq_bind, ParserT.bind_assoc]

theorem sepBy1_eq_bind (item : ParserT m α) (separator : ParserT m β) : sepBy1 item separator =
    .bind item fun v => .map (v :: ·) (many (after separator item)) := by
  rw [sepBy1, map_eq_bind, pair_eq_bind]
  simp only [ParserT.bind_assoc, ParserT.pure_bind, map_eq_bind]

theorem apply_eq_bind (f : ParserT m (α → m β)) (p : ParserT m α) :
    apply f p = .bind f fun g => .bind p fun v => .lift (g v) := by
  rw [apply, mapM_eq_bind, pair_eq_bind, ParserT.bind_assoc]
  simp only [ParserT.bind_assoc, ParserT.pure_bind]

theorem lift₁_eq_mapM (f : α → m β) (p : ParserT m α) : lift₁ f p = ParserT.mapM f p := by
  rw [lift₁, apply_eq_bind, ParserT.pure_bind, mapM_eq_bind]

theorem lift₂_eq_bind (f : α → β → m γ) (p : ParserT m α) (q : ParserT m β) :
    lift₂ f p q = .bind p fun v => .bind q fun w => .lift (f v w) := by
  rw [lift₂, apply_eq_bind, apply_eq_bind, ParserT.pure_bind, ParserT.bind_assoc]
  simp only [lift_pure, ParserT.pure_bind]

/-- The monad laws, and every combinator that runs its parts one behind the other as `bind` and
`pure` make it. A function that may have effects is called by `lift`, which reads nothing and
matches what the function returns. -/
structure SequencingLaws (m : Type → Type) [Monad m] : Prop where
  pure_bind : ∀ {α β : Type} (v : α) (f : α → ParserT m β), ParserT.bind (.pure v) f = f v
  bind_pure : ∀ {α : Type} (p : ParserT m α), ParserT.bind p .pure = p
  bind_assoc : ∀ {α β γ : Type} (p : ParserT m α) (f : α → ParserT m β) (g : β → ParserT m γ),
    ParserT.bind (.bind p f) g = .bind p fun v => .bind (f v) g
  lift_pure : ∀ {α : Type} (v : α), ParserT.lift (pure v : m α) = ParserT.pure v
  map_eq : ∀ {α β : Type} (p : ParserT m α) (f : α → β),
    ParserT.map f p = .bind p fun v => .pure (f v)
  mapM_eq : ∀ {α β : Type} (p : ParserT m α) (f : α → m β),
    ParserT.mapM f p = .bind p fun v => .lift (f v)
  after_eq : ∀ {α β : Type} (p : ParserT m α) (q : ParserT m β),
    after p q = .bind p fun _ => q
  pair_eq : ∀ {α β : Type} (p : ParserT m α) (q : ParserT m β),
    pair p q = .bind p fun v => .bind q fun w => .pure (v, w)
  before_eq : ∀ {α β : Type} (p : ParserT m α) (q : ParserT m β),
    before p q = .bind p fun v => .bind q fun _ => .pure v
  between_eq : ∀ {α β γ : Type} (left : ParserT m α) (right : ParserT m γ) (p : ParserT m β),
    between left right p = after left (before p right)
  apply_eq : ∀ {α β : Type} (f : ParserT m (α → m β)) (p : ParserT m α),
    apply f p = .bind f fun g => .bind p fun v => .lift (g v)
  lift₁_eq : ∀ {α β : Type} (f : α → m β) (p : ParserT m α), lift₁ f p = ParserT.mapM f p
  lift₂_eq : ∀ {α β γ : Type} (f : α → β → m γ) (p : ParserT m α) (q : ParserT m β),
    lift₂ f p q = .bind p fun v => .bind q fun w => .lift (f v w)

/-- Over every lawful monad, so that no effect is lost, doubled or moved. A delimiter that is given
once stands on both sides. -/
theorem sequencing_by_bind_and_pure :
    SequencingLaws m ∧
    ∀ (delimiter body : Grammar) (resolve : Resolver) (a : Address) (p d : ValueParser),
      body.build resolve (0 :: a) = .ok p → delimiter.build resolve (1 :: a) = .ok d →
      (Grammar.within delimiter body).build resolve a = .ok (after d (before p d)) := by
  refine ⟨?_, fun delimiter body resolve a p d hp hd => ?_⟩
  · exact
      { pure_bind := ParserT.pure_bind
        bind_pure := ParserT.bind_pure
        bind_assoc := ParserT.bind_assoc
        lift_pure := lift_pure
        map_eq := fun p f => map_eq_bind f p
        mapM_eq := fun p f => mapM_eq_bind f p
        after_eq := after_eq_bind
        pair_eq := pair_eq_bind
        before_eq := before_eq_bind
        between_eq := between_eq_after
        apply_eq := apply_eq_bind
        lift₁_eq := lift₁_eq_mapM
        lift₂_eq := lift₂_eq_bind }
  · have hbuild : (Grammar.within delimiter body).build resolve a = .ok (between d d p) := by
      rw [Grammar.build, hp, hd]
      rfl
    rw [hbuild, between_eq_after]

theorem sequencing_by_bind_and_pure_raising :
    LawfulMonad (Eval Value) ∧
    (∃ p q : ParserT (Eval Value) Char,
      p = probe ['p'] .ofChar (char 'a') ∧ q = probe ['q'] .ofChar (raise (.raised ['!'])) ∧
      lift₂ (fun v w => pure [v, w]) p q =
        (.bind p fun v => .bind q fun w => .lift (pure [v, w])) ∧
      (lift₂ (fun v w => pure [v, w]) p q ['a', 'b']).run {} =
        (.error (.fault (.raised ['!'])), ⟨{}, #[.entered ['p'] ['a', 'b'],
          .left ['p'] (.success (.text ['a']) ['b']), .entered ['q'] ['b']]⟩)) ∧
    (Grammar.within (.char ['/']) .digit).build (fun _ _ => .ok tooDeep) [] =
      .ok (after (ValueParser.ofChar (char '/'))
        (before (ValueParser.ofChar digit) (ValueParser.ofChar (char '/')))) := by
  have hlawful : LawfulMonad (Eval Value) := inferInstance
  obtain ⟨hlaws, hwithin⟩ := sequencing_by_bind_and_pure (m := Eval Value)
  refine ⟨hlawful, ⟨_, _, rfl, rfl, hlaws.lift₂_eq _ _ _, ?_⟩, hwithin _ _ _ _ _ _ rfl rfl⟩
  rw [hlaws.lift₂_eq]
  rfl

end Descent.ParserT
