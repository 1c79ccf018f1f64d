import Descent.Grammar.Build
import Descent.Proofs.Safety

/-!
# What a parse leaves is an end of its input

This holds of every nested parser, and so of every grammar that is given as data and inserts no
text of its own: its parser is nested, with references to rules followed to any depth.
-/

namespace Descent

def Yields {α : Type} (x : Except Fault α) (P : α → Prop) : Prop := ∀ a, x = .ok a → P a

section
variable {α β : Type} {x : Except Fault α} {P : α → Prop}

theorem Yields.ok {a : α} (h : P a) : Yields (.ok a) P := by
  rintro _ ⟨⟩
  exact h

theorem Yields.error (f : Fault) : Yields (.error f) P := by
  rintro _ ⟨⟩

theorem yields_true (x : Except Fault α) : Yields x fun _ => True := fun _ _ => trivial

theorem Yields.bind {Q : β → Prop} {f : α → Except Fault β} (hx : Yields x P)
    (hf : ∀ a, P a → Yields (f a) Q) : Yields (x >>= f) Q := by
  cases x with
  | error e => exact .error e
  | ok a => exact hf a (hx a rfl)

theorem Yields.map {Q : β → Prop} {f : α → β} (hx : Yields x P) (hf : ∀ a, P a → Q (f a)) :
    Yields (x.map f) Q := by
  cases x with
  | error e => exact .error e
  | ok a => exact .ok (hf a (hx a rfl))

theorem Yields.mapM {f : β → Except Fault α} (hf : ∀ b, Yields (f b) P) (bs : List β) :
    Yields (bs.mapM f) fun as => ∀ a ∈ as, P a := by
  induction bs with
  | nil => exact .ok (by simp)
  | cons b bs ih =>
    rw [List.mapM_cons]
    refine (hf b).bind fun a ha => ih.bind fun as has => .ok ?_
    simpa using ⟨ha, has⟩

end

mutual

def Grammar.insertsNothing : Grammar → Bool
  | .insert t => t.isEmpty
  | .after p q | .before p q | .pair p q | .within p q | .orElse p q | .guarded p q
  | .sepBy p q | .sepBy1 p q | .apply p q | .lift₂ _ p q => p.insertsNothing && q.insertsNothing
  | .between l r p => l.insertsNothing && r.insertsNothing && p.insertsNothing
  | .notAhead p _ | .lookahead p | .optional p | .withDefault p _ | .many p | .many1 p
  | .times _ p | .map _ p | .lift₁ _ p | .delayed _ p | .probe _ p => p.insertsNothing
  | .choose ps | .sequence ps => Grammar.allInsertNothing ps
  | .bind p next => p.insertsNothing && next.insertsNothing
  | _ => true

def Grammar.allInsertNothing : List Grammar → Bool
  | [] => true
  | p :: ps => p.insertsNothing && Grammar.allInsertNothing ps

def Continuation.insertsNothing : Continuation → Bool
  | .times p | .always p => p.insertsNothing
  | .cases arms => arms.insertsNothing
  | _ => true

def Arms.insertsNothing : Arms → Bool
  | .otherwise p => p.insertsNothing
  | .arm _ p rest => p.insertsNothing && rest.insertsNothing

end

def Basis.any (ω : Type) : Basis ω where
  isLeaf p := p.LeavesSuffix
  mayRaise _ := True
  readsIntegers := True
  leavesSuffix h := h
  raisesOnly _ _ _ _ _ _ := trivial

section
variable {ω : Type} {α : Type}

theorem ParserT.leavesSuffix_of_ends {p : ParserT (Eval ω) α}
    (h : ∀ src, (p src).Ends (Result.Leaves (· <:+ src)) fun _ => True) : p.LeavesSuffix :=
  fun src _ _ _ _ hr => (h src).of_ok hr

theorem nested_take (n : Nat) : Nested (.any ω) (.take n) := by
  refine .leaf (ParserT.leavesSuffix_of_ends fun src => .pure ?_)
  split
  · exact List.drop_suffix n src
  · trivial

theorem nested_remainder : Nested (.any ω) .remainder :=
  .leaf (ParserT.leavesSuffix_of_ends fun _ => .pure List.nil_suffix)

theorem nested_raise (f : Fault) : Nested (.any ω) (.raise f : ParserT (Eval ω) α) :=
  .leaf (ParserT.leavesSuffix_of_ends fun _ => .throw trivial)

theorem nested_insert {t : Text} (h : t.isEmpty = true) : Nested (.any ω) (.insert t) := by
  cases List.isEmpty_iff.1 h
  exact .leaf (ParserT.leavesSuffix_of_ends fun src => .pure src.suffix_refl)

theorem raisesOnly_any (x : Eval ω α) : x.RaisesOnly (Basis.any ω).mayRaise :=
  fun _ _ _ _ => trivial

theorem yields_choose {P : ParserT (Eval ω) α → Prop}
    (horElse : ∀ {p q}, P p → P q → P (.orElse p q)) {ps : List (ParserT (Eval ω) α)}
    (h : ∀ p ∈ ps, P p) : Yields (ParserT.choose ps) P := fun _ =>
  ParserT.property_of_choose horElse h

theorem yields_times? {P : ParserT (Eval ω) (List α) → Prop} (n : Int) {p : ParserT (Eval ω) α}
    (h : ∀ k, P (.times k p)) : Yields (ParserT.times? n p) P := by
  unfold ParserT.times? ParserT.timesWithin?
  split
  · exact .error _
  split
  · exact .error _
  split
  · exact .error _
  · exact .ok (h _)

end

namespace ValueParser

theorem nested_failWanting (v : Value) (what : Text → Text) :
    Nested (.any Value) (failWanting v what) := by
  refine .leaf (ParserT.leavesSuffix_of_ends fun src => ?_)
  have hv : (Eval.ofExcept v.printed : Eval Value Text).Ends (fun _ => True) fun _ => True :=
    (raisesOnly_any _).ends (fun _ _ => trivial) trivial
  exact hv.bind fun _ _ _ => .pure trivial

theorem yields_charOf (v : Value) : Yields (charOf v) (Nested (.any Value)) := by
  refine (yields_true (single v)).map fun c _ => ?_
  cases c with
  | some c => exact .expect _ _
  | none => exact nested_failWanting v id

theorem yields_notCharOf (v : Value) : Yields (notCharOf v) (Nested (.any Value)) := by
  refine (yields_true (single v)).map fun c _ => ?_
  cases c with
  | some c => exact .expect _ _
  | none =>
    refine .leaf (ParserT.leavesSuffix_of_ends fun src => ?_)
    cases src with
    | nil =>
      have hwanting := (nested_failWanting v fun shown =>
        Text.ofString "any character except " ++ shown).meets (Excuse.any_covers _)
      exact ParserT.meets_leavingEnds_iff.1 hwanting []
    | cons c rest => exact .pure (List.suffix_cons c rest)

theorem yields_upToOf (v : Value) : Yields (upToOf v) (Nested (.any Value)) :=
  (yields_notCharOf v).bind fun _ hother => (yields_charOf v).bind fun _ hstop =>
    .ok (hother.many.before hstop.lookahead)

theorem yields_textOf (v : Value) : Yields (textOf v) (Nested (.any Value)) :=
  (yields_true (itemsOf v)).bind fun vs _ => (Yields.mapM yields_charOf vs).bind fun _ h =>
    .ok (.sequence h)

theorem yields_textIgnoringCaseOf (v : Value) :
    Yields (textIgnoringCaseOf v) (Nested (.any Value)) :=
  (yields_true (textsOf v)).bind fun ts _ => .ok (.sequence_map (fun _ => .expect _ _) ts)

theorem yields_memberOf (v : Value) : Yields (memberOf v) (Nested (.any Value)) :=
  (yields_true (textsOf v)).bind fun _ _ => .ok (.expect _ _)

theorem yields_timesOf {p : ValueParser} (hp : Nested (.any Value) p) (v : Value) :
    Yields (timesOf p v) (Nested (.any Value)) :=
  (yields_true v.count).bind fun n _ => yields_times? n fun k => hp.times k

end ValueParser

/-! One case for each way to form a grammar; the parts of a grammar are built first. -/

theorem yields_one {P : ValueParser → Prop} {x : Except Fault ValueParser}
    {k : ValueParser → ValueParser} (hx : Yields x P) (hk : ∀ {p}, P p → P (k p)) :
    Yields (x >>= fun p => pure (k p)) P :=
  hx.bind fun _ hp => .ok (hk hp)

theorem yields_two {P : ValueParser → Prop} {x y : Except Fault ValueParser}
    {k : ValueParser → ValueParser → ValueParser} (hx : Yields x P) (hy : Yields y P)
    (hk : ∀ {p q}, P p → P q → P (k p q)) :
    Yields (x >>= fun p => y >>= fun q => pure (k p q)) P :=
  hx.bind fun _ hp => yields_one hy (hk hp)

theorem Grammar.yields_buildAll {P : ValueParser → Prop} {resolve : Resolver} {gs : List Grammar}
    (h : ∀ g ∈ gs, ∀ a, Yields (g.build resolve a) P) (a : Address) (i : Nat) :
    Yields (Grammar.buildAll resolve a i gs) fun ps => ∀ p ∈ ps, P p := by
  induction gs generalizing i with
  | nil => exact .ok (by simp)
  | cons g gs ih =>
    refine (h g (by simp) (i :: a)).bind fun p hp => ?_
    refine (ih (fun g hg => h g (by simp [hg])) (i + 1)).bind fun ps hps => .ok ?_
    simpa using ⟨hp, hps⟩

/-- What is passed from the references of a rule on to the rule is true at every depth, if it is
true where references are no longer followed. -/
theorem Rules.yields_resolve {P : ValueParser → Prop} {rules : Rules} (hdeep : P .tooDeep)
    (h : ∀ r ∈ rules, ∀ resolve : Resolver, (∀ name a, Yields (resolve name a) P) →
      ∀ a, Yields (r.2.build resolve a) P)
    (depth : Nat) (name : Text) (a : Address) : Yields (rules.resolve depth name a) P := by
  induction depth generalizing name a with
  | zero => exact .ok hdeep
  | succ depth ih =>
    unfold Rules.resolve
    cases hl : rules.lookup name with
    | none => exact .error _
    | some g =>
      obtain ⟨before, behind, hrules, -⟩ := List.lookup_eq_some_iff.1 hl
      exact h (name, g) (by simp [hrules]) _ ih a

theorem left_of_and {a b : Bool} (h : (a && b) = true) : a = true := (Bool.and_eq_true_iff.1 h).1

theorem right_of_and {a b : Bool} (h : (a && b) = true) : b = true := (Bool.and_eq_true_iff.1 h).2

variable {resolve : Resolver}

mutual

theorem Grammar.yields_nested (hr : ∀ name a, Yields (resolve name a) (Nested (.any Value))) :
    ∀ (g : Grammar) (a : Address), g.insertsNothing = true →
      Yields (g.build resolve a) (Nested (.any Value))
  | .anyChar, _, _ => .ok (.map _ (.expect _ _))
  | .blank, _, _ => .ok (.map _ (.expect _ _))
  | .digit, _, _ => .ok (.map _ (.expect _ _))
  | .blanks, _, _ => .ok (.map _ (.many (.expect _ _)))
  | .blanks1, _, _ => .ok (.map _ (.many1 (.expect _ _)))
  | .endOfInput, _, _ => .ok (.map _ .endOfInput)
  | .integer, _, _ => .ok (.map _ (.integer trivial))
  | .char c, _, _ => (yields_true c.single).bind fun _ _ => .ok (.map _ (.expect _ _))
  | .notChar c, _, _ => (yields_true c.single).bind fun _ _ => .ok (.map _ (.expect _ _))
  | .oneOf _, _, _ => .ok (.map _ (.expect _ _))
  | .satisfy _ _ _, _, _ => .ok (.map _ (.satisfy _ _ _))
  | .text t, _, _ => .ok (.map _ (.text t))
  | .textIgnoringCase t, _, _ => .ok (.map _ (.textIgnoringCase t))
  | .upTo c, _, _ => (yields_true c.single).bind fun c _ => .ok (.map _ (.upTo c))
  | .quotedText quote escape _, _, _ =>
    (yields_true escape.single).bind fun e _ => (yields_true quote.single).bind fun q _ =>
      .ok (.map _ (.quotedText q e _))
  | .pattern _ _, _, _ => (yields_true _).bind fun p _ => .ok (.map _ (.matching p))
  | .compiledPattern _ _ _, _, _ =>
    (yields_true _).bind fun _ _ => (yields_true _).bind fun p _ => .ok (.map _ (.matching p))
  | .succeed v, _, _ => .ok (.pure v)
  | .fail message, _, _ => .ok (.fail message)
  | .take n, _, _ => .ok (.map _ (nested_take n))
  | .remainder, _, _ => .ok (.map _ nested_remainder)
  | .insert _, _, hg => .ok (.map _ (nested_insert hg))
  | .raise _, _, _ => .ok (nested_raise _)
  | .after p q, a, hg =>
    yields_two (p.yields_nested hr (0 :: a) (left_of_and hg))
      (q.yields_nested hr (1 :: a) (right_of_and hg)) .after
  | .before p q, a, hg =>
    yields_two (p.yields_nested hr (0 :: a) (left_of_and hg))
      (q.yields_nested hr (1 :: a) (right_of_and hg)) .before
  | .pair p q, a, hg =>
    yields_two (p.yields_nested hr (0 :: a) (left_of_and hg))
      (q.yields_nested hr (1 :: a) (right_of_and hg)) fun hp hq => .map _ (hp.pair hq)
  | .between l r p, a, hg =>
    (p.yields_nested hr (0 :: a) (right_of_and hg)).bind fun _ hp =>
      yields_two (l.yields_nested hr (1 :: a) (left_of_and (left_of_and hg)))
        (r.yields_nested hr (2 :: a) (right_of_and (left_of_and hg))) fun hl hr => .between hl hp hr
  | .within d p, a, hg =>
    yields_two (p.yields_nested hr (0 :: a) (right_of_and hg))
      (d.yields_nested hr (1 :: a) (left_of_and hg)) fun hp hd => .between hd hp hd
  | .orElse p q, a, hg =>
    yields_two (p.yields_nested hr (0 :: a) (left_of_and hg))
      (q.yields_nested hr (1 :: a) (right_of_and hg)) .orElse
  | .choose ps, a, hg => (Grammar.yields_allNested hr ps a 0 hg).bind fun _ => yields_choose .orElse
  | .guarded p q, a, hg =>
    yields_two (p.yields_nested hr (0 :: a) (left_of_and hg))
      (q.yields_nested hr (1 :: a) (right_of_and hg)) .guarded
  | .notAhead p _, a, hg =>
    yields_one (p.yields_nested hr (0 :: a) hg) fun hp =>
      .map _ (.notAheadM hp fun _ _ => raisesOnly_any _)
  | .lookahead p, a, hg => yields_one (p.yields_nested hr (0 :: a) hg) .lookahead
  | .optional p, a, hg => yields_one (p.yields_nested hr (0 :: a) hg) fun hp => .map _ hp.optional
  | .withDefault p v, a, hg => yields_one (p.yields_nested hr (0 :: a) hg) (.withDefault v)
  | .many p, a, hg => yields_one (p.yields_nested hr (0 :: a) hg) fun hp => .map _ hp.many
  | .many1 p, a, hg => yields_one (p.yields_nested hr (0 :: a) hg) fun hp => .map _ hp.many1
  | .sequence ps, a, hg =>
    (Grammar.yields_allNested hr ps a 0 hg).bind fun _ h => .ok (.map _ (.sequence h))
  | .times n p, a, hg =>
    (p.yields_nested hr (0 :: a) hg).bind fun _ hp =>
      (yields_times? n fun k => hp.times k).bind fun _ hq => .ok (.map _ hq)
  | .sepBy p q, a, hg =>
    yields_two (p.yields_nested hr (0 :: a) (left_of_and hg))
      (q.yields_nested hr (1 :: a) (right_of_and hg)) fun hp hq => .map _ (hp.sepBy hq)
  | .sepBy1 p q, a, hg =>
    yields_two (p.yields_nested hr (0 :: a) (left_of_and hg))
      (q.yields_nested hr (1 :: a) (right_of_and hg)) fun hp hq => .map _ (hp.sepBy1 hq)
  | .map _ p, a, hg =>
    yields_one (p.yields_nested hr (0 :: a) hg) fun hp => .mapM hp fun _ _ => raisesOnly_any _
  | .apply f p, a, hg =>
    yields_two (f.yields_nested hr (0 :: a) (left_of_and hg))
      (p.yields_nested hr (1 :: a) (right_of_and hg)) fun hf hp =>
        .apply (.map _ hf) hp fun _ _ _ _ => raisesOnly_any _
  | .lift₁ _ p, a, hg =>
    yields_one (p.yields_nested hr (0 :: a) hg) fun hp => .lift₁ hp fun _ _ => raisesOnly_any _
  | .lift₂ _ p q, a, hg =>
    yields_two (p.yields_nested hr (0 :: a) (left_of_and hg))
      (q.yields_nested hr (1 :: a) (right_of_and hg)) fun hp hq =>
        .lift₂ hp hq fun _ _ _ _ => raisesOnly_any _
  | .bind p next, a, hg =>
    (p.yields_nested hr (0 :: a) (left_of_and hg)).bind fun _ hp =>
      (next.yields_nested hr (1 :: a) (right_of_and hg)).bind fun _ hk =>
        .ok (.bind hp fun v _ => .ofExcept (hk v) fun _ _ => trivial)
  | .delayed _ p, a, hg =>
    .ok (.delayed _ _ (fun _ => p.yields_nested hr (0 :: a) hg) fun _ _ _ => trivial)
  | .rule name, a, _ => .ok (.delayed _ _ (fun _ => hr name (0 :: a)) fun _ _ _ => trivial)
  | .probe name p, a, hg => yields_one (p.yields_nested hr (0 :: a) hg) (.probe name id)

theorem Grammar.yields_allNested (hr : ∀ name a, Yields (resolve name a) (Nested (.any Value))) :
    ∀ (gs : List Grammar) (a : Address) (i : Nat), Grammar.allInsertNothing gs = true →
      Yields (Grammar.buildAll resolve a i gs) fun ps => ∀ p ∈ ps, Nested (.any Value) p
  | [], _, _, _ => .ok (by simp)
  | g :: gs, a, i, hg =>
    (g.yields_nested hr (i :: a) (left_of_and hg)).bind fun _ hp =>
      (Grammar.yields_allNested hr gs a (i + 1) (right_of_and hg)).bind fun _ hps =>
        .ok (by simpa using ⟨hp, hps⟩)

theorem Continuation.yields_nested (hr : ∀ name a, Yields (resolve name a) (Nested (.any Value))) :
    ∀ (next : Continuation) (a : Address), next.insertsNothing = true →
      Yields (next.build resolve a) fun k => ∀ v, Yields (k v) (Nested (.any Value))
  | .times p, a, hg =>
    (p.yields_nested hr (0 :: a) hg).bind fun _ hp =>
      .ok fun v => (ValueParser.yields_timesOf hp v).map fun _ => .map _
  | .char, _, _ => .ok fun v => (ValueParser.yields_charOf v).map fun _ => .map _
  | .notChar, _, _ => .ok fun v => (ValueParser.yields_notCharOf v).map fun _ => .map _
  | .text, _, _ => .ok fun v => (ValueParser.yields_textOf v).map fun _ => .map _
  | .textIgnoringCase, _, _ =>
    .ok fun v => (ValueParser.yields_textIgnoringCaseOf v).map fun _ => .map _
  | .upTo, _, _ => .ok fun v => (ValueParser.yields_upToOf v).map fun _ => .map _
  | .oneOf, _, _ => .ok fun v => (ValueParser.yields_memberOf v).map fun _ => .map _
  | .compute f, _, _ => .ok fun v => (yields_true (f.apply v)).map fun w _ => .pure w
  | .always p, a, hg => (p.yields_nested hr (0 :: a) hg).bind fun _ hp => .ok fun _ => .ok hp
  | .cases arms, a, hg => arms.yields_nested hr a 0 hg

theorem Arms.yields_nested (hr : ∀ name a, Yields (resolve name a) (Nested (.any Value))) :
    ∀ (arms : Arms) (a : Address) (i : Nat), arms.insertsNothing = true →
      Yields (arms.build resolve a i) fun k => ∀ v, Yields (k v) (Nested (.any Value))
  | .otherwise p, a, i, hg =>
    (p.yields_nested hr (i :: a) hg).bind fun _ hp => .ok fun _ => .ok hp
  | .arm v p rest, a, i, hg =>
    (p.yields_nested hr (i :: a) (left_of_and hg)).bind fun _ hp =>
      (rest.yields_nested hr a (i + 1) (right_of_and hg)).bind fun _ hk => .ok fun w => by
        split
        · exact .ok hp
        · exact hk w

end

theorem Rules.yields_nested {rules : Rules} (h : ∀ r ∈ rules, r.2.insertsNothing = true)
    (depth : Nat) (name : Text) (a : Address) :
    Yields (rules.resolve depth name a) (Nested (.any Value)) :=
  Rules.yields_resolve .tooDeep (fun r hr _ hresolve a => r.2.yields_nested hresolve a (h r hr))
    depth name a

/-- What a parse leaves is an end of what it was given: for every parser that is nested from the
combinators, and for every grammar that is given as data, with its rules followed to any depth. -/
theorem rest_isSuffix :
    (∀ (ω α : Type) (b : Basis ω) (p : ParserT (Eval ω) α), Nested b p → p.LeavesSuffix) ∧
    ∀ (g : Grammar) (rules : Rules) (depth : Nat) (p : ValueParser), g.insertsNothing = true →
      (∀ r ∈ rules, r.2.insertsNothing = true) → g.parser rules depth = .ok p →
      p.LeavesSuffix := by
  refine ⟨fun _ _ b p hp => hp.leavesSuffix, ?_⟩
  intro g rules depth p hg hrules hp
  have hnested : Nested (.any Value) p :=
    g.yields_nested (Rules.yields_nested hrules depth) [] hg p hp
  exact hnested.leavesSuffix

def counted : Grammar := .bind .digit (.times .anyChar)

theorem rest_isSuffix_counted :
    (∃ p, counted.parser [] 0 = .ok p ∧ p.LeavesSuffix ∧
      ∃ v t, (p ['2', 'a', 'b', 'c']).run {} = (.ok (.success v ['c']), t)) ∧
    ['c'] <:+ ['2', 'a', 'b', 'c'] := by
  have hp : Nested (.any Value)
      (.bind .digit fun c => .times (c.toNat - '0'.toNat) .anyChar) :=
    .bind (.expect _ _) fun _ _ => .times _ (.expect _ _)
  refine ⟨⟨_, rfl, rest_isSuffix.2 counted [] 0 _ rfl (by simp) rfl, _, _, rfl⟩, ?_⟩
  exact rest_isSuffix.1 _ _ _ _ hp ['2', 'a', 'b', 'c'] {} ['a', 'b'] ['c'] {} rfl

end Descent
