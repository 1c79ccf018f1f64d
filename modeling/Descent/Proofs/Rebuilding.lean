import Descent.Grammar.Build
import Descent.Proofs.Substitution

/-!
# Grammars built twice

A grammar that is built a second time, at another address and with other parsers for its references,
gives a parser that is built alike, or is refused for the same reason. So the references of a
grammar are the places of a context, in which any parsers can be put, and a grammar whose references
stay the same is built anew as a copy of itself.
-/

namespace Descent

variable {base : (α : Type) → ParserT (Eval Value) α → ParserT (Eval Value) α → Prop}

namespace ValueParser

theorem settled_failWanting (v : Value) (what : Text → Text) : (failWanting v what).Settled :=
  fun _ => (Eval.settled_ofExcept v.printed).bind fun _ => .pure _

theorem charOf_alike (v : Value) : SameOutcome (BuiltAlike base) (charOf v) (charOf v) := by
  refine .map_same (single v) fun c => ?_
  cases c with
  | some c => exact .expect _ _
  | none => exact .settled (settled_failWanting v id)

theorem notCharOf_alike (v : Value) :
    SameOutcome (BuiltAlike base) (notCharOf v) (notCharOf v) := by
  refine .map_same (single v) fun c => ?_
  cases c with
  | some c => exact .expect _ _
  | none =>
    refine .settled fun src => ?_
    cases src with
    | nil => exact settled_failWanting v _ []
    | cons c rest => exact .pure _

theorem upToOf_alike (v : Value) : SameOutcome (BuiltAlike base) (upToOf v) (upToOf v) :=
  (notCharOf_alike v).bind fun _ _ hother => (charOf_alike v).bind fun _ _ hstop =>
    .ok (hother.many.before hstop.lookahead)

theorem textOf_alike (v : Value) : SameOutcome (BuiltAlike base) (textOf v) (textOf v) :=
  .bind_same (itemsOf v) fun vs => (SameOutcome.mapM charOf_alike vs).bind fun _ _ h =>
    .ok (.sequence_of_forall₂ h)

theorem textIgnoringCaseOf_alike (v : Value) :
    SameOutcome (BuiltAlike base) (textIgnoringCaseOf v) (textIgnoringCaseOf v) :=
  .bind_same (textsOf v) fun ts => .ok (.sequence_map (fun _ => .expect _ _) ts)

theorem memberOf_alike (v : Value) :
    SameOutcome (BuiltAlike base) (memberOf v) (memberOf v) :=
  .bind_same (textsOf v) fun _ => .ok (.expect _ _)

theorem timesOf_alike {p p' : ValueParser} (hp : BuiltAlike base p p') (v : Value) :
    SameOutcome (BuiltAlike base) (timesOf p v) (timesOf p' v) :=
  .bind_same v.count fun n => hp.times? n

theorem settled_calling (f : Function) (v : Value) : (calling f v).Settled :=
  Eval.settled_ofExcept (f.apply v)

end ValueParser

/-! The parts of a grammar are built first, from left to right. -/

variable {x x' y y' : Except Fault ValueParser}

theorem alike_one {k k' : ValueParser → ValueParser}
    (hx : SameOutcome (BuiltAlike base) x x')
    (hk : ∀ {p p'}, BuiltAlike base p p' → BuiltAlike base (k p) (k' p')) :
    SameOutcome (BuiltAlike base) (x >>= fun p => pure (k p)) (x' >>= fun p => pure (k' p)) :=
  hx.bind fun _ _ hp => .ok (hk hp)

theorem alike_two {k k' : ValueParser → ValueParser → ValueParser}
    (hx : SameOutcome (BuiltAlike base) x x') (hy : SameOutcome (BuiltAlike base) y y')
    (hk : ∀ {p p' q q'}, BuiltAlike base p p' → BuiltAlike base q q' →
      BuiltAlike base (k p q) (k' p' q')) :
    SameOutcome (BuiltAlike base) (x >>= fun p => y >>= fun q => pure (k p q))
      (x' >>= fun p => y' >>= fun q => pure (k' p q)) :=
  hx.bind fun _ _ hp => alike_one hy (hk hp)

variable {resolve resolve' : Resolver}

mutual

theorem Grammar.build_alike
    (hr : ∀ name a a', SameOutcome (BuiltAlike base) (resolve name a) (resolve' name a')) :
    ∀ (g : Grammar) (a a' : Address),
      SameOutcome (BuiltAlike base) (g.build resolve a) (g.build resolve' a')
  | .anyChar, _, _ => .ok (.map _ (.expect _ _))
  | .blank, _, _ => .ok (.map _ (.expect _ _))
  | .digit, _, _ => .ok (.map _ (.expect _ _))
  | .blanks, _, _ => .ok (.map _ (.many (.expect _ _)))
  | .blanks1, _, _ => .ok (.map _ (.many1 (.expect _ _)))
  | .endOfInput, _, _ => .ok (.map _ .endOfInput)
  | .integer, _, _ => .ok (.map _ (.settled ParserT.settled_integer))
  | .char c, _, _ => SameOutcome.bind_same c.single fun _ => .ok (.map _ (.expect _ _))
  | .notChar c, _, _ => SameOutcome.bind_same c.single fun _ => .ok (.map _ (.expect _ _))
  | .oneOf _, _, _ => .ok (.map _ (.expect _ _))
  | .satisfy _ _ _, _, _ => .ok (.map _ (.satisfy _ _ _))
  | .text t, _, _ => .ok (.map _ (.text t))
  | .textIgnoringCase t, _, _ => .ok (.map _ (.textIgnoringCase t))
  | .upTo c, _, _ => SameOutcome.bind_same c.single fun c => .ok (.map _ (.upTo c))
  | .quotedText quote escape _, _, _ =>
    SameOutcome.bind_same escape.single fun e => SameOutcome.bind_same quote.single fun q =>
      .ok (.map _ (.quotedText q e _))
  | .pattern _ _, _, _ => SameOutcome.bind_same _ fun _ => .ok (.map _ (.settled fun _ => .pure _))
  | .compiledPattern _ _ _, _, _ =>
    SameOutcome.bind_same _ fun _ => SameOutcome.bind_same _ fun _ =>
      .ok (.map _ (.settled fun _ => .pure _))
  | .succeed v, _, _ => .ok (.pure v)
  | .fail _, _, _ => .ok (.settled fun _ => .pure _)
  | .take _, _, _ => .ok (.map _ (.settled fun _ => .pure _))
  | .remainder, _, _ => .ok (.map _ (.settled fun _ => .pure _))
  | .insert _, _, _ => .ok (.map _ (.settled fun _ => .pure _))
  | .raise _, _, _ => .ok (.settled fun _ => .throw _)
  | .after p q, a, a' =>
    alike_two (p.build_alike hr (0 :: a) (0 :: a')) (q.build_alike hr (1 :: a) (1 :: a')) .after
  | .before p q, a, a' =>
    alike_two (p.build_alike hr (0 :: a) (0 :: a')) (q.build_alike hr (1 :: a) (1 :: a')) .before
  | .pair p q, a, a' =>
    alike_two (p.build_alike hr (0 :: a) (0 :: a')) (q.build_alike hr (1 :: a) (1 :: a'))
      fun hp hq => .map _ (hp.pair hq)
  | .between l r p, a, a' =>
    (p.build_alike hr (0 :: a) (0 :: a')).bind fun _ _ hp =>
      alike_two (l.build_alike hr (1 :: a) (1 :: a')) (r.build_alike hr (2 :: a) (2 :: a'))
        fun hl hr => .between hl hp hr
  | .within d p, a, a' =>
    alike_two (p.build_alike hr (0 :: a) (0 :: a')) (d.build_alike hr (1 :: a) (1 :: a'))
      fun hp hd => .between hd hp hd
  | .orElse p q, a, a' =>
    alike_two (p.build_alike hr (0 :: a) (0 :: a')) (q.build_alike hr (1 :: a) (1 :: a')) .orElse
  | .choose ps, a, a' => (Grammar.buildAll_alike hr ps a a' 0).bind fun _ _ => BuiltAlike.choose
  | .guarded p q, a, a' =>
    alike_two (p.build_alike hr (0 :: a) (0 :: a')) (q.build_alike hr (1 :: a) (1 :: a'))
      .guarded
  | .notAhead p _, a, a' =>
    alike_one (p.build_alike hr (0 :: a) (0 :: a')) fun hp =>
      .map _ (.notAheadM hp fun _ _ => Eval.settled_ofExcept _)
  | .lookahead p, a, a' => alike_one (p.build_alike hr (0 :: a) (0 :: a')) .lookahead
  | .optional p, a, a' =>
    alike_one (p.build_alike hr (0 :: a) (0 :: a')) fun hp => .map _ hp.optional
  | .withDefault p v, a, a' => alike_one (p.build_alike hr (0 :: a) (0 :: a')) (.withDefault v)
  | .many p, a, a' => alike_one (p.build_alike hr (0 :: a) (0 :: a')) fun hp => .map _ hp.many
  | .many1 p, a, a' => alike_one (p.build_alike hr (0 :: a) (0 :: a')) fun hp => .map _ hp.many1
  | .sequence ps, a, a' =>
    (Grammar.buildAll_alike hr ps a a' 0).bind fun _ _ h => .ok (.map _ (.sequence_of_forall₂ h))
  | .times n p, a, a' =>
    (p.build_alike hr (0 :: a) (0 :: a')).bind fun _ _ hp => (hp.times? n).bind fun _ _ hq =>
      .ok (.map _ hq)
  | .sepBy p q, a, a' =>
    alike_two (p.build_alike hr (0 :: a) (0 :: a')) (q.build_alike hr (1 :: a) (1 :: a'))
      fun hp hq => .map _ (hp.sepBy hq)
  | .sepBy1 p q, a, a' =>
    alike_two (p.build_alike hr (0 :: a) (0 :: a')) (q.build_alike hr (1 :: a) (1 :: a'))
      fun hp hq => .map _ (hp.sepBy1 hq)
  | .map f p, a, a' =>
    alike_one (p.build_alike hr (0 :: a) (0 :: a')) fun hp =>
      .mapM hp fun _ _ => ValueParser.settled_calling f _
  | .apply f p, a, a' =>
    alike_two (f.build_alike hr (0 :: a) (0 :: a')) (p.build_alike hr (1 :: a) (1 :: a'))
      fun hf hp => .apply (.map _ hf) hp fun _ _ hg _ => by
        obtain ⟨g, -, rfl⟩ := ParserT.exists_of_produces_map hg
        exact Eval.settled_ofExcept _
  | .lift₁ f p, a, a' =>
    alike_one (p.build_alike hr (0 :: a) (0 :: a')) fun hp =>
      .lift₁ hp fun _ _ => ValueParser.settled_calling f _
  | .lift₂ _ p q, a, a' =>
    alike_two (p.build_alike hr (0 :: a) (0 :: a')) (q.build_alike hr (1 :: a) (1 :: a'))
      fun hp hq => .lift₂ hp hq fun _ _ _ _ => Eval.settled_ofExcept _
  | .bind p next, a, a' =>
    (p.build_alike hr (0 :: a) (0 :: a')).bind fun _ _ hp =>
      (next.build_alike hr (1 :: a) (1 :: a')).bind fun _ _ hk =>
        .ok (.bind hp fun v _ => .ofExcept_of_sameOutcome (hk v))
  | .delayed _ p, a, a' =>
    .ok (.delayed_of_sameOutcome _ _ _ _ fun _ _ => p.build_alike hr (0 :: a) (0 :: a'))
  | .rule name, a, a' =>
    .ok (.delayed_of_sameOutcome _ _ _ _ fun _ _ => hr name (0 :: a) (0 :: a'))
  | .probe name p, a, a' => alike_one (p.build_alike hr (0 :: a) (0 :: a')) (.probe name id)

theorem Grammar.buildAll_alike
    (hr : ∀ name a a', SameOutcome (BuiltAlike base) (resolve name a) (resolve' name a')) :
    ∀ (gs : List Grammar) (a a' : Address) (i : Nat),
      SameOutcome (List.Forall₂ (BuiltAlike base)) (Grammar.buildAll resolve a i gs)
        (Grammar.buildAll resolve' a' i gs)
  | [], _, _, _ => .ok .nil
  | g :: gs, a, a', i =>
    (g.build_alike hr (i :: a) (i :: a')).bind fun _ _ hp =>
      (Grammar.buildAll_alike hr gs a a' (i + 1)).bind fun _ _ hps => .ok (.cons hp hps)

theorem Continuation.build_alike
    (hr : ∀ name a a', SameOutcome (BuiltAlike base) (resolve name a) (resolve' name a')) :
    ∀ (next : Continuation) (a a' : Address),
      SameOutcome (fun k k' => ∀ v, SameOutcome (BuiltAlike base) (k v) (k' v))
        (next.build resolve a) (next.build resolve' a')
  | .times p, a, a' =>
    (p.build_alike hr (0 :: a) (0 :: a')).bind fun _ _ hp =>
      .ok fun v => (ValueParser.timesOf_alike hp v).map fun _ _ => .map _
  | .char, _, _ => .ok fun v => (ValueParser.charOf_alike v).map fun _ _ => .map _
  | .notChar, _, _ => .ok fun v => (ValueParser.notCharOf_alike v).map fun _ _ => .map _
  | .text, _, _ => .ok fun v => (ValueParser.textOf_alike v).map fun _ _ => .map _
  | .textIgnoringCase, _, _ =>
    .ok fun v => (ValueParser.textIgnoringCaseOf_alike v).map fun _ _ => .map _
  | .upTo, _, _ => .ok fun v => (ValueParser.upToOf_alike v).map fun _ _ => .map _
  | .oneOf, _, _ => .ok fun v => (ValueParser.memberOf_alike v).map fun _ _ => .map _
  | .compute f, _, _ =>
    .ok fun v => .map_same (f.apply v) .pure
  | .always p, a, a' => (p.build_alike hr (0 :: a) (0 :: a')).bind fun _ _ hp => .ok fun _ => .ok hp
  | .cases arms, a, a' => arms.build_alike hr a a' 0

theorem Arms.build_alike
    (hr : ∀ name a a', SameOutcome (BuiltAlike base) (resolve name a) (resolve' name a')) :
    ∀ (arms : Arms) (a a' : Address) (i : Nat),
      SameOutcome (fun k k' => ∀ v, SameOutcome (BuiltAlike base) (k v) (k' v))
        (arms.build resolve a i) (arms.build resolve' a' i)
  | .otherwise p, a, a', i =>
    (p.build_alike hr (i :: a) (i :: a')).bind fun _ _ hp => .ok fun _ => .ok hp
  | .arm v p rest, a, a', i =>
    (p.build_alike hr (i :: a) (i :: a')).bind fun _ _ hp =>
      (rest.build_alike hr a a' (i + 1)).bind fun _ _ hk => .ok fun w => by
        split
        · exact .ok hp
        · exact hk w

end

theorem Rules.resolve_alike (rules : Rules) (depth : Nat) (name : Text) (a a' : Address) :
    SameOutcome (BuiltAlike base) (rules.resolve depth name a) (rules.resolve depth name a') := by
  induction depth generalizing name a a' with
  | zero => exact .ok (.settled fun _ => .throw _)
  | succ depth ih =>
    unfold Rules.resolve
    cases rules.lookup name with
    | none => exact .error _
    | some g => exact g.build_alike ih a a'

end Descent
