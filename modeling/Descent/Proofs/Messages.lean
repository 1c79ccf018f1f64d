import Descent.Proofs.Rebuilding

/-!
# Messages do not steer a parse

Parsers that differ in nothing but the messages of their failures can stand for each other in every
context: the parsers around them differ in no more than that. Where a combinator throws the message
of a part away, and goes on or succeeds instead, the parsers around do not differ at all.
-/

namespace Descent

variable {ω α β : Type}

namespace ParserT

/-- On every text, and whatever the sessions, both stop for the same reason, both match with the
same value and rest, or both fail, each with a message of its own. -/
def SameUpToMessages (p p' : ParserT (Eval ω) α) : Prop :=
  ∀ src s t, SameOutcome (Result.Alike fun _ _ => True) ((p src).run s).1 ((p' src).run t).1

def SameAnswers (p p' : ParserT (Eval ω) α) : Prop :=
  ∀ src s t, ((p src).run s).1 = ((p' src).run t).1

def Steady (p : ParserT (Eval ω) α) : Prop := SameAnswers p p

/-- Where its messages are thrown away, `p` can be replaced by `p'` and nothing changes: as an
alternative that others follow, as what may be missing or must not come, as what is repeated from
none upwards, as the item of a list that may be empty and as a separator. -/
structure ReplacesUnseen (p p' : ParserT (Eval ω) α) : Prop where
  orElse : ∀ q, q.Steady → SameAnswers (.orElse p q) (.orElse p' q)
  choose : ∀ (front back : List (ParserT (Eval ω) α)) (last : ParserT (Eval ω) α),
    (∀ q ∈ front ++ back, q.Steady) → last.Steady →
    SameOutcome SameAnswers (ParserT.choose (front ++ p :: back ++ [last]))
      (ParserT.choose (front ++ p' :: back ++ [last]))
  optional : SameAnswers (.optional p) (.optional p')
  withDefault : ∀ default, SameAnswers (.withDefault default p) (.withDefault default p')
  many : SameAnswers (.many p) (.many p')
  notAhead : ∀ message, SameAnswers (.notAhead message p) (.notAhead message p')
  notAheadM : ∀ message : α → Eval ω Text, (∀ v, (message v).Settled) →
    SameAnswers (.notAheadM message p) (.notAheadM message p')
  sepByItem : ∀ {β : Type} (q : ParserT (Eval ω) β), q.Steady →
    SameAnswers (.sepBy p q) (.sepBy p' q)
  sepBySeparator : ∀ {β : Type} (q : ParserT (Eval ω) β), q.Steady →
    SameAnswers (.sepBy q p) (.sepBy q p')
  sepBy1Separator : ∀ {β : Type} (q : ParserT (Eval ω) β), q.Steady →
    SameAnswers (.sepBy1 q p) (.sepBy1 q p')

variable {p p' : ParserT (Eval ω) α}

theorem sameUpToMessages_iff_agree :
    SameUpToMessages p p' ↔ Agree (fun _ _ => True) (fun _ _ => True) p p' :=
  ⟨fun h src s t _ => ⟨h src s t, trivial⟩, fun h src s t => (h src s t trivial).1⟩

theorem sameAnswers_iff_agree : SameAnswers p p' ↔ Agree (fun _ _ => True) (· = ·) p p' :=
  ⟨fun h src s t _ => ⟨sameOutcome_alike_iff.2 (h src s t), trivial⟩,
    fun h src s t => sameOutcome_alike_iff.1 (h src s t trivial).1⟩

theorem Steady.agree (hp : p.Steady) : Agree (fun _ _ => True) (· = ·) p p :=
  sameAnswers_iff_agree.1 hp

theorem Steady.agree_upToMessages (hp : p.Steady) :
    Agree (fun _ _ => True) (fun _ _ => True) p p := fun src =>
  (hp.agree src).mono fun _ _ h => by
    rw [Result.alike_eq_iff.1 h]
    exact .refl (fun _ => trivial) _

theorem SameUpToMessages.replacesUnseen (h : SameUpToMessages p p') : ReplacesUnseen p p' := by
  have hp := sameUpToMessages_iff_agree.1 h
  refine
    { orElse := fun q hq => sameAnswers_iff_agree.2 (hp.orElse hq.agree)
      choose := fun front back last hqs hlast => ?_
      optional := sameAnswers_iff_agree.2 hp.optional
      withDefault := fun default => sameAnswers_iff_agree.2 (hp.withDefault default)
      many := sameAnswers_iff_agree.2 hp.many
      notAhead := fun message => sameAnswers_iff_agree.2 (hp.notAhead message fun _ => rfl)
      notAheadM := fun message hm =>
        sameAnswers_iff_agree.2 (hp.notAheadM (fun _ => rfl) fun v _ => hm v)
      sepByItem := fun q hq =>
        sameAnswers_iff_agree.2 (hp.sepBy hq.agree_upToMessages fun _ => rfl)
      sepBySeparator := fun q hq =>
        sameAnswers_iff_agree.2 (hq.agree_upToMessages.sepBy hp fun _ => rfl)
      sepBy1Separator := fun q hq =>
        sameAnswers_iff_agree.2 (hq.agree.sepBy1 hp hq.agree_upToMessages) }
  have hself (qs : List (ParserT (Eval ω) α)) (hqs : ∀ q ∈ qs, q.Steady) :
      List.Forall₂ (Agree (fun _ _ => True) fun _ _ => True) qs qs :=
    List.forall₂_same.2 fun q hq => (hqs q hq).agree_upToMessages
  have hfront := hself front fun q hq => hqs q (List.mem_append_left back hq)
  have hback := hself back fun q hq => hqs q (List.mem_append_right front hq)
  exact (Agree.choose_concat (List.rel_append hfront (.cons hp hback)) hlast.agree).mono
    fun _ _ => sameAnswers_iff_agree.2

end ParserT

open ParserT (SameUpToMessages ReplacesUnseen)

theorem keptByParsing_any {same : Text → Text → Prop} (h : ∀ e, same e e) :
    KeptByParsing (fun _ _ : Session ω => True) same :=
  ⟨h, fun _ _ _ => trivial, fun _ _ _ => trivial, fun _ _ _ => trivial⟩

theorem BuiltAlike.sameUpToMessages {p p' : ParserT (Eval ω) α}
    (h : BuiltAlike (fun _ => SameUpToMessages) p p') : SameUpToMessages p p' :=
  ParserT.sameUpToMessages_iff_agree.2 (h.agree (keptByParsing_any fun _ => trivial)
    fun _ _ _ => ParserT.sameUpToMessages_iff_agree.1)

/-- The words of a failure decide nothing. A context of any depth, around any parts that are the
same up to messages, is the same up to messages; so is a grammar that is given as data around what
its references stand for. Where messages are thrown away, the context is the same without regard to
them. -/
theorem messages_steer_nothing :
    (∀ (ω α : Type) (p p' : ParserT (Eval ω) α),
      BuiltAlike (fun _ => SameUpToMessages) p p' → SameUpToMessages p p') ∧
    (∀ resolve resolve' : Resolver,
      (∀ name a a', SameOutcome SameUpToMessages (resolve name a) (resolve' name a')) →
      ∀ (g : Grammar) (a a' : Address),
        SameOutcome SameUpToMessages (g.build resolve a) (g.build resolve' a')) ∧
    ∀ (ω α : Type) (p p' : ParserT (Eval ω) α), SameUpToMessages p p' → ReplacesUnseen p p' := by
  refine ⟨fun _ _ _ _ h => h.sameUpToMessages, fun resolve resolve' h g a a' => ?_,
    fun _ _ _ _ h => h.replacesUnseen⟩
  have hresolve (name : Text) (a a' : Address) :
      SameOutcome (BuiltAlike fun _ => SameUpToMessages) (resolve name a) (resolve' name a') :=
    (h name a a').mono fun _ _ => .base
  exact (g.build_alike hresolve a a').mono fun _ _ h => h.sameUpToMessages

def silentChar (c : Char) : ParserT (Eval Value) Char := .satisfy (· == c) (fun _ => []) []

theorem sameUpToMessages_silentChar (c : Char) : SameUpToMessages (.char c) (silentChar c) := by
  intro src s t
  cases src with
  | nil => exact .ok (.failure trivial)
  | cons d rest =>
    change SameOutcome _ (.ok (if d == c then Result.success d rest else _))
      (.ok (if d == c then Result.success d rest else _))
    cases d == c with
    | true => exact .ok (.success d rest)
    | false => exact .ok (.failure trivial)

theorem messages_steer_nothing_silentChar :
    SameUpToMessages (.many1 (.char 'a')) (.many1 (silentChar 'a')) ∧
    ¬ ParserT.SameAnswers (.many1 (.char 'a')) (.many1 (silentChar 'a')) ∧
    ParserT.SameAnswers (.many (.char 'a')) (.many (silentChar 'a')) ∧
    SameOutcome SameUpToMessages
      ((Grammar.many1 (.rule ['a'])).build (fun _ _ => .ok (.ofChar (.char 'a'))) [])
      ((Grammar.many1 (.rule ['a'])).build (fun _ _ => .ok (.ofChar (silentChar 'a'))) []) := by
  have hchar := sameUpToMessages_silentChar 'a'
  have hvalue : SameUpToMessages (ValueParser.ofChar (.char 'a'))
      (ValueParser.ofChar (silentChar 'a')) :=
    messages_steer_nothing.1 _ _ _ _ (.map _ (.base hchar))
  refine ⟨messages_steer_nothing.1 _ _ _ _ (.many1 (.base hchar)), fun h => ?_,
    (messages_steer_nothing.2.2 _ _ _ _ hchar).many,
    messages_steer_nothing.2.1 _ _ (fun _ _ _ => .ok hvalue) _ _ _⟩
  have hmessage : ParserT.wanted (Text.quote ['a']) (some 'b') = [] := by
    have hb := h ['b'] {} {}
    injection hb with hb
    injection hb
  exact absurd hmessage (by decide)

end Descent
