import Descent.Proofs.Coupling
import Descent.Proofs.Integer

/-!
# One parser put in the place of another

Two parsers are built alike if they are put together in the same way, with parts of the one in the
places of related parts of the other. The combinators around these places are a context of any
depth, with any number of places. Parsers that are built alike agree if the related parts do.
-/

namespace Descent

variable {ω α β γ : Type}

/-- Put together in the same way from parts that are related by `base`. A function only has to
behave on the values that it can be given; a factory has to build the same at every call. -/
inductive BuiltAlike
    (base : (α : Type) → ParserT (Eval ω) α → ParserT (Eval ω) α → Prop) :
    {α : Type} → ParserT (Eval ω) α → ParserT (Eval ω) α → Prop
  | base {α : Type} {p p' : ParserT (Eval ω) α} (h : base α p p') : BuiltAlike base p p'
  | settled {α : Type} {p : ParserT (Eval ω) α} (h : p.Settled) : BuiltAlike base p p
  | bind {α β : Type} {p p' : ParserT (Eval ω) α} {next next' : α → ParserT (Eval ω) β}
      (hp : BuiltAlike base p p')
      (hnext : ∀ v, p.Produces v → BuiltAlike base (next v) (next' v)) :
      BuiltAlike base (.bind p next) (.bind p' next')
  | ofExcept {α : Type} {x x' : Except Fault (ParserT (Eval ω) α)}
      (hok : ∀ p p', x = .ok p → x' = .ok p' → BuiltAlike base p p')
      (herror : ∀ f, x = .error f ↔ x' = .error f) :
      BuiltAlike base (.ofExcept x) (.ofExcept x')
  | map {α β : Type} (f : α → β) {p p' : ParserT (Eval ω) α} (hp : BuiltAlike base p p') :
      BuiltAlike base (.map f p) (.map f p')
  | mapM {α β : Type} {f : α → Eval ω β} {p p' : ParserT (Eval ω) α}
      (hp : BuiltAlike base p p') (hf : ∀ v, p.Produces v → (f v).Settled) :
      BuiltAlike base (.mapM f p) (.mapM f p')
  | after {α β : Type} {p p' : ParserT (Eval ω) α} {q q' : ParserT (Eval ω) β}
      (hp : BuiltAlike base p p') (hq : BuiltAlike base q q') :
      BuiltAlike base (.after p q) (.after p' q')
  | before {α β : Type} {p p' : ParserT (Eval ω) α} {q q' : ParserT (Eval ω) β}
      (hp : BuiltAlike base p p') (hq : BuiltAlike base q q') :
      BuiltAlike base (.before p q) (.before p' q')
  | pair {α β : Type} {p p' : ParserT (Eval ω) α} {q q' : ParserT (Eval ω) β}
      (hp : BuiltAlike base p p') (hq : BuiltAlike base q q') :
      BuiltAlike base (.pair p q) (.pair p' q')
  | apply {α β : Type} {f f' : ParserT (Eval ω) (α → Eval ω β)} {p p' : ParserT (Eval ω) α}
      (hf : BuiltAlike base f f') (hp : BuiltAlike base p p')
      (hcall : ∀ g v, f.Produces g → p.Produces v → (g v).Settled) :
      BuiltAlike base (.apply f p) (.apply f' p')
  | orElse {α : Type} {p p' q q' : ParserT (Eval ω) α} (hp : BuiltAlike base p p')
      (hq : BuiltAlike base q q') : BuiltAlike base (.orElse p q) (.orElse p' q')
  | guarded {α β : Type} {p p' : ParserT (Eval ω) α} {q q' : ParserT (Eval ω) β}
      (hp : BuiltAlike base p p') (hq : BuiltAlike base q q') :
      BuiltAlike base (.guarded p q) (.guarded p' q')
  | notAhead {α : Type} (message : α → Text) {p p' : ParserT (Eval ω) α}
      (hp : BuiltAlike base p p') : BuiltAlike base (.notAhead message p) (.notAhead message p')
  | notAheadM {α : Type} {message : α → Eval ω Text} {p p' : ParserT (Eval ω) α}
      (hp : BuiltAlike base p p') (hm : ∀ v, p.Produces v → (message v).Settled) :
      BuiltAlike base (.notAheadM message p) (.notAheadM message p')
  | lookahead {α : Type} {p p' : ParserT (Eval ω) α} (hp : BuiltAlike base p p') :
      BuiltAlike base (.lookahead p) (.lookahead p')
  | optional {α : Type} {p p' : ParserT (Eval ω) α} (hp : BuiltAlike base p p') :
      BuiltAlike base (.optional p) (.optional p')
  | withDefault {α : Type} (default : α) {p p' : ParserT (Eval ω) α}
      (hp : BuiltAlike base p p') :
      BuiltAlike base (.withDefault default p) (.withDefault default p')
  | many {α : Type} {p p' : ParserT (Eval ω) α} (hp : BuiltAlike base p p') :
      BuiltAlike base (.many p) (.many p')
  | many1 {α : Type} {p p' : ParserT (Eval ω) α} (hp : BuiltAlike base p p') :
      BuiltAlike base (.many1 p) (.many1 p')
  | sequence {α : Type} {ps ps' : List (ParserT (Eval ω) α)} (hlength : ps.length = ps'.length)
      (h : ∀ p p', (p, p') ∈ ps.zip ps' → BuiltAlike base p p') :
      BuiltAlike base (.sequence ps) (.sequence ps')
  | times {α : Type} (n : Nat) {p p' : ParserT (Eval ω) α} (hp : BuiltAlike base p p') :
      BuiltAlike base (.times n p) (.times n p')
  | delayed {α : Type} (address address' : Address) (label label' : Option Text)
      {factory factory' : Nat → Except Fault (ParserT (Eval ω) α)}
      (hok : ∀ call call' p p', factory call = .ok p → factory' call' = .ok p' →
        BuiltAlike base p p')
      (herror : ∀ call call' f, factory call = .error f ↔ factory' call' = .error f) :
      BuiltAlike base (.delayed address label factory) (.delayed address' label' factory')
  | probe {α : Type} (name : Text) (view : α → ω) {p p' : ParserT (Eval ω) α}
      (hp : BuiltAlike base p p') : BuiltAlike base (.probe name view p) (.probe name view p')

namespace ParserT

theorem settled_satisfy (test : Char → Bool) (mismatch : Char → Text) (atEnd : Text) :
    (satisfy test mismatch atEnd : ParserT (Eval ω) Char).Settled := by
  intro src
  cases src with
  | nil => exact .pure _
  | cons c rest => exact .pure _

theorem settled_integer : (integer : ParserT (Eval ω) Int).Settled := fun src =>
  (integer_settles src).settled

theorem exists_of_produces_map {f : α → β} {p : ParserT (Eval ω) α} {w : β}
    (h : (ParserT.map f p).Produces w) : ∃ v, p.Produces v ∧ f v = w := by
  obtain ⟨src, last, h⟩ := h
  obtain ⟨v, rest, hp, h⟩ := exists_success_of_bind h fun _ => rfl
  cases h.eq_of_pure
  exact ⟨v, ⟨src, last, hp⟩, rfl⟩

end ParserT

namespace BuiltAlike

variable {base : (α : Type) → ParserT (Eval ω) α → ParserT (Eval ω) α → Prop}
  {p p' : ParserT (Eval ω) α} {q q' : ParserT (Eval ω) β}

theorem agree {rel : Session ω → Session ω → Prop} {same : Text → Text → Prop}
    (hk : KeptByParsing rel same)
    (hbase : ∀ α p p', base α p p' → p.Agree rel same p')
    (h : BuiltAlike base p p') : p.Agree rel same p' := by
  induction h with
  | base h => exact hbase _ _ _ h
  | settled h => exact h.agree hk.refl
  | bind _ _ ihp ihnext => exact ihp.bind ihnext
  | ofExcept _ herror ih => exact .ofExcept (.of_iff ih herror)
  | map f _ ih => exact ih.map f
  | mapM _ hf ih => exact ih.mapM hf
  | after _ _ ihp ihq => exact ihp.after ihq
  | before _ _ ihp ihq => exact ihp.before ihq
  | pair _ _ ihp ihq => exact ihp.pair ihq
  | apply _ _ hcall ihf ihp => exact ihf.apply ihp hcall
  | orElse _ _ ihp ihq => exact ihp.orElse ihq
  | guarded _ _ ihp ihq => exact ihp.guarded ihq
  | notAhead message _ ih => exact ih.notAhead message hk.refl
  | notAheadM _ hm ih => exact ih.notAheadM hk.refl hm
  | lookahead _ ih => exact ih.lookahead
  | optional _ ih => exact ih.optional
  | withDefault default _ ih => exact ih.withDefault default
  | many _ ih => exact ih.many
  | many1 _ ih => exact ih.many1
  | sequence hlength _ ih => exact .sequence (List.forall₂_iff_zip.2 ⟨hlength, ih _ _⟩)
  | times n _ ih => exact ih.times n
  | delayed address address' label label' _ herror ih =>
    exact .delayed hk address address' label label' fun call call' =>
      .of_iff (ih call call') (herror call call')
  | probe name view _ ih => exact ih.probe hk name view

theorem sequence_of_forall₂ {ps ps' : List (ParserT (Eval ω) α)}
    (h : List.Forall₂ (BuiltAlike base) ps ps') :
    BuiltAlike base (.sequence ps) (.sequence ps') :=
  .sequence h.length_eq fun _ _ hm => (List.forall₂_iff_zip.1 h).2 hm

theorem ofExcept_of_sameOutcome {x x' : Except Fault (ParserT (Eval ω) α)}
    (h : SameOutcome (BuiltAlike base) x x') :
    BuiltAlike base (.ofExcept x) (.ofExcept x') :=
  .ofExcept (fun _ _ => h.of_ok) h.error_iff

theorem delayed_of_sameOutcome (address address' : Address) (label label' : Option Text)
    {factory factory' : Nat → Except Fault (ParserT (Eval ω) α)}
    (h : ∀ call call', SameOutcome (BuiltAlike base) (factory call) (factory' call')) :
    BuiltAlike base (.delayed address label factory) (.delayed address' label' factory') :=
  .delayed address address' label label' (fun call call' _ _ => (h call call').of_ok)
    fun call call' => (h call call').error_iff

/-! What is defined from other combinators. -/

theorem between {r r' : ParserT (Eval ω) γ} (hp : BuiltAlike base p p')
    (hq : BuiltAlike base q q') (hr : BuiltAlike base r r') :
    BuiltAlike base (.between p r q) (.between p' r' q') := (hp.after hq).before hr

theorem pure (v : α) : BuiltAlike base (.pure v) (.pure v) := .settled fun _ => .pure _

theorem lift₁ {f : α → Eval ω β} (hp : BuiltAlike base p p')
    (hf : ∀ v, p.Produces v → (f v).Settled) : BuiltAlike base (.lift₁ f p) (.lift₁ f p') := by
  refine .apply (.pure f) hp fun g v hg hv => ?_
  rw [ParserT.eq_of_produces_pure hg]
  exact hf v hv

theorem lift₂ {f : α → β → Eval ω γ} (hp : BuiltAlike base p p') (hq : BuiltAlike base q q')
    (hf : ∀ v w, p.Produces v → q.Produces w → (f v w).Settled) :
    BuiltAlike base (.lift₂ f p q) (.lift₂ f p' q') := by
  refine .apply (.apply (.pure _) hp fun g v hg _ => ?_) hq fun g w hg hw => ?_
  · rw [ParserT.eq_of_produces_pure hg]
    exact .pure _
  · obtain ⟨h, v, hh, hv, hcan⟩ := ParserT.exists_of_produces_apply hg
    rw [ParserT.eq_of_produces_pure hh] at hcan
    rw [hcan.eq_of_pure]
    exact hf v w hv hw

theorem choose {ps ps' : List (ParserT (Eval ω) α)}
    (h : List.Forall₂ (BuiltAlike base) ps ps') :
    SameOutcome (BuiltAlike base) (ParserT.choose ps) (ParserT.choose ps') := by
  cases h with
  | nil => exact .error _
  | cons hp h => exact .ok (List.rel_foldl (fun _ _ hp _ _ hq => hp.orElse hq) hp h)

theorem times? (n : Int) (hp : BuiltAlike base p p') :
    SameOutcome (BuiltAlike base) (ParserT.times? n p) (ParserT.times? n p') := by
  unfold ParserT.times? ParserT.timesWithin?
  split
  · exact .error _
  split
  · exact .error _
  split
  · exact .error _
  · exact .ok (hp.times n.toNat)

theorem sepBy1 (hp : BuiltAlike base p p') (hq : BuiltAlike base q q') :
    BuiltAlike base (.sepBy1 p q) (.sepBy1 p' q') := .map _ (hp.pair (hq.after hp).many)

theorem sepBy (hp : BuiltAlike base p p') (hq : BuiltAlike base q q') :
    BuiltAlike base (.sepBy p q) (.sepBy p' q') := (hp.sepBy1 hq).orElse (.pure [])

/-! Parsers with no other parsers in them. -/

theorem satisfy (test : Char → Bool) (mismatch : Char → Text) (atEnd : Text) :
    BuiltAlike base (.satisfy test mismatch atEnd) (.satisfy test mismatch atEnd) :=
  .settled (ParserT.settled_satisfy test mismatch atEnd)

theorem expect (what : Text) (test : Char → Bool) :
    BuiltAlike base (.expect what test) (.expect what test) := satisfy test _ _

theorem sequence_map {f : β → ParserT (Eval ω) α} (hf : ∀ v, BuiltAlike base (f v) (f v))
    (vs : List β) : BuiltAlike base (.sequence (vs.map f)) (.sequence (vs.map f)) :=
  sequence_of_forall₂ (List.forall₂_same.2 (List.forall_mem_map.2 fun v _ => hf v))

theorem text (t : Text) : BuiltAlike base (.text t) (.text t) :=
  sequence_map (fun _ => .expect _ _) t

theorem textIgnoringCase (t : Text) :
    BuiltAlike base (.textIgnoringCase t) (.textIgnoringCase t) :=
  sequence_map (fun _ => .expect _ _) t

theorem upTo (c : Char) : BuiltAlike base (.upTo c) (.upTo c) :=
  (many (.expect _ _)).before (lookahead (.expect _ _))

theorem endOfInput : BuiltAlike base .endOfInput .endOfInput :=
  .map _ (.notAhead _ (.expect _ _))

theorem quotedText (quote escape : Char) (replacement : Char → Option Text) :
    BuiltAlike base (.quotedText quote escape replacement)
      (.quotedText quote escape replacement) := by
  have hescaped : BuiltAlike base (.escapedChar escape replacement)
      (.escapedChar escape replacement) := .after (.expect _ _) (.map _ (.satisfy _ _ _))
  have hplain : BuiltAlike base (.plainChar quote escape) (.plainChar quote escape) :=
    .map _ (.satisfy _ _ _)
  exact .between (.expect _ _) (.map _ (hescaped.orElse hplain).many) (.expect _ _)

end BuiltAlike
end Descent
