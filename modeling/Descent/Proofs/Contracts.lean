import Descent.Proofs.Nesting
import Descent.Proofs.Runs

/-!
# Contracts of parsers

A contract says what stays true of the session, what may be left of a text and for which reasons its
parse may stop. What may be left of a part that was left may be left of the whole, and what excuses
a stop there excuses it on the whole text, so that parsers which run on what others left are
covered. Every combinator keeps to a contract that its parts keep to.
-/

namespace Descent

variable {ω α β : Type}

structure Contract (ω : Type) where
  holds : Session ω → Prop
  /-- The text that was given and a text that may be left of it. -/
  leaves : Text → Text → Prop
  allows : Text → Stop → Prop
  recorded : ∀ {s : Session ω} (event : Event ω), holds s →
    holds { s with trace := s.trace.push event }
  called : ∀ {s : Session ω} {address : Address} {failed : Nat} (label : Option Text) (slot : Slot),
    s.memory.get address = .pending failed → holds s → holds (s.called address label slot)
  of_suffix : ∀ {src rest : Text}, rest <:+ src → leaves src rest
  trans : ∀ {src mid rest : Text}, leaves src mid → leaves mid rest → leaves src rest
  allows_of_left : ∀ {src rest : Text} {stop : Stop}, leaves src rest → allows rest stop →
    allows src stop

theorem Contract.refl (C : Contract ω) (src : Text) : C.leaves src src :=
  C.of_suffix src.suffix_refl

def Result.Leaves (left : Text → Prop) : Result α → Prop
  | .success _ rest => left rest
  | .failure _ => True

theorem Result.Leaves.mono {left left' : Text → Prop} (h : ∀ rest, left rest → left' rest)
    {r : Result α} (hr : r.Leaves left) : r.Leaves left' := by
  cases r with
  | success v rest => exact h rest hr
  | failure e => trivial

theorem Result.leaves_of_forall {left : Text → Prop} (h : ∀ rest, left rest) (r : Result α) :
    r.Leaves left := by
  cases r with
  | success v rest => exact h rest
  | failure e => trivial

theorem Result.Leaves.map {left : Text → Prop} (f : α → β) {r : Result α} (hr : r.Leaves left) :
    (r.map f).Leaves left := by
  cases r with
  | success v rest => exact hr
  | failure e => trivial

namespace Eval

def Respects (C : Contract ω) (src : Text) (x : Eval ω α) : Prop :=
  x.EndsWithin C.holds (fun _ => True) (C.allows src)

def KeepsTo (C : Contract ω) (src : Text) (x : Eval ω (Result α)) : Prop :=
  x.EndsWithin C.holds (Result.Leaves (C.leaves src)) (C.allows src)

variable {C : Contract ω} {src : Text}

theorem respects_record (event : Event ω) : (record event).Respects C src :=
  fun _ hs => ⟨C.recorded event hs, trivial⟩

theorem keepsTo_success {rest : Text} (v : α) (h : C.leaves src rest) :
    KeepsTo C src (pure (.success v rest) : Eval ω (Result α)) := .pure h

theorem keepsTo_failure (e : Text) : KeepsTo C src (pure (.failure e) : Eval ω (Result α)) :=
  .pure trivial

theorem Settles.endsWithin {kept : Session ω → Prop} {x : Eval ω α} {good : α → Prop}
    {bad : Stop → Prop} (h : x.Settles good bad) : x.EndsWithin kept good bad := by
  rcases h with ⟨v, rfl, hv⟩ | ⟨stop, rfl, hs⟩
  · exact .pure hv
  · exact .throw hs

end Eval

open Eval (keepsTo_success keepsTo_failure)

namespace ParserT

def Meets (C : Contract ω) (p : ParserT (Eval ω) α) : Prop := ∀ src, (p src).KeepsTo C src

variable {C : Contract ω} {p : ParserT (Eval ω) α} {q : ParserT (Eval ω) β} {src start rest : Text}

theorem Meets.on_left (hp : p.Meets C) (h : C.leaves src rest) : (p rest).KeepsTo C src :=
  (hp rest).mono (fun _ => Result.Leaves.mono fun _ => C.trans h) fun _ => C.allows_of_left h

theorem Meets.andThen (hp : p.Meets C) (hs : C.leaves src start)
    {k : Result α → Eval ω (Result β)}
    (hsuccess : ∀ v rest, C.leaves src rest → p.Produces v →
      (k (.success v rest)).KeepsTo C src)
    (hfailure : ∀ e, (k (.failure e)).KeepsTo C src) : (p start >>= k).KeepsTo C src := by
  refine (hp.on_left hs).bind fun r hr hcan => ?_
  cases r with
  | success v rest => exact hsuccess v rest hr ⟨start, rest, hcan⟩
  | failure e => exact hfailure e

theorem meets_pure (v : α) : (ParserT.pure v : ParserT (Eval ω) α).Meets C := fun src =>
  keepsTo_success v (C.refl src)

theorem meets_fail (message : Text) : (.fail message : ParserT (Eval ω) α).Meets C := fun _ =>
  keepsTo_failure message

theorem meets_lift {x : Eval ω α} (hx : ∀ src, x.Respects C src) : (ParserT.lift x).Meets C :=
  fun src => (hx src).bind fun v _ _ => keepsTo_success v (C.refl src)

theorem meets_satisfy (test : Char → Bool) (mismatch : Char → Text) (atEnd : Text) :
    (.satisfy test mismatch atEnd : ParserT (Eval ω) Char).Meets C := by
  intro src
  cases src with
  | nil => exact keepsTo_failure atEnd
  | cons c rest =>
    cases hc : test c with
    | true =>
      rw [satisfy_of_test test mismatch atEnd hc]
      exact keepsTo_success c (C.of_suffix (List.suffix_cons c rest))
    | false =>
      rw [satisfy_of_not_test test mismatch atEnd hc]
      exact keepsTo_failure _

theorem meets_matching (pattern : Pattern) :
    (.matching pattern : ParserT (Eval ω) Text).Meets C := by
  intro src
  rw [ParserT.matching]
  cases h : pattern.split? src with
  | none => exact keepsTo_failure _
  | some parts =>
    exact keepsTo_success parts.1 (C.of_suffix ⟨parts.1, pattern.append_of_split? h⟩)

theorem Meets.bind {next : α → ParserT (Eval ω) β} (hp : p.Meets C)
    (hnext : ∀ v, p.Produces v → (next v).Meets C) : (ParserT.bind p next).Meets C := fun src =>
  hp.andThen (C.refl src) (fun v _ hr hv => (hnext v hv).on_left hr) keepsTo_failure

theorem Meets.map (f : α → β) (hp : p.Meets C) : (ParserT.map f p).Meets C := fun src =>
  hp.andThen (C.refl src) (fun v _ hr _ => keepsTo_success (f v) hr) keepsTo_failure

theorem Meets.mapM {f : α → Eval ω β} (hp : p.Meets C)
    (hf : ∀ v, p.Produces v → ∀ src, (f v).Respects C src) : (ParserT.mapM f p).Meets C := by
  intro src
  refine hp.andThen (C.refl src) (fun v rest hr hv => ?_) keepsTo_failure
  exact (hf v hv src).bind fun w _ _ => keepsTo_success w hr

theorem Meets.after (hp : p.Meets C) (hq : q.Meets C) : (ParserT.after p q).Meets C := fun src =>
  hp.andThen (C.refl src) (fun _ _ hr _ => hq.on_left hr) keepsTo_failure

theorem Meets.before (hp : p.Meets C) (hq : q.Meets C) : (ParserT.before p q).Meets C := by
  intro src
  refine hp.andThen (C.refl src) (fun v rest hr _ => ?_) keepsTo_failure
  exact hq.andThen hr (fun _ _ hl _ => keepsTo_success v hl) keepsTo_failure

theorem Meets.pair (hp : p.Meets C) (hq : q.Meets C) : (ParserT.pair p q).Meets C := by
  intro src
  refine hp.andThen (C.refl src) (fun v rest hr _ => ?_) keepsTo_failure
  exact hq.andThen hr (fun w _ hl _ => keepsTo_success (v, w) hl) keepsTo_failure

theorem Meets.apply {f : ParserT (Eval ω) (α → Eval ω β)} (hf : f.Meets C) (hp : p.Meets C)
    (hcall : ∀ g v, f.Produces g → p.Produces v → ∀ src, (g v).Respects C src) :
    (ParserT.apply f p).Meets C :=
  (hf.pair hp).mapM fun gv h => hcall gv.1 gv.2 (produces_of_pair h).1 (produces_of_pair h).2

theorem Meets.orElse {q : ParserT (Eval ω) α} (hp : p.Meets C) (hq : q.Meets C) :
    (ParserT.orElse p q).Meets C := fun src =>
  hp.andThen (C.refl src) (fun v _ hr _ => keepsTo_success v hr) fun _ => hq src

theorem Meets.guarded (hp : p.Meets C) (hq : q.Meets C) : (ParserT.guarded p q).Meets C :=
  fun src => hp.andThen (C.refl src) (fun _ _ _ _ => hq src) keepsTo_failure

theorem Meets.notAhead (message : α → Text) (hp : p.Meets C) :
    (ParserT.notAhead message p).Meets C := fun src =>
  hp.andThen (C.refl src) (fun v _ _ _ => keepsTo_failure (message v)) fun _ =>
    keepsTo_success () (C.refl src)

theorem Meets.notAheadM {message : α → Eval ω Text} (hp : p.Meets C)
    (hm : ∀ v, p.Produces v → ∀ src, (message v).Respects C src) :
    (ParserT.notAheadM message p).Meets C := by
  intro src
  refine hp.andThen (C.refl src) (fun v _ _ hv => ?_) fun _ => keepsTo_success () (C.refl src)
  exact (hm v hv src).bind fun e _ _ => keepsTo_failure e

theorem Meets.lookahead (hp : p.Meets C) : (ParserT.lookahead p).Meets C := fun src =>
  hp.andThen (C.refl src) (fun v _ _ _ => keepsTo_success v (C.refl src)) keepsTo_failure

theorem Meets.optional (hp : p.Meets C) : (ParserT.optional p).Meets C := fun src =>
  hp.andThen (C.refl src) (fun v _ hr _ => keepsTo_success (some v) hr) fun _ =>
    keepsTo_success none (C.refl src)

theorem Meets.withDefault (default : α) (hp : p.Meets C) :
    (ParserT.withDefault default p).Meets C :=
  fun src => hp.andThen (C.refl src) (fun v _ hr _ => keepsTo_success v hr) fun _ =>
    keepsTo_success default (C.refl src)

theorem keepsTo_continueMany {v : α} (hr : C.leaves src rest)
    (hmany : rest.length < start.length → (ParserT.many p rest).KeepsTo C src) :
    (continueMany p start v rest).KeepsTo C src := by
  by_cases hlt : rest.length < start.length
  · rw [continueMany, if_pos hlt]
    exact Eval.EndsWithin.map ((hmany hlt).mono (fun _ h => h.map _) fun _ h => h)
  · rw [continueMany, if_neg hlt]
    exact keepsTo_success [v] hr

theorem Meets.many_on_left (hp : p.Meets C) (hs : C.leaves src start) :
    (ParserT.many p start).KeepsTo C src := by
  induction start using shorter_induction with
  | shorter start ih =>
    rw [many_eq]
    refine hp.andThen hs (fun v rest hr _ => ?_) fun _ => keepsTo_success [] hs
    exact keepsTo_continueMany hr fun hlt => ih rest hlt hr

theorem Meets.many (hp : p.Meets C) : (ParserT.many p).Meets C := fun src =>
  hp.many_on_left (C.refl src)

theorem Meets.many1 (hp : p.Meets C) : (ParserT.many1 p).Meets C := by
  intro src
  rw [many1_eq]
  refine hp.andThen (C.refl src) (fun v rest hr _ => ?_) keepsTo_failure
  exact keepsTo_continueMany hr fun _ => hp.many_on_left hr

theorem keepsTo_collect {ps : List (ParserT (Eval ω) α)} (h : ∀ p ∈ ps, Meets C p)
    (found : Array α) (hs : C.leaves src start) : (collect found ps start).KeepsTo C src := by
  induction ps generalizing found start with
  | nil => exact keepsTo_success found.toList hs
  | cons p ps ih =>
    obtain ⟨hp, hps⟩ := List.forall_mem_cons.1 h
    exact hp.andThen hs (fun v rest hr _ => ih hps (found.push v) hr) keepsTo_failure

theorem meets_sequence {ps : List (ParserT (Eval ω) α)} (h : ∀ p ∈ ps, Meets C p) :
    (ParserT.sequence ps).Meets C := fun src => keepsTo_collect h #[] (C.refl src)

theorem Meets.collectTimes (hp : p.Meets C) (n : Nat) (found : Array α) (hs : C.leaves src start) :
    (ParserT.collectTimes p found n start).KeepsTo C src := by
  induction n generalizing found start with
  | zero => exact keepsTo_success found.toList hs
  | succ n ih => exact hp.andThen hs (fun v rest hr _ => ih (found.push v) hr) keepsTo_failure

theorem Meets.times (n : Nat) (hp : p.Meets C) : (ParserT.times n p).Meets C := fun src =>
  hp.collectTimes n #[] (C.refl src)

theorem Meets.probe (name : Text) (view : α → ω) (hp : p.Meets C) :
    (ParserT.probe name view p).Meets C := by
  intro src
  refine (Eval.respects_record _).bind fun _ _ _ => ?_
  refine (hp src).bind fun result hr _ => ?_
  exact (Eval.respects_record _).bind fun _ _ _ => .pure hr

theorem meets_ofExcept {x : Except Fault (ParserT (Eval ω) α)} (hok : ∀ p, x = .ok p → Meets C p)
    (herror : ∀ f, x = .error f → ∀ src, C.allows src (.fault f)) :
    (ParserT.ofExcept x).Meets C := by
  intro src
  cases x with
  | ok p => exact hok p rfl src
  | error f => exact .throw (herror f rfl src)

theorem meets_delayed (address : Address) (label : Option Text)
    {factory : Nat → Except Fault (ParserT (Eval ω) α)}
    (hok : ∀ call p, factory call = .ok p → Meets C p)
    (herror : ∀ call f, factory call = .error f → ∀ src, C.allows src (.fault f)) :
    (ParserT.delayed address label factory).Meets C := by
  intro src s hs
  rw [run_delayed]
  cases hslot : s.memory.get address with
  | ready call => exact meets_ofExcept (hok call) (herror call) src s hs
  | pending failed =>
    cases hf : factory failed with
    | ok p =>
      simp only [hf]
      exact hok failed p hf src _ (C.called label _ hslot hs)
    | error f =>
      simp only [hf]
      exact ⟨C.called label _ hslot hs, herror failed f hf src⟩

end ParserT
end Descent
