import Descent.Proofs.Contracts
import Descent.Proofs.Reuse

/-!
# The uses of a delayed parser

At each use of a delayed parser its factory is called if no call has returned so far. A call that is
at fault stops the use and leaves it to the next one to call again. The first call that returns is
the last: from then on each use is a use of the parser that it returned. What a factory has returned
is remembered whatever is parsed, since no parser of the library changes a slot that is ready.
-/

namespace Descent

variable {ω α β : Type} {address : Address}

/-- What a factory at `address` has returned is not forgotten. -/
def ParserT.KeepsReady (address : Address) (p : ParserT (Eval ω) α) : Prop :=
  ∀ src s call, s.memory.get address = .ready call →
    ((p src).run s).2.memory.get address = .ready call

def Contract.ready (address : Address) (call : Nat) : Contract ω where
  holds s := s.memory.get address = .ready call
  leaves _ _ := True
  allows _ _ := True
  recorded _ hs := hs
  called {s a _} label slot ha hs := by
    have hne : a ≠ address := by
      rintro rfl
      cases ha.symm.trans hs
    exact (s.get_called a address label slot).trans ((if_neg hne).trans hs)
  of_suffix _ := trivial
  trans _ _ := trivial
  allows_of_left _ _ := trivial

section
variable {call : Nat} {p : ParserT (Eval ω) α}

theorem ParserT.keepsReady_iff :
    p.KeepsReady address ↔ ∀ call, p.Meets (.ready address call) := by
  refine ⟨fun h call src s hs => ⟨h src s call hs, ?_⟩, fun h src s call hs => (h call src s hs).1⟩
  cases ((p src).run s).1 with
  | ok r => exact Result.leaves_of_forall (fun _ => trivial) r
  | error stop => trivial

theorem Eval.Settled.respects_ready {x : Eval ω α} (h : x.Settled) (src : Text) :
    x.Respects (.ready address call) src := Settles.endsWithin h

theorem ParserT.Settled.meets_ready (h : p.Settled) : p.Meets (.ready address call) := fun src =>
  (h src).endsWithin.mono (fun r _ => Result.leaves_of_forall (fun _ => trivial) r) fun _ h => h

end

theorem BuiltAlike.meets_ready {call : Nat}
    {base : (α : Type) → ParserT (Eval ω) α → ParserT (Eval ω) α → Prop}
    {p p' : ParserT (Eval ω) α} (hbase : ∀ α p p', base α p p' → p.Meets (.ready address call))
    (h : BuiltAlike base p p') : p.Meets (.ready address call) := by
  induction h with
  | base h => exact hbase _ _ _ h
  | settled h => exact h.meets_ready
  | bind _ _ ihp ihnext => exact ihp.bind ihnext
  | @ofExcept _ x x' _ herror ih =>
    refine ParserT.meets_ofExcept (fun p hp => ?_) fun _ _ _ => trivial
    cases hx' : x' with
    | ok p' => exact ih p p' hp hx'
    | error f => cases hp.symm.trans ((herror f).2 hx')
  | map f _ ih => exact ih.map f
  | mapM _ hf ih => exact ih.mapM fun v hv => (hf v hv).respects_ready
  | after _ _ ihp ihq => exact ihp.after ihq
  | before _ _ ihp ihq => exact ihp.before ihq
  | pair _ _ ihp ihq => exact ihp.pair ihq
  | apply _ _ hcall ihf ihp => exact ihf.apply ihp fun g v hg hv => (hcall g v hg hv).respects_ready
  | orElse _ _ ihp ihq => exact ihp.orElse ihq
  | guarded _ _ ihp ihq => exact ihp.guarded ihq
  | notAhead message _ ih => exact ih.notAhead message
  | notAheadM _ hm ih => exact ih.notAheadM fun v hv => (hm v hv).respects_ready
  | lookahead _ ih => exact ih.lookahead
  | optional _ ih => exact ih.optional
  | withDefault default _ ih => exact ih.withDefault default
  | many _ ih => exact ih.many
  | many1 _ ih => exact ih.many1
  | @sequence _ ps ps' hlength _ ih =>
    refine ParserT.meets_sequence fun p hp => ?_
    obtain ⟨i, hi, rfl⟩ := List.mem_iff_getElem.1 hp
    have hzip : i < (ps.zip ps').length := by
      rw [List.length_zip]
      omega
    have hmem := List.getElem_mem hzip
    rw [List.getElem_zip] at hmem
    exact ih _ _ hmem
  | times n _ ih => exact ih.times n
  | @delayed _ a a' label label' factory factory' _ herror ih =>
    refine ParserT.meets_delayed a label (fun call p hp => ?_) fun _ _ _ _ => trivial
    cases hp' : factory' call with
    | ok p' => exact ih call call p p' hp hp'
    | error f => cases hp.symm.trans ((herror call call f).2 hp')
  | probe name view _ ih => exact ih.probe name view

theorem BuiltAlike.keepsReady {p p' : ParserT (Eval ω) α}
    (h : BuiltAlike (fun _ _ _ => False) p p') : p.KeepsReady address :=
  ParserT.keepsReady_iff.2 fun _ => h.meets_ready fun _ _ _ hbase => hbase.elim

theorem Grammar.keepsReady (g : Grammar) (rules : Rules) (depth : Nat) (a : Address)
    {p : ValueParser} (h : g.build (rules.resolve depth) a = .ok p) : p.KeepsReady address := by
  have hbuild : SameOutcome (BuiltAlike fun _ _ _ => False) (g.build (rules.resolve depth) a)
      (g.build (rules.resolve depth) a) := g.build_alike (rules.resolve_alike depth) a a
  exact (hbuild.of_ok h h).keepsReady

namespace ParserT

variable {label : Option Text} {factory : Nat → Except Fault (ParserT (Eval ω) α)}
  {src : Text} {s : Session ω}

theorem run_delayed_of_ready {call : Nat} {q : ParserT (Eval ω) α}
    (hs : s.memory.get address = .ready call) (hq : factory call = .ok q) :
    (delayed address label factory src).run s = (q src).run s := by
  rw [run_delayed, hs]
  simp only [hq]
  rfl

theorem run_delayed_of_ok {failed : Nat} {q : ParserT (Eval ω) α}
    (hs : s.memory.get address = .pending failed) (hq : factory failed = .ok q) :
    (delayed address label factory src).run s =
      (q src).run (s.called address label (.ready failed)) := by
  rw [run_delayed, hs]
  simp only [hq]

theorem run_delayed_of_error {failed : Nat} {f : Fault}
    (hs : s.memory.get address = .pending failed) (hf : factory failed = .error f) :
    (delayed address label factory src).run s =
      (.error (.fault f), s.called address label (.pending (failed + 1))) := by
  rw [run_delayed, hs]
  simp only [hf]

end ParserT

/-! The slot of a delayed parser from use to use. -/

def Slot.calls : Slot → Nat
  | .pending failed => failed
  | .ready call => call + 1

def NoneReturns (factory : Nat → Except Fault (ParserT (Eval ω) α)) (n : Nat) : Prop :=
  ∀ k < n, ∀ q, factory k ≠ .ok q

/-- What the slot is after that many uses: either each of them has called the factory in vain, or
one of them has called it with success, and none after it. -/
inductive Slot.After (factory : Nat → Except Fault (ParserT (Eval ω) α)) : Nat → Slot → Prop
  | pending {uses : Nat} (h : NoneReturns factory uses) : After factory uses (.pending uses)
  | ready {uses call : Nat} {q : ParserT (Eval ω) α} (hcall : call < uses)
      (hq : factory call = .ok q) (h : NoneReturns factory call) : After factory uses (.ready call)

/-- All uses of the parser `p` up to now in the order of time, each on a text in a session, and what
is remembered at `address` behind them. In between anything else may become of the session. -/
inductive Uses (p : ParserT (Eval ω) α) (address : Address) : List (Text × Session ω) → Slot → Prop
  | none : Uses p address [] (.pending 0)
  | next {made : List (Text × Session ω)} {slot : Slot} (hmade : Uses p address made slot)
      (src : Text) (s : Session ω) (hs : s.memory.get address = slot) :
      Uses p address (made ++ [(src, s)]) (((p src).run s).2.memory.get address)

section
variable {label : Option Text} {factory : Nat → Except Fault (ParserT (Eval ω) α)}

theorem Slot.After.step {uses : Nat} {s : Session ω}
    (hkeeps : ∀ call q, factory call = .ok q → q.KeepsReady address)
    (h : Slot.After factory uses (s.memory.get address)) (src : Text) :
    Slot.After factory (uses + 1)
      (((ParserT.delayed address label factory src).run s).2.memory.get address) := by
  generalize hslot : s.memory.get address = slot at h
  cases h with
  | pending hnone =>
    cases hcall : factory uses with
    | ok q =>
      have hget := (s.get_called address address label (.ready uses)).trans (if_pos rfl)
      rw [ParserT.run_delayed_of_ok hslot hcall, hkeeps uses q hcall src _ uses hget]
      exact .ready (Nat.lt_succ_self uses) hcall hnone
    | error f =>
      rw [ParserT.run_delayed_of_error hslot hcall, Session.get_called, if_pos rfl]
      refine .pending fun k hk q hq => ?_
      rcases Nat.lt_succ_iff_lt_or_eq.1 hk with hlt | rfl
      · exact hnone k hlt q hq
      · cases hcall.symm.trans hq
  | @ready call q hlt hq hnone =>
    rw [ParserT.run_delayed_of_ready hslot hq, hkeeps call q hq src s call hslot]
    exact .ready (Nat.lt_succ_of_lt hlt) hq hnone

theorem Uses.after {made : List (Text × Session ω)} {slot : Slot}
    (hkeeps : ∀ call q, factory call = .ok q → q.KeepsReady address)
    (hmade : Uses (.delayed address label factory) address made slot) :
    Slot.After factory made.length slot := by
  induction hmade with
  | none => exact .pending fun k hk => absurd hk (Nat.not_lt_zero k)
  | next _ src s hs ih =>
    rw [List.length_append]
    exact (hs ▸ ih).step hkeeps src

theorem Slot.After.eq_of_returned {uses : Nat} {slot : Slot} (h : Slot.After factory uses slot)
    {call : Nat} {q : ParserT (Eval ω) α} (hcall : call < slot.calls)
    (hq : factory call = .ok q) : slot = .ready call := by
  cases h with
  | pending hnone => exact absurd hq (hnone call hcall q)
  | ready _ _ hnone =>
    rcases Nat.lt_succ_iff_lt_or_eq.1 hcall with hlt | rfl
    · exact absurd hq (hnone call hlt q)
    · rfl

theorem Slot.After.eq_of_noneReturns {uses : Nat} {slot : Slot}
    (h : Slot.After factory uses slot) (hnone : NoneReturns factory slot.calls) :
    slot = .pending uses := by
  cases h with
  | pending _ => rfl
  | @ready call q _ hq _ => exact absurd hq (hnone call (Nat.lt_succ_self call) q)

end

/-- A grammar is built without calling the factories of its delayed parsers. As long as no call has
returned, each use makes one, passes its fault on or goes on with the parser that it returns. From
then on a use is a use of that parser, in the session as it is, and so at most one call returns. The
parsers are only asked not to forget what was returned, and those that a grammar builds do not. -/
theorem delayed_calls_factory_until_it_returns :
    (∀ (name : Text) (body : Grammar) (resolve : Resolver) (a : Address),
      (Grammar.delayed name body).build resolve a =
        .ok (.delayed a (some name) fun _ => body.build resolve (0 :: a))) ∧
    (∀ (g : Grammar) (rules : Rules) (depth : Nat) (a address : Address) (p : ValueParser),
      g.build (rules.resolve depth) a = .ok p → p.KeepsReady address) ∧
    ∀ (ω α : Type) (address : Address) (label : Option Text)
      (factory : Nat → Except Fault (ParserT (Eval ω) α)),
      (∀ call q, factory call = .ok q → q.KeepsReady address) →
      ∀ (made : List (Text × Session ω)) (slot : Slot),
      Uses (.delayed address label factory) address made slot →
      (∀ j k q q', j < slot.calls → k < slot.calls → factory j = .ok q → factory k = .ok q' →
        j = k) ∧
      ∀ (src : Text) (s : Session ω), s.memory.get address = slot →
        (NoneReturns factory slot.calls →
          slot.calls = made.length ∧
          (∀ f, factory slot.calls = .error f →
            (ParserT.delayed address label factory src).run s =
              (.error (.fault f), s.called address label (.pending (slot.calls + 1)))) ∧
          ∀ q, factory slot.calls = .ok q →
            (ParserT.delayed address label factory src).run s =
              (q src).run (s.called address label (.ready slot.calls))) ∧
        ∀ call q, call < slot.calls → factory call = .ok q →
          (ParserT.delayed address label factory src).run s = (q src).run s := by
  refine ⟨fun _ _ _ _ => rfl, fun g rules depth a address p h => g.keepsReady rules depth a h, ?_⟩
  intro ω α address label factory hkeeps made slot hmade
  have hafter := hmade.after hkeeps
  refine ⟨fun j k q q' hj hk hq hq' => ?_, fun src s hs => ⟨fun hnone => ?_, ?_⟩⟩
  · have hslot := (hafter.eq_of_returned hj hq).symm.trans (hafter.eq_of_returned hk hq')
    exact Slot.ready.inj hslot
  · obtain rfl := hafter.eq_of_noneReturns hnone
    exact ⟨rfl, fun f hf => ParserT.run_delayed_of_error hs hf,
      fun q hq => ParserT.run_delayed_of_ok hs hq⟩
  · intro call q hcall hq
    exact ParserT.run_delayed_of_ready (hs.trans (hafter.eq_of_returned hcall hq)) hq

def flaky : Nat → Except Fault (ParserT (Eval Char) Char)
  | 0 => .error (.raised ['?'])
  | _ + 1 => .ok fussy

theorem delayed_calls_factory_until_it_returns_flaky :
    ∃ s s' : Session Char, s = Session.called {} [] (some ['f']) (.pending 1) ∧
      s' = s.called [] (some ['f']) (.ready 1) ∧
      (∀ call q, flaky call = .ok q → q.KeepsReady []) ∧
      Uses (.delayed [] (some ['f']) flaky) [] [(['1', '/'], {}), (['1', '/'], s)] (.ready 1) ∧
      s'.memory.get [] = .ready 1 ∧
      (ParserT.delayed [] (some ['f']) flaky ['1', '/']).run {} =
        (.error (.fault (.raised ['?'])), s) ∧
      (ParserT.delayed [] (some ['f']) flaky ['1', '/']).run s = (.ok (.success '1' []), s') ∧
      (ParserT.delayed [] (some ['f']) flaky ['!']).run s' =
        (.error (.fault (.raised [])), s') := by
  have hfussy : BuiltAlike (fun _ _ _ => False) fussy fussy :=
    .orElse (.before (.expect _ _) (.expect _ _))
      (.after (.expect _ _) (.settled fun _ => .throw _))
  have hkeeps : ∀ call q, flaky call = .ok q → q.KeepsReady [] := by
    intro call q hq
    cases call with
    | zero => cases hq
    | succ call =>
      cases hq
      exact hfussy.keepsReady
  obtain ⟨-, -, huses⟩ := delayed_calls_factory_until_it_returns
  let p : ParserT (Eval Char) Char := .delayed [] (some ['f']) flaky
  let s : Session Char := Session.called {} [] (some ['f']) (.pending 1)
  let s' : Session Char := s.called [] (some ['f']) (.ready 1)
  have hempty : ({} : Session Char).memory.get [] = .pending 0 := Memory.get_empty []
  have hs : s.memory.get [] = .pending 1 := (Session.get_called _ _ _ _ _).trans (if_pos rfl)
  have hs' : s'.memory.get [] = .ready 1 := (Session.get_called _ _ _ _ _).trans (if_pos rfl)
  obtain ⟨-, hnext⟩ := huses _ _ [] (some ['f']) flaky hkeeps [] _ .none
  have hfirst : (p ['1', '/']).run {} = (.error (.fault (.raised ['?'])), s) :=
    ((hnext _ _ hempty).1 fun k hk => absurd hk (Nat.not_lt_zero k)).2.1 _ rfl
  have hmade := Uses.none.next (p := p) ['1', '/'] {} hempty
  rw [hfirst, hs] at hmade
  obtain ⟨-, hnext⟩ := huses _ _ [] (some ['f']) flaky hkeeps _ _ hmade
  have hnone : NoneReturns flaky (Slot.pending 1).calls := by
    intro k hk q hq
    obtain rfl : k = 0 := Nat.lt_one_iff.1 hk
    cases hq
  have hsecond : (p ['1', '/']).run s = (.ok (.success '1' []), s') :=
    (((hnext _ s hs).1 hnone).2.2 fussy rfl).trans rfl
  have hmade := hmade.next ['1', '/'] s hs
  rw [hsecond, hs'] at hmade
  obtain ⟨-, hnext⟩ := huses _ _ [] (some ['f']) flaky hkeeps _ _ hmade
  have hthird : (p ['!']).run s' = (.error (.fault (.raised [])), s') :=
    ((hnext _ s' hs').2 1 fussy (Nat.lt_succ_self 1) rfl).trans rfl
  exact ⟨s, s', rfl, rfl, hkeeps, hmade, hs', hfirst, hsecond, hthird⟩

end Descent
