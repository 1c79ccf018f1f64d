import Descent.Proofs.Contracts
import Descent.Proofs.Integer

/-!
# What a nested parser leaves, and why it may stop

A nested parser keeps to every contract that asks nothing of the session and covers what the leaves,
functions and factories of its grammar do. What it leaves and which faults pass through it follow
for two such contracts: both say that an end of the text is left, one allows every stop, and the
other one only a run of digits that is too long.
-/

namespace Descent

variable {ω α : Type} {b : Basis ω} {C : Contract ω} {p : ParserT (Eval ω) α}

/-- Reasons for which the parse of a text may stop. One on an end of a text is one on the text. -/
structure Excuse where
  allows : Text → Stop → Prop
  of_suffix : ∀ {src rest : Text} {stop : Stop}, rest <:+ src → allows rest stop → allows src stop

def Contract.leavingEnds (ex : Excuse) : Contract ω where
  holds _ := True
  leaves src rest := rest <:+ src
  allows := ex.allows
  recorded _ _ := trivial
  called _ _ _ _ := trivial
  of_suffix h := h
  trans hmid hrest := hrest.trans hmid
  allows_of_left := ex.of_suffix

theorem ParserT.meets_leavingEnds_iff {ex : Excuse} : p.Meets (.leavingEnds ex) ↔
    ∀ src, (p src).Ends (Result.Leaves (· <:+ src)) (ex.allows src) :=
  forall_congr' fun _ => Eval.endsWithin_true_iff

theorem ParserT.Meets.leavesSuffix {ex : Excuse} (hp : p.Meets (.leavingEnds ex)) :
    p.LeavesSuffix := fun src _ _ _ _ hr =>
  (ParserT.meets_leavingEnds_iff.1 hp src).of_ok hr

theorem ParserT.meets_integer (h : ∀ src stop, src.IsDigitLimit stop → C.allows src stop) :
    (.integer : ParserT (Eval ω) Int).Meets C := by
  intro src
  refine (integer_settles src).endsWithin.mono (fun r hr => ?_) (h src)
  cases r with
  | failure e => trivial
  | success n rest =>
    obtain ⟨w, -, rfl⟩ := hr
    exact C.of_suffix (List.suffix_append w rest)

/-- Nothing is asked of the session, and everything that a grammar over `b` may stop for is
allowed. -/
structure Contract.Covers (C : Contract ω) (b : Basis ω) : Prop where
  holds : ∀ s, C.holds s
  tooDeep : ∀ src, C.allows src .tooDeep
  fault : ∀ f, b.mayRaise f → ∀ src, C.allows src (.fault f)
  digits : b.readsIntegers → ∀ src stop, src.IsDigitLimit stop → C.allows src stop

theorem Contract.Covers.respects (hC : C.Covers b) {x : Eval ω α} (hx : x.RaisesOnly b.mayRaise)
    (src : Text) : x.Respects C src := fun s _ =>
  ⟨hC.holds _, hx.ends (fun f hf => hC.fault f hf src) (hC.tooDeep src) s⟩

theorem Contract.Covers.leaf (hC : C.Covers b) (h : b.isLeaf p) : p.Meets C := by
  intro src s _
  refine ⟨hC.holds _, ?_⟩
  cases hr : (p src).run s with
  | mk outcome t =>
    cases outcome with
    | error stop =>
      cases stop with
      | fault f => exact hC.fault f (b.raisesOnly h src s f t hr) src
      | tooDeep => exact hC.tooDeep src
    | ok r =>
      cases r with
      | success v rest => exact C.of_suffix (b.leavesSuffix h src s v rest t hr)
      | failure e => trivial

theorem Nested.meets (hC : C.Covers b) (hp : Nested b p) : p.Meets C := by
  induction hp with
  | leaf h => exact hC.leaf h
  | tooDeep => exact fun src => .throw (hC.tooDeep src)
  | pure v => exact ParserT.meets_pure v
  | fail message => exact ParserT.meets_fail message
  | lift hx => exact ParserT.meets_lift (hC.respects hx)
  | satisfy test mismatch atEnd => exact ParserT.meets_satisfy test mismatch atEnd
  | matching pattern => exact ParserT.meets_matching pattern
  | integer h => exact ParserT.meets_integer (hC.digits h)
  | bind _ _ ihp ihnext => exact ihp.bind ihnext
  | ofExcept _ herror ih => exact ParserT.meets_ofExcept ih fun f hf => hC.fault f (herror f hf)
  | map f _ ih => exact ih.map f
  | mapM _ hf ih => exact ih.mapM fun v hv => hC.respects (hf v hv)
  | after _ _ ihp ihq => exact ihp.after ihq
  | before _ _ ihp ihq => exact ihp.before ihq
  | pair _ _ ihp ihq => exact ihp.pair ihq
  | apply _ _ hcall ihf ihp => exact ihf.apply ihp fun g v hg hv => hC.respects (hcall g v hg hv)
  | orElse _ _ ihp ihq => exact ihp.orElse ihq
  | guarded _ _ ihp ihq => exact ihp.guarded ihq
  | notAhead message _ ih => exact ih.notAhead message
  | notAheadM _ hm ih => exact ih.notAheadM fun v hv => hC.respects (hm v hv)
  | lookahead _ ih => exact ih.lookahead
  | optional _ ih => exact ih.optional
  | withDefault default _ ih => exact ih.withDefault default
  | many _ ih => exact ih.many
  | many1 _ ih => exact ih.many1
  | sequence _ ih => exact ParserT.meets_sequence ih
  | times n _ ih => exact ih.times n
  | delayed address label _ herror ih =>
    exact ParserT.meets_delayed address label ih fun call f hf => hC.fault f (herror call f hf)
  | probe name view _ ih => exact ih.probe name view

def Excuse.any : Excuse := ⟨fun _ _ => True, fun _ _ => trivial⟩

theorem Excuse.any_covers (b : Basis ω) : (Contract.leavingEnds any).Covers b :=
  ⟨fun _ => trivial, fun _ => trivial, fun _ _ _ => trivial, fun _ _ _ _ => trivial⟩

theorem Nested.leavesSuffix (hp : Nested b p) : p.LeavesSuffix :=
  (hp.meets (Excuse.any_covers b)).leavesSuffix

def Excuse.digitLimit (readsIntegers : Prop) : Excuse where
  allows src stop := stop = .tooDeep ∨ readsIntegers ∧ src.IsDigitLimit stop
  of_suffix h := Or.imp_right fun ⟨hi, n, hn, hrun, hstop⟩ =>
    ⟨hi, n, hn, hrun.of_suffix h, hstop⟩

theorem Excuse.digitLimit_covers (hquiet : ∀ f, ¬ b.mayRaise f) :
    (Contract.leavingEnds (digitLimit b.readsIntegers)).Covers b :=
  ⟨fun _ => trivial, fun _ => .inl rfl, fun f hf => (hquiet f hf).elim,
    fun h _ _ hs => .inr ⟨h, hs⟩⟩

/-- No fault gets out of a parse that ends, the limit on digits apart. -/
theorem run_eq_ok_or_digitLimit (hquiet : ∀ f, ¬ b.mayRaise f) (hp : Nested b p) {src : Text}
    {s t : Session ω} {outcome : Except Stop (Result α)} (hrun : (p src).run s = (outcome, t))
    (hdeep : outcome ≠ .error .tooDeep) :
    ((∃ r, outcome = .ok r) ∨ b.readsIntegers ∧ ∃ n, maxDigits < n ∧ src.HasDigitRun n ∧
      outcome = .error (.fault (.tooManyDigits n))) ∧
    (¬ b.readsIntegers → ∃ r, outcome = .ok r) := by
  have hends := ParserT.meets_leavingEnds_iff.1 (hp.meets (Excuse.digitLimit_covers hquiet)) src
  cases outcome with
  | ok r => exact ⟨.inl ⟨r, rfl⟩, fun _ => ⟨r, rfl⟩⟩
  | error stop =>
    rcases hends.of_error hrun with rfl | ⟨hi, n, hn, hd, rfl⟩
    · exact absurd rfl hdeep
    · exact ⟨.inr ⟨hi, n, hn, hd, rfl⟩, fun hno => absurd hi hno⟩

def Basis.quiet (ω : Type) : Basis ω where
  isLeaf _ := False
  mayRaise _ := False
  readsIntegers := True
  leavesSuffix h := h.elim
  raisesOnly h := h.elim

def integerOrZero : ParserT (Eval Unit) Int := .withDefault 0 .integer

theorem run_eq_ok_or_digitLimit_integerOrZero :
    (integerOrZero (List.replicate (maxDigits + 1) '7')).run {} =
      (.error (.fault (.tooManyDigits (maxDigits + 1))), {}) ∧
    ∃ n, maxDigits < n ∧ Text.HasDigitRun (List.replicate (maxDigits + 1) '7') n := by
  have hp : Nested (.quiet Unit) integerOrZero := .withDefault 0 (.integer trivial)
  have hd : ∀ d ∈ '7' :: List.replicate maxDigits '7', Alphabet.decimal.contains d = true := by
    intro d hd
    rw [← List.replicate_succ] at hd
    rw [List.eq_of_mem_replicate hd]
    decide
  have hlong : maxDigits < ('7' :: List.replicate maxDigits '7').length := by
    rw [List.length_cons, List.length_replicate]
    exact Nat.lt_succ_self maxDigits
  have hint : (ParserT.integer ('7' :: (List.replicate maxDigits '7' ++ [])) :
      Eval Unit (Result Int)) = _ :=
    ParserT.integer_of_long_run (by decide) hd (by simp) hlong
  rw [List.length_cons, List.length_replicate, List.append_nil, ← List.replicate_succ] at hint
  have hrun : (integerOrZero (List.replicate (maxDigits + 1) '7')).run {} =
      (.error (.fault (.tooManyDigits (maxDigits + 1))), {}) := by
    rw [integerOrZero, ParserT.withDefault, hint]
    rfl
  obtain ⟨⟨r, hr⟩ | ⟨-, n, hn, h, -⟩, -⟩ :=
    run_eq_ok_or_digitLimit (fun _ => id) hp hrun (by simp)
  · cases hr
  · exact ⟨hrun, n, hn, h⟩

end Descent
