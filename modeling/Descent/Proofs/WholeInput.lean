import Mathlib.Logic.ExistsUnique
import Descent.Complete
import Descent.Proofs.Safety

/-!
# Reading a text to its end

A text can be required to be read as a whole in two ways: by `parseAll`, which compares lengths, and
by a parser with `endOfInput` behind it. They accept the same texts with the same values. Where
something is left over, the position in the one error and the character in the other message are
those of the same place, which is where the rest begins.
-/

namespace Descent

variable {ω α : Type}

theorem exists_position_of_isSuffix {src rest : Text} {c : Char} (h : c :: rest <:+ src) :
    ∃ pos : Nat, (src.length : Int) - (c :: rest).length = pos ∧ pos < src.length ∧
      src.drop pos = c :: rest ∧ src[pos]? = some c := by
  obtain ⟨front, rfl⟩ := h
  refine ⟨front.length, by simp, by simp, List.drop_left, ?_⟩
  simp

def Excuse.none : Excuse := ⟨fun _ _ => False, fun _ h => h⟩

namespace Result

def requireEnd : Result α → Result α
  | success v [] => success v []
  | success _ (c :: _) => failure (ParserT.wanted ParserT.endName (some c))
  | failure e => failure e

end Result

namespace ParserT

theorem wanted_endName (c : Char) : wanted endName (some c) =
    Text.ofString "Expected end of input but got " ++ Text.quote [c] := rfl

theorem endOfInput_nil : (endOfInput : ParserT (Eval ω) Text) [] = pure (.success [] []) := rfl

theorem endOfInput_cons (c : Char) (rest : Text) :
    (endOfInput : ParserT (Eval ω) Text) (c :: rest) =
      pure (.failure (wanted endName (some c))) := rfl

def AlwaysAnswers (p : ParserT (Eval ω) α) : Prop :=
  ∀ src, (p src).Ends (fun _ => True) fun _ => False

theorem Meets.alwaysAnswers {p : ParserT (Eval ω) α} (hp : p.Meets (.leavingEnds .none)) :
    p.AlwaysAnswers := fun src =>
  (meets_leavingEnds_iff.1 hp src).mono (fun _ _ => trivial) fun _ h => h

variable {p : ParserT (Eval ω) α} {src : Text} {s t : Session ω} {r : Result α}

theorem run_parseAll (h : (p src).run s = (.ok r, t)) :
    (p.parseAll src).run s = (.ok (.ofResult src r), t) := by
  rw [parseAll, Eval.run_bind, h]
  rfl

theorem run_before_endOfInput (h : (p src).run s = (.ok r, t)) :
    (before p endOfInput src).run s = (.ok r.requireEnd, t) := by
  rw [before, Eval.run_bind, h]
  cases r with
  | success v rest =>
    cases rest with
    | nil =>
      change (endOfInput (m := Eval ω) [] >>= _).run t = _
      rw [endOfInput_nil, pure_bind]
      rfl
    | cons c rest =>
      change (endOfInput (m := Eval ω) (c :: rest) >>= _).run t = _
      rw [endOfInput_cons, pure_bind]
      rfl
  | failure e => rfl

theorem run_parseAll_probe (name : Text) (view : α → ω)
    (h : (p src).run { s with trace := s.trace.push (.entered name src) } = (.ok r, t)) :
    ((probe name view p).parseAll src).run s = (.ok (.ofResult src r),
      { t with trace := t.trace.push (.left name (r.map view)) }) := by
  refine run_parseAll ?_
  simp only [probe, Eval.run_bind, Eval.run_record, h, Eval.run_pure]

end ParserT

inductive Ending where
  | whole
  | failed
  | unfinished

def Ending.Of (r required : Result α) : Ending → Prop
  | whole => ∃ v, required = .success v []
  | failed => ∃ e, r = .failure e
  | unfinished => ∃ v rest, r = .success v rest ∧ rest ≠ []

structure ParseError.StopsAt (src rest : Text) (pos : Nat) (e : ParseError) : Prop where
  source_eq : e.source = some src
  position_eq : e.position = some (pos : Int)
  lt_length : pos < src.length
  drop_eq : src.drop pos = rest
  reason_eq : e.reason = Text.ofString "Expected end of input but " ++ Text.decimal rest.length ++
    Text.ofString " characters remain"

/-- A text was read as a whole in the same way as with its end required. -/
structure Completion.Agrees (src : Text) (r required : Result α) (c : Completion α) : Prop where
  returns_iff : ∀ v, c = ⟨.ok v, []⟩ ↔ required = .success v []
  log_of_ok : ∀ v, c.outcome = .ok v → c.log = []
  of_failure : ∀ e, r = .failure e →
    c.outcome = .error ⟨e, some src, none, []⟩ ∧ c.log = [Text.ofString "parse failed: " ++ e]
  of_rest : ∀ v rest, r = .success v rest → rest ≠ [] →
    ∃ (pos : Nat) (e : ParseError) (next : Char),
      c.outcome = .error e ∧ e.StopsAt src rest pos ∧ c.log.length = 1 ∧ src[pos]? = some next ∧
      required = .failure (Text.ofString "Expected end of input but got " ++ Text.quote [next])
  one_ending : ∃! ending, Ending.Of r required ending

namespace Result

def ending : Result α → Ending
  | success _ [] => .whole
  | success _ (_ :: _) => .unfinished
  | failure _ => .failed

theorem ending_of_iff (r : Result α) (e : Ending) : e.Of r r.requireEnd ↔ e = r.ending := by
  rcases r with ⟨v, _ | ⟨c, rest⟩⟩ | message <;> cases e <;>
    simp [Ending.Of, requireEnd, ending, and_assoc]

theorem agrees_ofResult {src : Text} {r : Result α} (h : r.Leaves (· <:+ src)) :
    (Completion.ofResult src r).Agrees src r r.requireEnd where
  returns_iff w := by
    rcases r with ⟨v, _ | ⟨c, rest⟩⟩ | message <;>
      simp [Completion.ofResult, Completion.failed, Completion.unfinished, requireEnd]
  log_of_ok w hw := by
    rcases r with ⟨v, _ | ⟨c, rest⟩⟩ | message
    · rfl
    · cases hw
    · cases hw
  of_failure e he := by
    subst he
    exact ⟨congrArg Except.error (ParseError.report_of_position_none e (some src)), rfl⟩
  of_rest v rest hr hrest := by
    subst hr
    obtain ⟨c, rest, rfl⟩ := List.exists_cons_of_ne_nil hrest
    -- The difference of the lengths is a position in the text, since the rest is an end of it.
    obtain ⟨pos, hpos, hlt, hdrop, hc⟩ := exists_position_of_isSuffix h
    refine ⟨pos, _, c, rfl, ?_, rfl, hc, congrArg failure (ParserT.wanted_endName c)⟩
    exact ⟨rfl, congrArg some hpos, hlt, hdrop, rfl⟩
  one_ending := ⟨r.ending, (ending_of_iff r _).2 rfl, fun e he => (ending_of_iff r e).1 he⟩

end Result

/-- Parsing a text as a whole agrees with requiring its end, for a parser that always answers and
leaves an end of what it is given. The parser is run once. -/
theorem parseAll_agrees {p : ParserT (Eval ω) α} (hsuffix : p.LeavesSuffix)
    (hanswers : p.AlwaysAnswers) (src : Text) (s : Session ω) :
    (∃ r required c t, (p src).run s = (.ok r, t) ∧
      (ParserT.before p .endOfInput src).run s = (.ok required, t) ∧
      (p.parseAll src).run s = (.ok c, t) ∧ c.Agrees src r required) ∧
    ∀ (name : Text) (view : α → ω), ∃ r t,
      (p src).run { s with trace := s.trace.push (.entered name src) } = (.ok r, t) ∧
      ((ParserT.probe name view p).parseAll src).run s = (.ok (.ofResult src r),
        { t with trace := t.trace.push (.left name (r.map view)) }) := by
  refine ⟨?_, fun name view => ?_⟩
  · obtain ⟨r, t, hr, -⟩ := (hanswers src).exists_ok s
    have hleaves : r.Leaves (· <:+ src) := by
      cases r with
      | success v rest => exact hsuffix src s v rest t hr
      | failure e => trivial
    exact ⟨r, r.requireEnd, _, t, hr, ParserT.run_before_endOfInput hr, ParserT.run_parseAll hr,
      Result.agrees_ofResult hleaves⟩
  · obtain ⟨r, t, hr, -⟩ :=
      (hanswers src).exists_ok { s with trace := s.trace.push (.entered name src) }
    exact ⟨r, t, hr, ParserT.run_parseAll_probe name view hr⟩

theorem meets_text {C : Contract ω} (t : Text) : (ParserT.text t).Meets C :=
  ParserT.meets_sequence (List.forall_mem_map.2 fun _ _ => ParserT.meets_satisfy _ _ _)

theorem parseAll_agrees_text :
    (ParserT.text ['a', 'b'] : ParserT (Eval Unit) Text).LeavesSuffix ∧
    (ParserT.text ['a', 'b'] : ParserT (Eval Unit) Text).AlwaysAnswers ∧
    ∃ (p : ParserT (Eval Unit) Text) (required : Result Text) (c : Completion Text),
      p = .text ['a', 'b'] ∧
      (ParserT.before p .endOfInput ['a', 'b', 'c']).run {} = (.ok required, {}) ∧
      (p.parseAll ['a', 'b', 'c']).run {} = (.ok c, {}) ∧
      c.Agrees ['a', 'b', 'c'] (.success ['a', 'b'] ['c']) required := by
  have hsuffix : (ParserT.text ['a', 'b'] : ParserT (Eval Unit) Text).LeavesSuffix :=
    ParserT.Meets.leavesSuffix (meets_text (C := .leavingEnds .none) _)
  have hanswers : (ParserT.text ['a', 'b'] : ParserT (Eval Unit) Text).AlwaysAnswers :=
    (meets_text _).alwaysAnswers
  obtain ⟨r, required, c, t, hr, hrequired, hc, hagrees⟩ :=
    (parseAll_agrees hsuffix hanswers ['a', 'b', 'c'] {}).1
  have hrun : (ParserT.text ['a', 'b'] ['a', 'b', 'c'] : Eval Unit (Result Text)).run {} =
      (.ok (.success ['a', 'b'] ['c']), {}) := rfl
  rw [hrun] at hr
  cases hr
  exact ⟨hsuffix, hanswers, _, required, c, rfl, hrequired, hc, hagrees⟩

end Descent
