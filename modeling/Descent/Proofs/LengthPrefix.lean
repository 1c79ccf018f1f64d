import Descent.Proofs.Counting
import Descent.Proofs.Integer

/-!
# Texts with their length in front

A number and a colon say how many characters follow. The number picks the parser of what follows it,
so that exactly as many characters are read, whatever they are; where there are fewer the parse
fails, and a negative number is a fault that arises when it has been read. The memory for the list
of parsers is a parameter here, and the grammar is run with the memory that there is.
-/

namespace Descent.LengthPrefix

open ParserT

variable {ω : Type}

/-- Below this number a list of so many entries is made where there is memory for it. -/
def maxEntries : Nat := 0x800000000000000

def counted (room : Nat) : ParserT (Eval ω) Text :=
  .bind (before integer (char ':')) fun n => .ofExcept (timesWithin? room n anyChar)

def grammar : Grammar := .bind (.before .integer (.char [':'])) (.times .anyChar)

theorem length_decimal_le {n : Nat} (h : n < maxEntries) :
    (Text.decimal n).length ≤ maxDigits := by
  have hpow : n < 10 ^ 18 := Nat.lt_trans h (by decide)
  have hlen : (Text.decimal n).length ≤ 18 :=
    (Nat.length_toDigits_le_iff (by decide) (by decide)).2 hpow
  exact Nat.le_trans hlen (by decide)

/-! What stands behind the colon. -/

section
variable {m : Type → Type} [Monad m] [LawfulMonad m]

theorem times_anyChar (n : Nat) (src : Text) : times n (anyChar (m := m)) src =
    pure (if n ≤ src.length then .success (src.take n) (src.drop n)
      else .failure (Text.ofString "Expected any character but got end of input")) := by
  induction n generalizing src with
  | zero => rfl
  | succ n ih =>
    rw [times_succ]
    cases src with
    | nil => exact bind_of_failure rfl
    | cons c rest =>
      have hc : anyChar (m := m) (c :: rest) = pure (.success c rest) :=
        expect_of_test (fun _ => true) _ rfl rest
      rw [bind_of_success hc, map_apply, ih, map_pure]
      by_cases h : n ≤ rest.length
      · simp [h, Result.map]
      · simp [h, Result.map]

end

theorem counted_append (room : Nat) {n : Int} (hn : (Text.decimal n.natAbs).length ≤ maxDigits)
    (t : Text) : (counted room (Text.decimal n ++ ':' :: t) : Eval ω (Result Text)) =
      ParserT.ofExcept (timesWithin? room n anyChar) t := by
  have hcolon : ∀ c ∈ (':' :: t).head?, Alphabet.decimal.contains c = false := by
    intro c hc
    cases hc
    decide
  have hinteger : (integer (Text.decimal n ++ ':' :: t) : Eval ω (Result Int)) =
      pure (.success n (':' :: t)) := integer_of_spells (.inl rfl) hn (.inr hcolon)
  have hprefix : (before integer (char ':') (Text.decimal n ++ ':' :: t) :
      Eval ω (Result Int)) = pure (.success n t) := by
    rw [before_eq_bind, bind_of_success hinteger, bind_of_success (char_self ':' t)]
    rfl
  rw [counted, bind_of_success hprefix]

theorem counted_append_natCast {room n : Nat} (hn : n < maxEntries) (hroom : n < room)
    (t : Text) : (counted room (Text.decimal n ++ ':' :: t) : Eval ω (Result Text)) =
      times n anyChar t := by
  have hlength : n < maxLength := Nat.lt_trans hn (by decide)
  have hdigits : (Text.decimal (n : Int).natAbs).length ≤ maxDigits := length_decimal_le hn
  rw [counted_append room hdigits, timesWithin?_natCast hlength hroom]
  rfl

/-! The grammar makes values on the way, and might as well make them in the end. -/

theorem times?_map {α β : Type} (f : α → β) (n : Int) (p : ParserT (Eval ω) α) :
    times? n (.map f p) = (times? n p).map (.map (List.map f)) := by
  unfold times? timesWithin?
  split
  · rfl
  split
  · rfl
  split
  · rfl
  · exact congrArg Except.ok (times_map f n.toNat p)

theorem ofExcept_map {α β : Type} (f : α → β) (p : Except Fault (ParserT (Eval ω) α)) :
    ParserT.ofExcept (p.map (.map f)) = .map f (.ofExcept p) := by
  cases p with
  | ok p => rfl
  | error e => rfl

theorem timesOf_int (n : Int) :
    (ValueParser.timesOf (ValueParser.ofChar anyChar) (.int n)).map ValueParser.ofList =
      (times? n anyChar).map (.map fun t => .list (t.map .ofChar)) := by
  have hcount : ValueParser.timesOf (ValueParser.ofChar anyChar) (.int n) =
      times? n (ValueParser.ofChar anyChar) := rfl
  rw [hcount, ValueParser.ofChar, times?_map]
  cases times? n (anyChar (m := Eval Value)) with
  | error e => rfl
  | ok p =>
    refine congrArg Except.ok ?_
    simp only [ValueParser.ofList, map_eq_bind, ParserT.bind_assoc, ParserT.pure_bind]

theorem before_map_map {α β γ δ : Type} (f : α → γ) (g : β → δ) (p : ParserT (Eval ω) α)
    (q : ParserT (Eval ω) β) : before (.map f p) (.map g q) = .map f (before p q) := by
  simp only [before_eq_bind, map_eq_bind, ParserT.bind_assoc, ParserT.pure_bind]

theorem parser_grammar (rules : Rules) (depth : Nat) : grammar.parser rules depth =
    .ok (.map (fun t => .list (t.map .ofChar)) (counted maxTimes)) := by
  have hbuild : grammar.parser rules depth = .ok
      (.bind (before (ValueParser.ofInt integer) (ValueParser.ofChar (char ':'))) fun v =>
        .ofExcept ((ValueParser.timesOf (ValueParser.ofChar anyChar) v).map
          ValueParser.ofList)) := rfl
  rw [hbuild, ValueParser.ofInt, ValueParser.ofChar, before_map_map, map_eq_bind,
    ParserT.bind_assoc]
  refine congrArg Except.ok ?_
  rw [counted, map_eq_bind, ParserT.bind_assoc]
  refine congrArg _ (funext fun n => ?_)
  rw [ParserT.pure_bind, ← map_eq_bind]
  exact (congrArg ParserT.ofExcept (timesOf_int n)).trans (ofExcept_map _ _)

/-- As many characters as are announced are read, or the parse fails where the text ends before. A
negative number is a fault of the parse and not of the grammar. -/
theorem counted_reads_exactly :
    (∀ (room : Nat) (s rest : Text), s.length < maxEntries → s.length < room →
      (counted room (Text.decimal s.length ++ ':' :: (s ++ rest)) : Eval ω (Result Text)) =
        pure (.success s rest)) ∧
    (∀ (room n : Nat) (t : Text), n < maxEntries → n < room → t.length < n →
      (counted room (Text.decimal n ++ ':' :: t) : Eval ω (Result Text)) =
        pure (.failure (Text.ofString "Expected any character but got end of input"))) ∧
    (∀ (room : Nat) (n : Int) (t : Text), n < 0 →
      (Text.decimal n.natAbs).length ≤ maxDigits →
      (counted room (Text.decimal n ++ ':' :: t) : Eval ω (Result Text)) =
        throwThe Stop (.fault .negativeCount)) ∧
    ∀ (rules : Rules) (depth : Nat), grammar.parser rules depth =
      .ok (.map (fun t => .list (t.map .ofChar)) (counted maxTimes)) := by
  refine ⟨fun room s rest hs hroom => ?_, fun room n t hn hroom ht => ?_,
    fun room n t hn hdigits => ?_, parser_grammar⟩
  · rw [counted_append_natCast hs hroom, times_anyChar, if_pos (by simp), List.take_left,
      List.drop_left]
  · rw [counted_append_natCast hn hroom, times_anyChar, if_neg (Nat.not_le.2 ht)]
  · rw [counted_append room hdigits, timesWithin?_of_neg room hn]
    rfl

theorem counted_reads_exactly_nested :
    (counted maxTimes ['3', ':', '1', ':', '\n', '7'] : Eval Value (Result Text)) =
      pure (.success ['1', ':', '\n'] ['7']) ∧
    (counted maxTimes ['2', ':', 'a'] : Eval Value (Result Text)) =
      pure (.failure (Text.ofString "Expected any character but got end of input")) ∧
    (counted maxTimes ['-', '2', ':', 'a', 'b'] : Eval Value (Result Text)) =
      throwThe Stop (.fault .negativeCount) ∧
    ∃ p, grammar.parser [] 0 = .ok p ∧ p ['3', ':', '1', ':', '\n', '7'] =
      pure (.success (.list [.text ['1'], .text [':'], .text ['\n']]) ['7']) := by
  obtain ⟨hread, hshort, hnegative, hgrammar⟩ := counted_reads_exactly (ω := Value)
  have hthree : (counted maxTimes ['3', ':', '1', ':', '\n', '7'] : Eval Value (Result Text)) =
      pure (.success ['1', ':', '\n'] ['7']) :=
    hread maxTimes ['1', ':', '\n'] ['7'] (by decide) (by decide)
  have hminus : Text.decimal (-2) ++ ':' :: ['a', 'b'] = ['-', '2', ':', 'a', 'b'] := by decide
  refine ⟨hthree, hshort maxTimes 2 ['a'] (by decide) (by decide) (by decide),
    hminus ▸ hnegative maxTimes (-2) ['a', 'b'] (by decide) (by decide), _, hgrammar [] 0, ?_⟩
  rw [map_apply, hthree, map_pure]
  rfl

end Descent.LengthPrefix
