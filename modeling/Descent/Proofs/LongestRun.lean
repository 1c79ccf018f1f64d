import Mathlib.Logic.ExistsUnique
import Descent.Proofs.Integer
import Descent.Proofs.Pieces

/-!
# Longest runs

A repeated one-character test takes the longest prefix of the text that is made of characters that
pass, whatever the test is. It takes each character once and stops at the first one that does not
pass, or at the end. Blanks, the digits of an integer and what is in front of a given character are
read in this way.
-/

namespace Descent

namespace Text

/-- The front `run` of `src` is made of characters that pass, and no longer front is. -/
structure IsLongestRun (test : Char → Bool) (src run : Text) : Prop where
  front : run <+: src
  passes : ∀ c ∈ run, test c = true
  longest : ∀ other, other <+: src → (∀ c ∈ other, test c = true) → other.length ≤ run.length

variable {test : Char → Bool} {src run run' : Text}

theorem isLongestRun_takeWhile (test : Char → Bool) (src : Text) :
    IsLongestRun test src (src.takeWhile test) where
  front := List.takeWhile_prefix test
  passes := List.all_eq_true.1 List.all_takeWhile
  longest := by
    rintro other ⟨rest, rfl⟩ hpass
    rw [List.takeWhile_append_of_pos hpass, List.length_append]
    exact Nat.le_add_right _ _

theorem IsLongestRun.unique (h : IsLongestRun test src run) (h' : IsLongestRun test src run') :
    run = run' := by
  have hlength : run.length = run'.length :=
    Nat.le_antisymm (h'.longest run h.front h.passes) (h.longest run' h'.front h'.passes)
  exact (List.prefix_of_prefix_length_le h.front h'.front (Nat.le_of_eq hlength)).eq_of_length
    hlength

theorem isLongestRun_iff : IsLongestRun test src run ↔ run = src.takeWhile test := by
  constructor
  · intro h
    exact h.unique (isLongestRun_takeWhile test src)
  · rintro rfl
    exact isLongestRun_takeWhile test src

theorem existsUnique_isLongestRun (test : Char → Bool) (src : Text) :
    ∃! run, IsLongestRun test src run :=
  ⟨_, isLongestRun_takeWhile test src, fun _ h => isLongestRun_iff.1 h⟩

theorem isLongestRun_nil_iff :
    IsLongestRun test src [] ↔ ∀ c ∈ src.head?, test c = false := by
  rw [isLongestRun_iff]
  cases src with
  | nil => simp
  | cons c rest => cases hc : test c <;> simp [hc]

theorem isLongestRun_append {rest : Text} (hrun : ∀ c ∈ run, test c = true)
    (hstop : ∀ c ∈ rest.head?, test c = false) : IsLongestRun test (run ++ rest) run :=
  isLongestRun_iff.2 (span_append hrun hstop).1.symm

end Text

namespace ParserT

open Text (IsLongestRun)

section
variable {m : Type → Type} [Monad m]

/-- What a repetition and one that has to match once make of the longest run: they take it, or fail
with the message for what stands there instead. -/
structure TakeLongestRun (test : Char → Bool) (message : Option Char → Text)
    (zeroOrMore oneOrMore : ParserT m Text) : Prop where
  zeroOrMore_eq : ∀ src run, IsLongestRun test src run →
    zeroOrMore src = pure (.success run (src.drop run.length))
  oneOrMore_eq : ∀ src run, IsLongestRun test src run → run ≠ [] →
    oneOrMore src = pure (.success run (src.drop run.length))
  oneOrMore_eq_failure : ∀ src, IsLongestRun test src [] →
    oneOrMore src = pure (.failure (message src.head?))

def headMessage (mismatch : Char → Text) (atEnd : Text) : Option Char → Text
  | none => atEnd
  | some c => mismatch c

theorem satisfy_of_head {test : Char → Bool} (mismatch : Char → Text) (atEnd : Text) {src : Text}
    (h : ∀ c ∈ src.head?, test c = false) : satisfy (m := m) test mismatch atEnd src =
      pure (.failure (headMessage mismatch atEnd src.head?)) := by
  cases src with
  | nil => rfl
  | cons c rest => exact satisfy_of_not_test test mismatch atEnd (h c rfl) rest

variable [LawfulMonad m]

theorem takeLongestRun_satisfy (test : Char → Bool) (mismatch : Char → Text) (atEnd : Text) :
    TakeLongestRun (m := m) test (headMessage mismatch atEnd)
      (many (satisfy test mismatch atEnd)) (many1 (satisfy test mismatch atEnd)) where
  zeroOrMore_eq src run h := by
    rw [Text.isLongestRun_iff.1 h, Text.drop_length_takeWhile]
    exact many_satisfy test mismatch atEnd src
  oneOrMore_eq src run h hne := by
    rw [Text.isLongestRun_iff] at h
    cases src with
    | nil => exact absurd h hne
    | cons c rest =>
      cases hc : test c with
      | false =>
        rw [List.takeWhile_cons_of_neg (by simp [hc])] at h
        exact absurd h hne
      | true =>
        rw [h, Text.drop_length_takeWhile, List.takeWhile_cons_of_pos hc,
          List.dropWhile_cons_of_pos hc]
        exact many1_satisfy_of_test test mismatch atEnd hc rest
  oneOrMore_eq_failure src h :=
    many1_of_failure (satisfy_of_head mismatch atEnd (Text.isLongestRun_nil_iff.1 h))

theorem headMessage_wanted (what : Text) :
    headMessage (fun c => wanted what (some c)) (wanted what none) = wanted what := by
  funext head
  cases head <;> rfl

theorem takeLongestRun_expect (what : Text) (test : Char → Bool) :
    TakeLongestRun (m := m) test (wanted what) (many (expect what test))
      (many1 (expect what test)) := by
  rw [← headMessage_wanted what]
  exact takeLongestRun_satisfy test _ _

theorem upTo_of_isLongestRun {c : Char} {src body : Text} (h : IsLongestRun (· != c) src body) :
    upTo (m := m) c src = pure (if c ∈ src then .success body (src.drop body.length)
      else .failure (wanted (Text.quote [c]) none)) := by
  by_cases hc : c ∈ src
  · obtain ⟨front, rest, rfl, hfront⟩ := List.eq_append_cons_of_mem hc
    have hstop : ∀ d ∈ (c :: rest).head?, (d != c) = false := by simp
    obtain rfl := h.unique (Text.isLongestRun_append (Text.bne_of_not_mem hfront) hstop)
    rw [if_pos hc, List.drop_left]
    exact upTo_append hfront rest
  · rw [if_neg hc]
    exact upTo_of_not_mem hc

end

variable {ω : Type}

theorem integer_of_isLongestRun {src digits : Text}
    (h : IsLongestRun Alphabet.decimal.contains src.unsigned digits) (hne : digits ≠ [])
    (h0 : digits.head? ≠ some '0') : (integer src : Eval ω (Result Int)) =
      if digits.length ≤ maxDigits then
        pure (.success (src.signed (Text.decimalValue digits)) (src.unsigned.drop digits.length))
      else throwThe Stop (.fault (.tooManyDigits digits.length)) := by
  obtain ⟨c, more, rfl⟩ := List.exists_cons_of_ne_nil hne
  obtain ⟨rest, hsrc⟩ := h.front
  have hc : Alphabet.decimal.contains c = true := h.passes c List.mem_cons_self
  have hzero : c ≠ '0' := fun hc => h0 (congrArg some hc)
  rw [integer_of_digit hsrc.symm hzero hc, ← Text.isLongestRun_iff.1 h, readDigits]
  by_cases hlength : (c :: more).length ≤ maxDigits
  · rw [if_pos hlength, if_neg (Nat.not_lt.2 hlength), pure_bind]
  · rw [if_neg hlength, if_pos (Nat.not_le.1 hlength)]
    rfl

/-- Every text has one longest run of characters that pass a test, and repeating the test takes it:
blanks, the digits of an integer that does not begin with a zero, and the text in front of a
character that has to follow. -/
theorem repeated_test_takes_longest_run :
    (∀ test src, ∃! run, IsLongestRun test src run) ∧
    (∀ test mismatch atEnd,
      TakeLongestRun (m := Eval ω) test (headMessage mismatch atEnd)
        (many (satisfy test mismatch atEnd)) (many1 (satisfy test mismatch atEnd))) ∧
    TakeLongestRun (m := Eval ω) Alphabet.blanks.contains
      (wanted (Text.ofString "whitespace")) blanks blanks1 ∧
    (∀ src digits, IsLongestRun Alphabet.decimal.contains src.unsigned digits → digits ≠ [] →
      digits.head? ≠ some '0' → (integer src : Eval ω (Result Int)) =
        if digits.length ≤ maxDigits then
          pure (.success (src.signed (Text.decimalValue digits))
            (src.unsigned.drop digits.length))
        else throwThe Stop (.fault (.tooManyDigits digits.length))) ∧
    ∀ c src body, IsLongestRun (· != c) src body → (upTo c src : Eval ω (Result Text)) =
      pure (if c ∈ src then .success body (src.drop body.length)
        else .failure (wanted (Text.quote [c]) none)) := by
  refine ⟨Text.existsUnique_isLongestRun, takeLongestRun_satisfy, takeLongestRun_expect _ _, ?_, ?_⟩
  · intro src digits h hne h0
    exact integer_of_isLongestRun h hne h0
  · intro c src body h
    exact upTo_of_isLongestRun h

theorem repeated_test_takes_longest_run_stops :
    (many1 (satisfy (· < 'c') (fun c => [c]) []) ['a', 'b', 'x', 'a'] : Eval Unit (Result Text)) =
      pure (.success ['a', 'b'] ['x', 'a']) ∧
    (blanks [' ', '\n', 'x', ' '] : Eval Unit (Result Text)) =
      pure (.success [' ', '\n'] ['x', ' ']) ∧
    (blanks1 ['x', ' '] : Eval Unit (Result Text)) =
      pure (.failure (Text.ofString "Expected whitespace but got 'x'")) ∧
    (integer ['-', '1', '0', 'x', '7'] : Eval Unit (Result Int)) =
      pure (.success (-10) ['x', '7']) ∧
    (upTo ',' ['a', 'b', ',', 'c', ','] : Eval Unit (Result Text)) =
      pure (.success ['a', 'b'] [',', 'c', ',']) := by
  obtain ⟨-, hsatisfy, hblanks, hinteger, hupTo⟩ := repeated_test_takes_longest_run (ω := Unit)
  have hrun (test : Char → Bool) (src run : Text) (h : run = src.takeWhile test) :
      IsLongestRun test src run := Text.isLongestRun_iff.2 h
  refine ⟨(hsatisfy _ _ _).oneOrMore_eq _ ['a', 'b'] (hrun _ _ _ (by decide)) (by simp),
    hblanks.zeroOrMore_eq _ [' ', '\n'] (hrun _ _ _ (by decide)),
    hblanks.oneOrMore_eq_failure _ (hrun _ _ _ (by decide)),
    hinteger _ ['1', '0'] (hrun _ _ _ (by decide)) (by simp) (by simp),
    hupTo ',' _ ['a', 'b'] (hrun _ _ _ (by decide))⟩

end ParserT
end Descent
