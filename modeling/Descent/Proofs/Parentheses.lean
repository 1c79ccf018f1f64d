import Descent.Grammar.Build
import Descent.Proofs.Recognition

/-!
# Counting parentheses

The grammar reads an opening parenthesis, then what the grammar itself reads, then a closing one,
and counts one more than it did inside. Where this fails it counts zero and reads nothing. A level
that is not closed gives back all that was read inside it, and what it leaves is an opening
parenthesis, so that the level around it is not closed either. A single missing parenthesis is
therefore enough for the answer to be zero, and otherwise all that were opened are counted.
-/

namespace Descent.Parentheses

def name : Text := Text.ofString "nested"

def grammar : Grammar :=
  .orElse (.map (.unary .increment) (.between (.char ['(']) (.char [')']) (.rule name)))
    (.succeed (.int 0))

def rules : Rules := [(name, grammar)]

def opened (src : Text) : Nat := (src.takeWhile (· == '(')).length

def closed (src : Text) : Nat := ((src.dropWhile (· == '(')).takeWhile (· == ')')).length

open ParserT
open ValueParser (exists_ofChar_char_eq_failure answers_between_of_not_open
  answers_between_of_not_closed answers_between_of_success)

def level (inner : ValueParser) : ValueParser :=
  orElse
    (.mapM (ValueParser.calling (.unary .increment))
      (between (ValueParser.ofChar (char '(')) (ValueParser.ofChar (char ')')) inner))
    (.pure (.int 0))

section
variable {inner : ValueParser} {src rest last : Text}

theorem answers_level_of_failure {e : Text}
    (h : (between (ValueParser.ofChar (char '(')) (ValueParser.ofChar (char ')')) inner
      src).Answers (.failure e)) : (level inner src).Answers (.success (.int 0) src) := by
  have hcounted : (ParserT.mapM (ValueParser.calling (.unary .increment))
      (between (ValueParser.ofChar (char '(')) (ValueParser.ofChar (char ')')) inner)
      src).Answers (.failure e) := h.bind (.pure _)
  exact hcounted.bind (.pure _)

theorem answers_level_of_not_open (h : ∀ rest, src ≠ '(' :: rest) :
    (level inner src).Answers (.success (.int 0) src) := by
  obtain ⟨e, he⟩ := exists_ofChar_char_eq_failure h
  exact answers_level_of_failure (answers_between_of_not_open he)

theorem answers_level_of_not_closed {v : Value} (h : (inner rest).Answers (.success v last))
    (hlast : ∀ tail, last ≠ ')' :: tail) :
    (level inner ('(' :: rest)).Answers (.success (.int 0) ('(' :: rest)) := by
  obtain ⟨e, he⟩ := exists_ofChar_char_eq_failure hlast
  exact answers_level_of_failure (answers_between_of_not_closed h he)

theorem answers_level_of_closed {n : Nat}
    (h : (inner rest).Answers (.success (.int n) (')' :: last))) :
    (level inner ('(' :: rest)).Answers (.success (.int (n + 1 : Nat)) last) := by
  have hboth : (between (ValueParser.ofChar (char '(')) (ValueParser.ofChar (char ')')) inner
      ('(' :: rest)).Answers (.success (.int n) last) := answers_between_of_success h
  have hcounted : (ParserT.mapM (ValueParser.calling (.unary .increment))
      (between (ValueParser.ofChar (char '(')) (ValueParser.ofChar (char ')')) inner)
      ('(' :: rest)).Answers (.success (.int (n + 1 : Nat)) last) := hboth.bind (.pure _)
  exact hcounted.bind (.pure _)

end

def inside (depth : Nat) (address : Address) : ValueParser :=
  delayed (0 :: 0 :: 0 :: address) none fun _ =>
    rules.resolve depth name (0 :: 0 :: 0 :: 0 :: address)

theorem build_grammar (depth : Nat) (address : Address) :
    grammar.build (rules.resolve depth) address = .ok (level (inside depth address)) := rfl

theorem inside_succ (depth : Nat) (address : Address) : inside (depth + 1) address =
    delayed (0 :: 0 :: 0 :: address) none fun _ =>
      .ok (level (inside depth (0 :: 0 :: 0 :: 0 :: address))) := by
  have hlookup : rules.lookup name = some grammar := by simp [rules]
  simp only [inside, Rules.resolve, hlookup, build_grammar]

theorem answers_level {b : Nat} {rest : Text} (hclosed : ∀ tail, rest ≠ ')' :: tail)
    (hopened : b = 0 → ∀ tail, rest ≠ '(' :: tail) (a : Nat) {depth : Nat} (h : a ≤ depth)
    (address : Address) :
    (level (inside depth address)
      (List.replicate a '(' ++ (List.replicate b ')' ++ rest))).Answers
        (if a ≤ b then .success (.int a) (List.replicate (b - a) ')' ++ rest)
          else .success (.int 0) (List.replicate a '(' ++ (List.replicate b ')' ++ rest))) := by
  induction a generalizing depth address with
  | zero =>
    refine answers_level_of_not_open fun tail => ?_
    cases b with
    | zero => exact hopened rfl tail
    | succ b => exact nofun
  | succ a ih =>
    obtain ⟨depth, rfl⟩ : ∃ d, depth = d + 1 := ⟨depth - 1, by omega⟩
    have hinner := ih (Nat.le_of_succ_le_succ h) (0 :: 0 :: 0 :: 0 :: address)
    have hreference := answers_delayed (0 :: 0 :: 0 :: address) none hinner
    rw [← inside_succ] at hreference
    rcases Nat.lt_trichotomy a b with hlt | rfl | hlt
    · -- There is a parenthesis left that closes this level.
      obtain ⟨k, hk⟩ : ∃ k, b - a = k + 1 := ⟨b - a - 1, by omega⟩
      rw [if_pos (Nat.le_of_lt hlt), hk] at hreference
      rw [if_pos (Nat.succ_le_of_lt hlt), show b - (a + 1) = k by omega]
      exact answers_level_of_closed hreference
    · rw [if_pos (Nat.le_refl a), Nat.sub_self] at hreference
      rw [if_neg (Nat.not_succ_le_self a)]
      exact answers_level_of_not_closed hreference hclosed
    · -- The level inside has given back all that it read, and it begins with an opening one.
      rw [if_neg (Nat.not_le.2 hlt)] at hreference
      rw [if_neg (by omega)]
      refine answers_level_of_not_closed hreference fun tail => ?_
      obtain ⟨k, rfl⟩ : ∃ k, a = k + 1 := ⟨a - 1, by omega⟩
      exact nofun

/-! The parentheses at the beginning of a text. -/

theorem takeWhile_eq_replicate (c : Char) (src : Text) :
    src.takeWhile (· == c) = List.replicate (src.takeWhile (· == c)).length c := by
  refine List.eq_replicate_of_mem fun d hd => ?_
  exact eq_of_beq (List.all_eq_true.1 List.all_takeWhile d hd)

theorem dropWhile_ne_cons (c : Char) (src tail : Text) : src.dropWhile (· == c) ≠ c :: tail := by
  induction src with
  | nil => exact nofun
  | cons d src ih =>
    rw [List.dropWhile_cons]
    split
    next => exact ih
    next hd =>
      rintro ⟨⟩
      exact hd (beq_self_eq_true c)

theorem exists_eq_replicate_append (src : Text) : ∃ rest,
    src = List.replicate (opened src) '(' ++ (List.replicate (closed src) ')' ++ rest) ∧
      (∀ tail, rest ≠ ')' :: tail) ∧ (closed src = 0 → ∀ tail, rest ≠ '(' :: tail) := by
  refine ⟨(src.dropWhile (· == '(')).dropWhile (· == ')'), ?_, dropWhile_ne_cons _ _, ?_⟩
  · rw [opened, closed, ← takeWhile_eq_replicate, ← takeWhile_eq_replicate,
      List.takeWhile_append_dropWhile, List.takeWhile_append_dropWhile]
  · intro h tail
    have hnone := List.length_eq_zero_iff.1 h
    have hsplit := List.takeWhile_append_dropWhile (p := (· == ')')) (l := src.dropWhile (· == '('))
    rw [hnone, List.nil_append] at hsplit
    rw [hsplit]
    exact dropWhile_ne_cons _ _ tail

theorem drop_opened {a b : Nat} (h : a ≤ b) (rest : Text) :
    (List.replicate a '(' ++ (List.replicate b ')' ++ rest)).drop (2 * a) =
      List.replicate (b - a) ')' ++ rest := by
  rw [Nat.two_mul, ← List.drop_drop, List.drop_left' List.length_replicate,
    List.drop_append_of_le_length (by simpa using h), List.drop_replicate]

/-- As many levels as there are opening parentheses at the beginning are enough for an answer, which
is then the same on any number of them: all of the opening parentheses if each is closed, and else
none. -/
theorem counts_closed_parentheses (depth : Nat) : ∃ p, grammar.parser rules depth = .ok p ∧
    ∀ src, opened src ≤ depth → (p src).Answers
      (if opened src ≤ closed src then .success (.int (opened src)) (src.drop (2 * opened src))
        else .success (.int 0) src) := by
  refine ⟨_, build_grammar depth [], fun src h => ?_⟩
  obtain ⟨rest, hsrc, hclosed, hopened⟩ := exists_eq_replicate_append src
  have hanswer := answers_level hclosed hopened (opened src) h []
  rw [← hsrc] at hanswer
  by_cases hle : opened src ≤ closed src
  · have hrest := drop_opened hle rest
    rw [← hsrc] at hrest
    rw [if_pos hle] at hanswer ⊢
    rw [hrest]
    exact hanswer
  · rw [if_neg hle] at hanswer ⊢
    exact hanswer

theorem counts_closed_parentheses_missing :
    opened ['(', '(', ')', ')', ')'] ≤ 2 ∧ opened ['(', '(', ')', 'x'] ≤ 2 ∧
    ∃ p, grammar.parser rules 2 = .ok p ∧
      (p ['(', '(', ')', ')', ')']).Answers (.success (.int 2) [')']) ∧
      (p ['(', '(', ')', 'x']).Answers (.success (.int 0) ['(', '(', ')', 'x']) := by
  have hall : opened ['(', '(', ')', ')', ')'] ≤ 2 := by decide
  have hmissing : opened ['(', '(', ')', 'x'] ≤ 2 := by decide
  obtain ⟨p, hp, hcounts⟩ := counts_closed_parentheses 2
  exact ⟨hall, hmissing, p, hp, hcounts _ hall, hcounts _ hmissing⟩

end Descent.Parentheses
