import Mathlib.Data.List.Forall2
import Descent.Proofs.Outcome
import Descent.Proofs.Runs
import Descent.Proofs.Sequencing

/-!
# Fixed texts

A fixed text is read by a sequence of tests, one for each of its characters. The sequence passes
over what it agrees on with the input and stops at the first difference, whose own message is the
answer. Sequences that stand one behind the other are one sequence, and so are fixed texts.
-/

namespace Descent

namespace ParserT

section
variable {m : Type → Type} [Monad m] {α : Type}

theorem sequence_nil : sequence ([] : List (ParserT m α)) = .pure [] := rfl

variable [LawfulMonad m]

theorem collect_eq_map (found : Array α) (ps : List (ParserT m α)) (src : Text) :
    collect found ps src = Result.map (found.toList ++ ·) <$> sequence ps src := by
  induction ps generalizing found src with
  | nil => simp [sequence, collect, Result.map]
  | cons p ps ih =>
    rw [sequence, collect, collect, map_bind]
    refine bind_result_congr (fun v rest => ?_) fun e => ?_
    · have step (found : Array α) := ih (found.push v) rest
      dsimp only
      rw [step, step, Functor.map_map]
      simp only [Result.map_map, Function.comp_def, Array.toList_push, List.append_assoc]
      rfl
    · simp [Result.map]

theorem sequence_cons (p : ParserT m α) (ps : List (ParserT m α)) :
    sequence (p :: ps) = .bind p fun v => .map (v :: ·) (sequence ps) := by
  funext src
  refine bind_result_congr (fun v rest => ?_) fun _ => rfl
  have hrest : collect (#[].push v) ps rest = Result.map (v :: ·) <$> sequence ps rest :=
    collect_eq_map (#[].push v) ps rest
  exact hrest.trans (map_apply (v :: ·) (sequence ps) rest).symm

theorem sequence_append (ps qs : List (ParserT m α)) : sequence (ps ++ qs) =
    .map (fun found => found.1 ++ found.2) (.pair (sequence ps) (sequence qs)) := by
  induction ps with
  | nil =>
    simp only [List.nil_append, sequence_nil, map_eq_bind, pair_eq_bind, ParserT.pure_bind,
      ParserT.bind_assoc, ParserT.bind_pure]
  | cons p ps ih =>
    rw [List.cons_append, sequence_cons, sequence_cons, ih]
    simp only [map_eq_bind, pair_eq_bind, ParserT.bind_assoc, ParserT.pure_bind, List.cons_append]

end

section
variable {m : Type → Type} [Monad m] (what : Char → Text) (test : Char → Char → Bool)

def tests (t : Text) : ParserT m Text := sequence (t.map fun c => expect (what c) (test c))

variable {what test} {front read rest : Text} {c : Char} [LawfulMonad m]

theorem tests_cons (c : Char) (t : Text) : tests (m := m) what test (c :: t) =
    .bind (expect (what c) (test c)) fun d => .map (d :: ·) (tests what test t) := by
  rw [tests, List.map_cons, sequence_cons]
  rfl

theorem tests_append (a b : Text) : tests (m := m) what test (a ++ b) =
    .map (fun found => found.1 ++ found.2) (.pair (tests what test a) (tests what test b)) := by
  rw [tests, List.map_append, sequence_append]
  rfl

theorem tests_of_passed (h : List.Forall₂ (fun c d => test c d = true) front read) (rest : Text) :
    tests (m := m) what test front (read ++ rest) = pure (.success read rest) := by
  induction h with
  | nil => rfl
  | @cons c d front read hd h ih =>
    rw [tests_cons, List.cons_append, bind_of_success (expect_of_test (test c) (what c) hd _),
      map_apply, ih, map_pure]
    rfl

theorem tests_of_difference (h : List.Forall₂ (fun c d => test c d = true) front read)
    (hc : ∀ d ∈ rest.head?, test c d = false) (more : Text) :
    tests (m := m) what test (front ++ c :: more) (read ++ rest) =
      pure (.failure (wanted (what c) rest.head?)) := by
  have hfirst : tests (m := m) what test (c :: more) rest =
      pure (.failure (wanted (what c) rest.head?)) := by
    rw [tests_cons]
    exact bind_of_failure (expect_of_head (test c) (what c) hc)
  rw [tests_append, map_eq_bind, pair_eq_bind, ParserT.bind_assoc,
    bind_of_success (tests_of_passed h rest), ParserT.bind_assoc]
  exact bind_of_failure hfirst

end
end ParserT

namespace Text

/-- Both texts begin with `front`, and with no longer text. -/
structure IsLongestCommonFront (front s t : Text) : Prop where
  left : front <+: s
  right : front <+: t
  longest : ∀ other, other <+: s → other <+: t → other.length ≤ front.length

theorem getElem?_of_prefix {s t : Text} (h : s <+: t) {n : Nat} (hn : n < s.length) :
    s[n]? = t[n]? := by
  obtain ⟨rest, rfl⟩ := h
  rw [List.getElem?_append_left hn]

theorem isLongestCommonFront_append {front more rest : Text} {c : Char}
    (hc : ∀ d ∈ rest.head?, d ≠ c) :
    IsLongestCommonFront front (front ++ c :: more) (front ++ rest) where
  left := List.prefix_append _ _
  right := List.prefix_append _ _
  longest other hs ht := by
    refine Nat.not_lt.1 fun hlt => ?_
    -- The two texts go on differently, so no text of this length is in front of both.
    have hleft := getElem?_of_prefix hs hlt
    have hright := getElem?_of_prefix ht hlt
    rw [List.getElem?_append_right (Nat.le_refl _), Nat.sub_self] at hleft hright
    rw [← List.head?_eq_getElem?] at hright
    exact hc c (hright.symm.trans hleft) rfl

theorem IsLongestCommonFront.unique {front other s t : Text} (h : front.IsLongestCommonFront s t)
    (h' : other.IsLongestCommonFront s t) : front = other := by
  have hle := h'.longest front h.left h.right
  have hge := h.longest other h'.left h'.right
  exact (List.prefix_of_prefix_length_le h.left h'.left hle).eq_of_length (Nat.le_antisymm hle hge)

theorem passed_or_exists_difference (test : Char → Char → Bool) (t src : Text) :
    (∃ read rest, src = read ++ rest ∧ List.Forall₂ (fun c d => test c d = true) t read) ∨
    ∃ front c more read rest, t = front ++ c :: more ∧ src = read ++ rest ∧
      List.Forall₂ (fun c d => test c d = true) front read ∧
      ∀ d ∈ rest.head?, test c d = false := by
  induction t generalizing src with
  | nil => exact .inl ⟨[], src, rfl, .nil⟩
  | cons c t ih =>
    by_cases h : ∃ d ∈ src.head?, test c d = true
    · obtain ⟨d, hd, htest⟩ := h
      obtain ⟨src, rfl⟩ := List.head?_eq_some_iff.1 hd
      rcases ih src with ⟨read, rest, rfl, hread⟩ |
        ⟨front, e, more, read, rest, rfl, rfl, hread, he⟩
      · exact .inl ⟨d :: read, rest, rfl, .cons htest hread⟩
      · exact .inr ⟨c :: front, e, more, d :: read, rest, rfl, rfl, .cons htest hread, he⟩
    · refine .inr ⟨[], c, t, [], src, rfl, rfl, .nil, fun d hd => ?_⟩
      exact Bool.eq_false_iff.2 fun htest => h ⟨d, hd, htest⟩

theorem eq_of_forall₂_beq {s t : Text} (h : List.Forall₂ (fun c d => (d == c) = true) s t) :
    s = t := by
  induction h with
  | nil => rfl
  | cons hcd _ ih => rw [eq_of_beq hcd, ih]

theorem prefix_or_exists_difference (t src : Text) : t <+: src ∨
    ∃ front c more rest, t = front ++ c :: more ∧ src = front ++ rest ∧
      ∀ d ∈ rest.head?, d ≠ c := by
  rcases passed_or_exists_difference (fun c d => d == c) t src with
    ⟨read, rest, rfl, hread⟩ | ⟨front, c, more, read, rest, rfl, rfl, hread, hc⟩
  · obtain rfl := eq_of_forall₂_beq hread
    exact .inl (List.prefix_append _ _)
  · obtain rfl := eq_of_forall₂_beq hread
    exact .inr ⟨front, c, more, rest, rfl, rfl, fun d hd => beq_eq_false_iff_ne.1 (hc d hd)⟩

end Text

namespace ParserT

variable {m : Type → Type} [Monad m] [LawfulMonad m]

theorem forall₂_beq_self (t : Text) : List.Forall₂ (fun c d => (d == c) = true) t t :=
  List.forall₂_same.2 fun c _ => beq_self_eq_true c

theorem text_append_self (t rest : Text) :
    text (m := m) t (t ++ rest) = pure (.success t rest) :=
  tests_of_passed (forall₂_beq_self t) rest

theorem text_of_difference {rest : Text} {c : Char} (hc : ∀ d ∈ rest.head?, d ≠ c)
    (front more : Text) : text (m := m) (front ++ c :: more) (front ++ rest) =
      pure (.failure (wanted (Text.quote [c]) rest.head?)) :=
  tests_of_difference (forall₂_beq_self front) (fun d hd => beq_false_of_ne (hc d hd)) more

/-- A fixed text matches an input that begins with it and leaves the rest. On any other input it
fails at the first character in which they differ, or where the input ends within the text. A text
in two parts is read like its parts, one behind the other. -/
theorem text_matches_or_names_difference :
    (∀ t src : Text, t <+: src →
      text (m := m) t src = pure (.success t (src.drop t.length))) ∧
    (∀ t src : Text, ¬ t <+: src → ∃ (front : Text) (c : Char),
      front.IsLongestCommonFront t src ∧ t[front.length]? = some c ∧
      text (m := m) t src = pure (.failure (wanted (Text.quote [c]) src[front.length]?))) ∧
    ∀ a b : Text, text (m := m) (a ++ b) =
      .map (fun found => found.1 ++ found.2) (.pair (text a) (text b)) := by
  refine ⟨fun t src h => ?_, fun t src h => ?_, tests_append⟩
  · obtain ⟨rest, rfl⟩ := h
    rw [List.drop_left, text_append_self]
  · rcases Text.prefix_or_exists_difference t src with
      hprefix | ⟨front, c, more, rest, rfl, rfl, hc⟩
    · exact absurd hprefix h
    · refine ⟨front, c, Text.isLongestCommonFront_append hc, ?_, ?_⟩
      · rw [List.getElem?_append_right (Nat.le_refl _), Nat.sub_self]
        rfl
      · rw [text_of_difference hc, List.getElem?_append_right (Nat.le_refl _), Nat.sub_self,
          List.head?_eq_getElem?]

theorem text_matches_or_names_difference_ending :
    LawfulMonad (Eval Unit) ∧ ['a', 'b'] <+: ['a', 'b', 'c'] ∧
    (text ['a', 'b'] ['a', 'b', 'c'] : Eval Unit _) = pure (.success ['a', 'b'] ['c']) ∧
    ¬ ['a', 'b', 'c'] <+: ['a', 'b'] ∧
    (text ['a', 'b', 'c'] ['a', 'b'] : Eval Unit _) =
      pure (.failure (Text.ofString "Expected 'c' but got end of input")) := by
  have hlawful : LawfulMonad (Eval Unit) := inferInstance
  have hbegins : ['a', 'b'] <+: ['a', 'b', 'c'] := by decide
  have hends : ¬ ['a', 'b', 'c'] <+: ['a', 'b'] := by decide
  obtain ⟨hmatches, hdiffers, -⟩ := text_matches_or_names_difference (m := Eval Unit)
  refine ⟨hlawful, hbegins, hmatches _ _ hbegins, hends, ?_⟩
  obtain ⟨front, c, hfront, hc, hanswer⟩ := hdiffers _ _ hends
  obtain rfl : front = ['a', 'b'] :=
    hfront.unique (@Text.isLongestCommonFront_append ['a', 'b'] [] [] 'c' (by simp))
  obtain rfl : c = 'c' := (Option.some.inj hc).symm
  rw [hanswer]
  rfl

end ParserT
end Descent
