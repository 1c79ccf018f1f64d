import Descent.Proofs.Lines
import Descent.Proofs.Runs
import Descent.Proofs.Sequencing

/-!
# Texts that are cut at a character

Reading up to a character cuts the text in front of its first occurrence, and fails where there is
none. A list of such pieces with the character between them takes up every piece that the character
stands behind. What is behind the last occurrence is no such piece, so the list gives the separator
in front of it back.
-/

namespace Descent

namespace Text

def closeEach (c : Char) (pieces : List Text) : Text := pieces.flatMap (· ++ [c])

variable {c : Char} {pieces : List Text} {last : Text}

theorem bne_of_not_mem {t : Text} (h : c ∉ t) : ∀ d ∈ t, (d != c) = true := fun _ hd =>
  bne_iff_ne.2 fun hdc => h (hdc ▸ hd)

theorem closeEach_cons_append (c : Char) (p : Text) (pieces : List Text) (last : Text) :
    closeEach c (p :: pieces) ++ last = p ++ c :: (closeEach c pieces ++ last) := by
  simp only [closeEach, List.flatMap_cons, List.append_assoc, List.cons_append,
    List.nil_append]

theorem exists_closeEach_append (c : Char) (src : Text) : ∃ pieces last,
    src = closeEach c pieces ++ last ∧ (∀ p ∈ pieces, c ∉ p) ∧ c ∉ last := by
  -- What is behind the first occurrence of `c` is shorter, and is cut in the same way.
  induction src using shorter_induction with
  | shorter src ih =>
    by_cases hc : c ∈ src
    · obtain ⟨p, rest, rfl, hp⟩ := List.eq_append_cons_of_mem hc
      have hlt : rest.length < (p ++ c :: rest).length := by
        rw [List.length_append, List.length_cons]
        omega
      obtain ⟨pieces, last, rfl, hpieces, hlast⟩ := ih rest hlt
      exact ⟨p :: pieces, last, (closeEach_cons_append c p pieces last).symm,
        List.forall_mem_cons.2 ⟨hp, hpieces⟩, hlast⟩
    · exact ⟨[], src, rfl, by simp, hc⟩

theorem splitOn_closeEach_append (hpieces : ∀ p ∈ pieces, c ∉ p) (hlast : c ∉ last) :
    (closeEach c pieces ++ last).splitOn c = pieces ++ [last] := by
  induction pieces with
  | nil => exact List.splitOn_eq_singleton hlast
  | cons p pieces ih =>
    obtain ⟨hp, hpieces⟩ := List.forall_mem_cons.1 hpieces
    rw [closeEach_cons_append, List.splitOn_append_cons_self_of_not_mem hp, ih hpieces]
    rfl

theorem count_closeEach_append (hpieces : ∀ p ∈ pieces, c ∉ p) (hlast : c ∉ last) :
    (closeEach c pieces ++ last).count c = pieces.length := by
  induction pieces with
  | nil => exact List.count_eq_zero_of_not_mem hlast
  | cons p pieces ih =>
    obtain ⟨hp, hpieces⟩ := List.forall_mem_cons.1 hpieces
    rw [closeEach_cons_append, List.count_append, List.count_eq_zero_of_not_mem hp,
      List.count_cons_self, ih hpieces, Nat.zero_add]
    rfl

end Text

namespace ParserT

open Text (closeEach)

variable {m : Type → Type} [Monad m] [LawfulMonad m] {c : Char} {front rest last : Text}
  {pieces : List Text}

theorem many_notChar (hfront : c ∉ front) (hrest : ∀ d ∈ rest.head?, d = c) :
    many (notChar (m := m) c) (front ++ rest) = pure (.success front rest) := by
  have hpass := Text.bne_of_not_mem hfront
  have hstop : ∀ d ∈ rest.head?, (d != c) = false := fun d hd => by
    rw [hrest d hd, bne_self_eq_false]
  obtain ⟨htake, hdrop⟩ := Text.span_append hpass hstop
  rw [notChar, expect, many_satisfy, htake, hdrop]

theorem upTo_append (hfront : c ∉ front) (rest : Text) :
    upTo (m := m) c (front ++ c :: rest) = pure (.success front (c :: rest)) := by
  have hmany : many (notChar (m := m) c) (front ++ c :: rest) =
      pure (.success front (c :: rest)) := many_notChar hfront (by simp)
  have hahead : lookahead (char (m := m) c) (c :: rest) = pure (.success c (c :: rest)) := by
    rw [lookahead, char_self, pure_bind]
  rw [upTo, before_eq_bind, bind_of_success hmany, bind_of_success hahead]
  rfl

theorem upTo_of_not_mem {src : Text} (h : c ∉ src) :
    upTo (m := m) c src = pure (.failure (wanted (Text.quote [c]) none)) := by
  have hmany : many (notChar (m := m) c) (src ++ []) = pure (.success src []) :=
    many_notChar h (by simp)
  rw [List.append_nil] at hmany
  have hahead : lookahead (char (m := m) c) [] =
      pure (.failure (wanted (Text.quote [c]) none)) := by
    rw [lookahead, char_of_head (by simp), pure_bind]
    rfl
  rw [upTo, before_eq_bind, bind_of_success hmany, bind_of_failure hahead]

theorem many_after_upTo (hpieces : ∀ p ∈ pieces, c ∉ p) (hlast : c ∉ last) :
    many (after (char (m := m) c) (upTo c)) (c :: (closeEach c pieces ++ last)) =
      pure (.success pieces (c :: last)) := by
  induction pieces with
  | nil =>
    -- The round at the last occurrence reads the separator and fails, so it is as if never tried.
    have hround : after (char (m := m) c) (upTo c) (c :: last) =
        pure (.failure (wanted (Text.quote [c]) none)) := by
      rw [after_eq_bind, bind_of_success (char_self c last)]
      exact upTo_of_not_mem hlast
    exact many_of_failure hround
  | cons p pieces ih =>
    obtain ⟨hp, hpieces⟩ := List.forall_mem_cons.1 hpieces
    have hround : after (char (m := m) c) (upTo c) (c :: (closeEach c (p :: pieces) ++ last)) =
        pure (.success p (c :: (closeEach c pieces ++ last))) := by
      rw [Text.closeEach_cons_append, after_eq_bind, bind_of_success (char_self c _)]
      exact upTo_append hp _
    have hlt : (c :: (closeEach c pieces ++ last)).length <
        (c :: (closeEach c (p :: pieces) ++ last)).length := by
      rw [Text.closeEach_cons_append]
      simp only [List.length_cons, List.length_append]
      omega
    rw [many_of_success hround hlt, ih hpieces, map_pure]
    rfl

theorem sepBy1_upTo {p : Text} (hpieces : ∀ q ∈ p :: pieces, c ∉ q) (hlast : c ∉ last) :
    sepBy1 (upTo (m := m) c) (char c) (closeEach c (p :: pieces) ++ last) =
      pure (.success (p :: pieces) (c :: last)) := by
  obtain ⟨hp, hpieces⟩ := List.forall_mem_cons.1 hpieces
  rw [Text.closeEach_cons_append, sepBy1_eq_bind, bind_of_success (upTo_append hp _)]
  exact bind_of_success (many_after_upTo hpieces hlast)

/-- Reading up to a character ends in front of its first occurrence. So a list of such texts, with
the character between them, is the text split there without the last piece; the last occurrence and
what is behind it are left. -/
theorem upTo_ends_at_first_occurrence (c : Char) :
    (∀ (src : Text) (i : Nat), src[i]? = some c → (∀ j < i, src[j]? ≠ some c) →
      upTo (m := m) c src = pure (.success (src.take i) (src.drop i))) ∧
    (∀ src : Text, c ∉ src →
      upTo (m := m) c src = pure (.failure (wanted (Text.quote [c]) none))) ∧
    ∀ src : Text, c ∈ src → ∃ pieces last,
      src = closeEach c pieces ++ last ∧ c ∉ last ∧ src.splitOn c = pieces ++ [last] ∧
      pieces.length = src.count c ∧
      sepBy1 (upTo (m := m) c) (char c) src = pure (.success pieces (c :: last)) := by
  refine ⟨fun src i hi hfirst => ?_, fun src => upTo_of_not_mem, fun src hc => ?_⟩
  · obtain ⟨front, rest, rfl, rfl⟩ := Text.exists_append_of_getElem? hi
    have hfront : c ∉ front := by
      intro hmem
      obtain ⟨j, hj, hget⟩ := List.getElem_of_mem hmem
      refine hfirst j hj ?_
      rw [List.getElem?_append_left hj, List.getElem?_eq_getElem hj, hget]
    rw [List.take_left, List.drop_left]
    exact upTo_append hfront rest
  · obtain ⟨pieces, last, rfl, hpieces, hlast⟩ := Text.exists_closeEach_append c src
    refine ⟨pieces, last, rfl, hlast, Text.splitOn_closeEach_append hpieces hlast,
      (Text.count_closeEach_append hpieces hlast).symm, ?_⟩
    cases pieces with
    | nil => exact absurd hc hlast
    | cons p pieces => exact sepBy1_upTo hpieces hlast

theorem upTo_ends_at_first_occurrence_commas :
    LawfulMonad (Eval Unit) ∧
    (upTo ',' ['a', ',', ',', 'b'] : Eval Unit (Result Text)) =
      pure (.success ['a'] [',', ',', 'b']) ∧
    (upTo ',' ['a', 'b'] : Eval Unit (Result Text)) =
      pure (.failure (Text.ofString "Expected ',' but got end of input")) ∧
    (sepBy1 (upTo ',') (char ',') [',', 'a', ',', ',', 'b'] : Eval Unit (Result (List Text))) =
      pure (.success [[], ['a'], []] [',', 'b']) := by
  have hlawful : LawfulMonad (Eval Unit) := inferInstance
  obtain ⟨hfirst, hnone, hlist⟩ := upTo_ends_at_first_occurrence (m := Eval Unit) ','
  have hbefore : ∀ j < 1, ['a', ',', ',', 'b'][j]? ≠ some ',' := by decide
  obtain ⟨pieces, last, -, -, hsplit, -, hread⟩ := hlist [',', 'a', ',', ',', 'b'] (by decide)
  have hpieces : [[], ['a'], []] ++ [['b']] = pieces ++ [last] := hsplit
  obtain ⟨hpieces, hlast⟩ := List.append_inj' hpieces rfl
  obtain rfl := hpieces
  obtain rfl := List.singleton_inj.1 hlast
  exact ⟨hlawful, hfirst _ 1 rfl hbefore, hnone _ (by decide), hread⟩

end ParserT
end Descent
