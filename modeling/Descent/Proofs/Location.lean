import Mathlib.Algebra.GroupWithZero.Nat
import Descent.Proofs.Excerpt

/-!
# Line and column of a position

A position is located by the line feeds in front of it. In the list of the lines that the line feeds
leave, this is the line in which the position lies, and the column is its distance from where that
line begins; a line feed is the last column of its line. Each line begins behind the one before it,
so that lines and columns are in the order of the positions.
-/

namespace Descent

def Text.lineStart (lines : List Text) (n : Nat) : Nat :=
  ((lines.take n).map List.length).sum + n

namespace Text

theorem lineStart_cons (line : Text) (lines : List Text) (n : Nat) :
    lineStart (line :: lines) (n + 1) = line.length + 1 + lineStart lines n := by
  simp only [lineStart, List.take_succ_cons, List.map_cons, List.sum_cons]
  omega

theorem lineStart_succ {lines : List Text} {n : Nat} {line : Text} (h : lines[n]? = some line) :
    lineStart lines (n + 1) = lineStart lines n + line.length + 1 := by
  simp only [lineStart, List.take_add_one, h, List.map_append, List.sum_append, Option.toList_some,
    List.map_cons, List.map_nil, List.sum_singleton]
  omega

theorem lineStart_mono (lines : List Text) {k n : Nat} (h : k ≤ n) :
    lineStart lines k ≤ lineStart lines n := by
  induction h with
  | refl => exact Nat.le_refl _
  | @step n h ih =>
    have hstep : lineStart lines n ≤ lineStart lines (n + 1) := by
      simp only [lineStart, List.take_add_one, List.map_append, List.sum_append]
      omega
    exact Nat.le_trans ih hstep

theorem exists_splitOn_append (front behind : Text) : ∃ before first after,
    (front ++ behind).splitOn '\n' = before ++ (lastLine front ++ first) :: after ∧
      before.length = front.count '\n' ∧
      lineStart before before.length + (lastLine front).length = front.length := by
  -- A character in front joins the first line, which is that of the position if `before` is empty.
  induction front with
  | nil =>
    obtain ⟨first, after, h⟩ := List.exists_cons_of_ne_nil (List.splitOn_ne_nil '\n' behind)
    exact ⟨[], first, after, h, rfl, rfl⟩
  | cons c front ih =>
    obtain ⟨before, first, after, hlines, hcount, hlength⟩ := ih
    by_cases hc : c = '\n'
    · subst hc
      refine ⟨[] :: before, first, after, ?_, ?_, ?_⟩
      · rw [List.cons_append, List.splitOn_cons_eq_if_modifyHead, if_pos (by decide), hlines,
          lastLine_newline_cons]
        rfl
      · rw [List.length_cons, hcount, List.count_cons_self]
      · simp only [lastLine_newline_cons, List.length_cons, lineStart_cons, List.length_nil]
        omega
    · have hsplit : ((c :: front) ++ behind).splitOn '\n' =
          (before ++ (lastLine front ++ first) :: after).modifyHead (c :: ·) := by
        rw [List.cons_append, List.splitOn_cons_eq_if_modifyHead, if_neg (by simpa using hc),
          hlines]
      rw [hsplit, List.count_cons_of_ne hc, ← hcount]
      cases before with
      | nil =>
        have hfront : '\n' ∉ front := List.count_eq_zero.1 hcount.symm
        have hnone : '\n' ∉ c :: front := by simp [hfront, Ne.symm hc]
        refine ⟨[], first, after, ?_, rfl, ?_⟩
        · rw [lastLine_of_not_mem hfront, lastLine_of_not_mem hnone]
          rfl
        · rw [lastLine_of_not_mem hnone]
          exact Nat.zero_add _
      | cons line before =>
        have hmem : '\n' ∈ front := List.count_pos_iff.1 (by rw [← hcount]; simp)
        rw [lastLine_cons_of_mem c hmem]
        refine ⟨(c :: line) :: before, first, after, rfl, rfl, ?_⟩
        simp only [List.length_cons, lineStart_cons] at hlength ⊢
        omega

end Text

namespace Place

/-- The position is that of the column in the line, both counted from 1, among the lines that line
feeds leave. -/
structure LiesIn (p : Place) (src : Text) : Prop where
  one_le_line : 1 ≤ p.line
  line_le : p.line ≤ (src.splitOn '\n').length
  one_le_column : 1 ≤ p.column
  column_le : ∃ line, (src.splitOn '\n')[p.line - 1]? = some line ∧ p.column ≤ line.length + 1
  position_eq :
    (Text.lineStart (src.splitOn '\n') (p.line - 1) : Int) + (p.column - 1) = p.position

theorem position_locate_natCast (src : Text) (pos : Nat) :
    (locate src pos).position = (min pos src.length : Nat) := by
  have hclamp : min (pos : Int) src.length = (min pos src.length : Nat) := by omega
  rw [locate_natCast, ← hclamp]

theorem locate_liesIn (src : Text) (pos : Nat) : (locate src pos).LiesIn src := by
  obtain ⟨before, first, after, hlines, hcount, hlength⟩ :=
    Text.exists_splitOn_append (src.take pos) (src.drop pos)
  rw [List.take_append_drop] at hlines
  have hstart : Text.lineStart (src.splitOn '\n') before.length =
      Text.lineStart before before.length := by
    rw [hlines, Text.lineStart, List.take_left, Text.lineStart, List.take_length]
  have htake : (src.take pos).length = min pos src.length := List.length_take
  have hline : (locate src pos).line = before.length + 1 := by
    rw [locate_natCast, hcount]
    rfl
  have hcolumn : (locate src pos).column = (Text.lastLine (src.take pos)).length + 1 := by
    rw [locate_natCast]
  have hposition := position_locate_natCast src pos
  refine ⟨by omega, ?_, by omega, ⟨Text.lastLine (src.take pos) ++ first, ?_, ?_⟩, ?_⟩
  · rw [hline, hlines, List.length_append, List.length_cons]
    omega
  · rw [hline, hlines, Nat.add_sub_cancel, List.getElem?_append_right (Nat.le_refl _), Nat.sub_self]
    rfl
  · rw [hcolumn, List.length_append]
    omega
  · rw [hline, Nat.add_sub_cancel]
    omega

theorem LiesIn.lt_of_line_lt {p q : Place} {src : Text} (hp : p.LiesIn src) (hq : q.LiesIn src)
    (h : p.line < q.line) : p.position < q.position := by
  obtain ⟨line, hline, hcolumn⟩ := hp.column_le
  have hnext := Text.lineStart_succ hline
  rw [Nat.sub_add_cancel hp.one_le_line] at hnext
  have hmono : Text.lineStart (src.splitOn '\n') p.line ≤
      Text.lineStart (src.splitOn '\n') (q.line - 1) := Text.lineStart_mono _ (by omega)
  have hpos := hp.position_eq
  have hpos' := hq.position_eq
  have hone := hq.one_le_column
  omega

theorem LiesIn.lt_iff {p q : Place} {src : Text} (hp : p.LiesIn src) (hq : q.LiesIn src) :
    p.position < q.position ↔ p.line < q.line ∨ p.line = q.line ∧ p.column < q.column := by
  rcases Nat.lt_trichotomy p.line q.line with h | h | h
  · have hlt := hp.lt_of_line_lt hq h
    exact ⟨fun _ => .inl h, fun _ => hlt⟩
  · have hpos := hp.position_eq
    have hpos' := hq.position_eq
    rw [h] at hpos ⊢
    omega
  · have hlt := hq.lt_of_line_lt hp h
    omega

theorem positionNote_eq_heading_append (src : Text) (position : Int) :
    ∃ behind, positionNote src position none = (locate src position).heading ++ behind ∧
      ∀ c ∈ behind.head?, c = '\n' := by
  cases h : (locate src position).excerpt src with
  | none =>
    refine ⟨[], ?_, by simp⟩
    rw [positionNote_of_no_excerpt h, List.append_nil]
  | some shown =>
    exact ⟨_, positionNote_of_excerpt h, by simp⟩

/-- The note begins with the line and the column of the position, moved back to the end of the text
where it lies behind. Positions in the text are in the order of their lines and columns, so that no
two of them have the same. The position is kept as it was given. -/
theorem note_names_line_and_column (reason src : Text) (pos : Nat) :
    (∃ behind, ParseError.report? reason (some src) (some pos) =
        .ok ⟨reason, some src, some pos,
          [Text.ofString "At position " ++ Text.decimal (min pos src.length : Nat) ++
            Text.ofString " (line " ++ Text.decimal (locate src pos).line ++
            Text.ofString ", column " ++ Text.decimal (locate src pos).column ++ [')'] ++
            behind]⟩ ∧
      ∀ c ∈ behind.head?, c = '\n') ∧
    (locate src pos).position = (min pos src.length : Nat) ∧
    (locate src pos).LiesIn src ∧
    ∀ pos' : Nat, pos ≤ src.length → pos' ≤ src.length →
      (pos < pos' ↔ (locate src pos).line < (locate src pos').line ∨
        (locate src pos).line = (locate src pos').line ∧
          (locate src pos).column < (locate src pos').column) := by
  refine ⟨?_, position_locate_natCast src pos, locate_liesIn src pos, fun pos' hpos hpos' => ?_⟩
  · obtain ⟨behind, hnote, hbehind⟩ := positionNote_eq_heading_append src pos
    refine ⟨behind, ?_, hbehind⟩
    rw [ParseError.report?_natCast, hnote, heading, position_locate_natCast]
  · rw [← (locate_liesIn src pos).lt_iff (locate_liesIn src pos'), position_locate_natCast,
      position_locate_natCast]
    omega

theorem note_names_line_and_column_behind_line_feed :
    let src : Text := ['a', '\n', 'b']
    1 ≤ src.length ∧ 2 ≤ src.length ∧ (locate src 1).LiesIn src ∧
      ((locate src 1).line < (locate src 2).line ∨
        (locate src 1).line = (locate src 2).line ∧
          (locate src 1).column < (locate src 2).column) := by
  intro src
  have hone : 1 ≤ src.length := by decide
  have htwo : 2 ≤ src.length := by decide
  obtain ⟨-, -, hlies, horder⟩ := note_names_line_and_column [] src 1
  exact ⟨hone, htwo, hlies, (horder 2 hone htwo).1 (by decide)⟩

example : [0, 1, 2, 3, 4].map (locate ['a', '\n', '\n', 'b'] ·) =
    [⟨0, 1, 1⟩, ⟨1, 1, 2⟩, ⟨2, 2, 1⟩, ⟨3, 3, 1⟩, ⟨4, 3, 2⟩] := by decide

end Place
end Descent
