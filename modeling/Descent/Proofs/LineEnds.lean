import Descent.Proofs.ExcerptRange
import Descent.Proofs.Location

/-!
# The line that a note names and the line of its position

A note counts line feeds, and looks its line up among lines that are cut at other characters too. So
the line it names is not always the one that holds the position: it lies one line further in front
for each line in front of the position that does not end in a line feed. The two are the same
exactly if there is no such line.
-/

namespace Descent

namespace Text

def keptLines : Text → List Text
  | [] => []
  | c :: rest =>
    if c = '\r' ∧ rest.head? = some '\n' then consLine c (keptLines rest)
    else if endsLine c then [c] :: keptLines rest
    else consLine c (keptLines rest)

def endsInLineFeed (line : Text) : Bool := line.getLast? = some '\n'

/-- The character at the position is one of the line number `n`, or of the end of this line. -/
def HoldsPosition (t : Text) (n pos : Nat) : Prop :=
  ∃ before line behind, keptLines t = before ++ line :: behind ∧ before.length = n ∧
    before.flatten.length ≤ pos ∧ pos < before.flatten.length + line.length

theorem flatten_consLine (c : Char) (lines : List Text) :
    (consLine c lines).flatten = c :: lines.flatten := by
  cases lines <;> rfl

theorem flatten_keptLines (t : Text) : (keptLines t).flatten = t := by
  induction t with
  | nil => rfl
  | cons c t ih =>
    rw [keptLines]
    split
    · rw [flatten_consLine, ih]
    split
    · rw [List.flatten_cons, ih, List.singleton_append]
    · rw [flatten_consLine, ih]

theorem keptLines_newline (t : Text) : keptLines ('\n' :: t) = ['\n'] :: keptLines t := by
  rw [keptLines, if_neg (by simp), if_pos (by decide)]

theorem splitLines_eq_map_keptLines (t : Text) :
    splitLines t = (keptLines t).map (List.takeWhile (!endsLine ·)) := by
  induction t with
  | nil => rfl
  | cons c t ih =>
    rw [splitLines, keptLines]
    by_cases hcrlf : c = '\r' ∧ t.head? = some '\n'
    · rw [if_pos hcrlf, if_pos hcrlf, ih]
      obtain ⟨rfl, ht⟩ := hcrlf
      obtain ⟨u, rfl⟩ := List.head?_eq_some_iff.1 ht
      rw [keptLines_newline]
      rfl
    rw [if_neg hcrlf, if_neg hcrlf]
    cases hc : endsLine c with
    | true =>
      rw [if_pos rfl, if_pos rfl, ih, List.map_cons, List.takeWhile_cons_of_neg (by simp [hc])]
    | false =>
      rw [if_neg Bool.false_ne_true, if_neg Bool.false_ne_true, ih]
      cases keptLines t with
      | nil => simp [consLine, hc]
      | cons line lines => simp [consLine, hc]

theorem forall_mem_consLine {P : Text → Prop} {c : Char} {lines : List Text} (hone : P [c])
    (hcons : ∀ line, P line → P (c :: line)) (h : ∀ line ∈ lines, P line) :
    ∀ line ∈ consLine c lines, P line := by
  cases lines with
  | nil => simpa [consLine] using hone
  | cons first more =>
    intro line hline
    rcases List.mem_cons.1 hline with rfl | hline
    · exact hcons first (h first List.mem_cons_self)
    · exact h line (List.mem_cons_of_mem first hline)

theorem keptLines_newline_last (t : Text) :
    ∀ line ∈ keptLines t, line ≠ [] ∧ '\n' ∉ line.dropLast := by
  induction t with
  | nil => simp [keptLines]
  | cons c t ih =>
    have hcons (hc : c ≠ '\n') : ∀ line ∈ consLine c (keptLines t),
        line ≠ [] ∧ '\n' ∉ line.dropLast := by
      refine forall_mem_consLine (by simp) (fun line hline => ⟨List.cons_ne_nil c line, ?_⟩) ih
      rw [List.dropLast_cons_of_ne_nil hline.1, List.mem_cons]
      exact fun h => h.elim (fun h => hc h.symm) hline.2
    rw [keptLines]
    split
    · next hcrlf => exact hcons (by simp [hcrlf.1])
    split
    · intro line hline
      rcases List.mem_cons.1 hline with rfl | hline
      · simp
      · exact ih line hline
    · next hc =>
      refine hcons fun h => hc ?_
      rw [h]
      decide

theorem count_newline_of_last {line : Text} (hne : line ≠ []) (h : '\n' ∉ line.dropLast) :
    line.count '\n' = if endsInLineFeed line then 1 else 0 := by
  have hlast : line.getLast? = some (line.getLast hne) := List.getLast?_eq_some_getLast hne
  have hcount : line.count '\n' = line.dropLast.count '\n' + [line.getLast hne].count '\n' := by
    rw [← List.count_append, List.dropLast_concat_getLast]
  rw [hcount, List.count_eq_zero.2 h, Nat.zero_add, List.count_singleton]
  simp [endsInLineFeed, hlast]

theorem count_newline_add_countP {lines : List Text}
    (h : ∀ line ∈ lines, line ≠ [] ∧ '\n' ∉ line.dropLast) :
    lines.flatten.count '\n' + lines.countP (!endsInLineFeed ·) = lines.length := by
  induction lines with
  | nil => rfl
  | cons line lines ih =>
    have hline := h line List.mem_cons_self
    have hrest := ih fun l hl => h l (List.mem_cons_of_mem line hl)
    rw [List.flatten_cons, List.count_append, List.countP_cons, List.length_cons,
      count_newline_of_last hline.1 hline.2]
    cases endsInLineFeed line with
    | true =>
      simp only [Bool.not_true, Bool.false_eq_true, if_true, if_false]
      omega
    | false =>
      simp only [Bool.not_false, Bool.false_eq_true, if_true, if_false]
      omega

theorem newline_not_mem_take {line : Text} (h : '\n' ∉ line.dropLast) {k : Nat}
    (hk : k < line.length) : '\n' ∉ line.take k := by
  intro hmem
  have htake : line.take k = line.dropLast.take k := by
    rw [List.dropLast_eq_take, List.take_take, Nat.min_eq_left (by omega)]
  rw [htake] at hmem
  exact h (List.mem_of_mem_take hmem)

theorem exists_line_of_lt {lines : List Text} {pos : Nat} (h : pos < lines.flatten.length) :
    ∃ before line behind, lines = before ++ line :: behind ∧ before.flatten.length ≤ pos ∧
      pos < before.flatten.length + line.length := by
  induction lines generalizing pos with
  | nil => exact absurd h (Nat.not_lt_zero pos)
  | cons line lines ih =>
    by_cases hline : pos < line.length
    · exact ⟨[], line, lines, rfl, Nat.zero_le pos, by simpa using hline⟩
    · rw [List.flatten_cons, List.length_append] at h
      have hrest : pos - line.length < lines.flatten.length := by omega
      obtain ⟨before, found, behind, rfl, hle, hlt⟩ := ih hrest
      have hfront : (line :: before).flatten.length = line.length + before.flatten.length := by
        rw [List.flatten_cons, List.length_append]
      exact ⟨line :: before, found, behind, rfl, by omega, by omega⟩

theorem exists_holdsPosition {t : Text} {pos : Nat} (h : pos < t.length) :
    ∃ n, t.HoldsPosition n pos := by
  rw [← flatten_keptLines t] at h
  obtain ⟨before, line, behind, hlines, hle, hlt⟩ := exists_line_of_lt h
  exact ⟨before.length, before, line, behind, hlines, rfl, hle, hlt⟩

theorem HoldsPosition.le {t : Text} {n k pos : Nat} (hn : t.HoldsPosition n pos)
    (hk : t.HoldsPosition k pos) : n ≤ k := by
  obtain ⟨before, line, behind, hlines, rfl, hle, -⟩ := hn
  obtain ⟨front, other, rest, hlines', rfl, -, hlt⟩ := hk
  refine Nat.not_lt.1 fun hlength => ?_
  -- The line that ends behind the position would be one of those in front of it.
  have hfront : front ++ [other] <+: keptLines t := by
    rw [hlines']
    exact ⟨rest, List.append_assoc _ _ _⟩
  have hbefore : before <+: keptLines t := ⟨line :: behind, hlines.symm⟩
  have hlength' : (front ++ [other]).length ≤ before.length := by
    rw [List.length_append]
    exact hlength
  have hsplit := List.prefix_of_prefix_length_le hfront hbefore hlength'
  obtain ⟨more, rfl⟩ := hsplit
  simp only [List.flatten_append, List.length_append, List.flatten_cons, List.flatten_nil,
    List.append_nil] at hle
  omega

theorem HoldsPosition.unique {t : Text} {n k pos : Nat} (hn : t.HoldsPosition n pos)
    (hk : t.HoldsPosition k pos) : n = k := Nat.le_antisymm (hn.le hk) (hk.le hn)

theorem HoldsPosition.count_add_countP {t : Text} {n pos : Nat} (h : t.HoldsPosition n pos) :
    (t.take pos).count '\n' + ((keptLines t).take n).countP (!endsInLineFeed ·) = n := by
  obtain ⟨before, line, behind, hlines, rfl, hle, hlt⟩ := h
  have hlast := keptLines_newline_last t
  rw [hlines] at hlast
  have hfront : ∀ l ∈ before, l ≠ [] ∧ '\n' ∉ l.dropLast := fun l hl =>
    hlast l (List.mem_append_left _ hl)
  have hline : '\n' ∉ line.dropLast := (hlast line (by simp)).2
  have htake : t.take pos = before.flatten ++ line.take (pos - before.flatten.length) := by
    rw [← flatten_keptLines t, hlines, List.flatten_append, List.flatten_cons, List.take_append,
      List.take_of_length_le hle, List.take_append_of_le_length (by omega)]
  have hnone := newline_not_mem_take hline (k := pos - before.flatten.length) (by omega)
  rw [htake, List.count_append, List.count_eq_zero.2 hnone, hlines, List.take_left,
    Nat.add_zero]
  exact count_newline_add_countP hfront

theorem HoldsPosition.lt_length {t : Text} {n pos : Nat} (h : t.HoldsPosition n pos) :
    n < (splitLines t).length := by
  obtain ⟨before, line, behind, hlines, rfl, -, -⟩ := h
  rw [splitLines_eq_map_keptLines, List.length_map, hlines, List.length_append, List.length_cons]
  omega

end Text

namespace Place

theorem infix_of_window {line shown : Text} {column : Int} {indent : Nat}
    (h : window line column = (shown, indent)) : shown <:+: line := by
  unfold window at h
  split at h
  · obtain ⟨rfl, -⟩ := Prod.mk.inj h
    exact (List.take_prefix _ _).isInfix
  · obtain ⟨rfl, -⟩ := Prod.mk.inj h
    exact (List.drop_suffix _ _).isInfix.trans (List.take_prefix _ _).isInfix

theorem exists_window_of_excerpt {src shown : Text} {p : Place} {indent : Nat}
    (h : p.excerpt src = some (shown, indent)) :
    ∃ line, (Text.splitLines src)[p.line - 1]? = some line ∧
      window line p.column = (shown, indent) := by
  unfold excerpt at h
  split at h
  · next line hline =>
    split at h
    · exact ⟨line, hline, Option.some.inj h⟩
    · cases h
  · cases h

theorem infix_of_endsInExcerpt {src line excerpt : Text} {pos : Int} {indent : Nat}
    (hline : (Text.splitLines src)[(locate src pos).line - 1]? = some line)
    (h : EndsInExcerpt (positionNote src pos none) excerpt indent) : excerpt <:+: line := by
  cases hexcerpt : (locate src pos).excerpt src with
  | none => exact absurd h (not_endsInExcerpt_of_no_excerpt hexcerpt excerpt indent)
  | some found =>
    obtain ⟨shown, width⟩ := found
    obtain ⟨line', hline', hwindow⟩ := exists_window_of_excerpt hexcerpt
    obtain rfl : line = line' := Option.some.inj (hline.symm.trans hline')
    have hplain : '\n' ∉ shown := fun hmem =>
      absurd (Text.not_endsLine_of_mem_splitLines (List.mem_of_getElem? hline) _
        (mem_of_window hwindow hmem)) (by decide)
    obtain ⟨rfl, -⟩ := h.unique (endsInExcerpt_of_excerpt hexcerpt hplain)
    exact infix_of_window hwindow

theorem line_locate_natCast (src : Text) (pos : Nat) :
    (locate src pos).line = (src.take pos).count '\n' + 1 := by
  rw [locate_natCast]
  rfl

end Place

/-- The line in which a position lies, and the line that the note of the position names and shows.
The second one is in front of the first by the number of lines in front of the position that do not
end in a line feed. So it holds the position exactly if all of them end in one. -/
theorem note_line_lags_behind_position {src : Text} {pos : Nat} (hpos : pos < src.length)
    (reason : Text) :
    (Text.keptLines src).flatten = src ∧
    Text.splitLines src = (Text.keptLines src).map (List.takeWhile (!Text.endsLine ·)) ∧
    ∃ n note,
      (∀ k, src.HoldsPosition k pos ↔ k = n) ∧
      ParseError.report? reason (some src) (some pos) =
        .ok ⟨reason, some src, some pos, [note]⟩ ∧
      (∃ behind, note = (Place.locate src pos).heading ++ behind) ∧
      (Place.locate src pos).line +
        ((Text.keptLines src).take n).countP (!Text.endsInLineFeed ·) = n + 1 ∧
      (src.HoldsPosition ((Place.locate src pos).line - 1) pos ↔
        ∀ line ∈ (Text.keptLines src).take n, Text.endsInLineFeed line = true) ∧
      ∃ line, (Text.splitLines src)[(Place.locate src pos).line - 1]? = some line ∧
        ∀ excerpt indent, EndsInExcerpt note excerpt indent → excerpt <:+: line := by
  obtain ⟨n, hn⟩ := Text.exists_holdsPosition hpos
  have hcount := hn.count_add_countP
  have hline := Place.line_locate_natCast src pos
  have hlt := hn.lt_length
  have hshown : (Place.locate src pos).line - 1 < (Text.splitLines src).length := by omega
  have hunique (k : Nat) : src.HoldsPosition k pos ↔ k = n :=
    ⟨fun hk => hk.unique hn, fun hk => hk ▸ hn⟩
  refine ⟨Text.flatten_keptLines src, Text.splitLines_eq_map_keptLines src, n, _, hunique,
    ParseError.report?_natCast reason src pos, ?_, by omega, ?_,
    _, List.getElem?_eq_getElem hshown, fun excerpt indent =>
      Place.infix_of_endsInExcerpt (List.getElem?_eq_getElem hshown)⟩
  · obtain ⟨behind, hnote, -⟩ := Place.positionNote_eq_heading_append src pos
    exact ⟨behind, hnote⟩
  · have hnone : ((Text.keptLines src).take n).countP (!Text.endsInLineFeed ·) = 0 ↔
        ∀ line ∈ (Text.keptLines src).take n, Text.endsInLineFeed line = true := by
      simp [List.countP_eq_zero]
    rw [hunique, ← hnone]
    omega

def formFed : Text := ['a', '\u000c', 'b', '\n', 'c']

theorem formFed_holdsPosition : formFed.HoldsPosition 2 4 :=
  ⟨[['a', '\u000c'], ['b', '\n']], ['c'], [], by decide, rfl, by decide, by decide⟩

theorem note_line_lags_behind_position_form_feed :
    ∃ line note : Text, 4 < formFed.length ∧ formFed[4]? = some 'c' ∧
      (∀ k, formFed.HoldsPosition k 4 ↔ k = 2) ∧
      ParseError.report? ['m'] (some formFed) (some 4) =
        .ok ⟨['m'], some formFed, some 4, [note]⟩ ∧
      note = Text.ofString "At position 4 (line 2, column 1)\nb\n^" ∧
      EndsInExcerpt note ['b'] 0 ∧ (Text.splitLines formFed)[1]? = some line ∧ ['b'] <:+: line := by
  have hpos : 4 < formFed.length := by decide
  obtain ⟨-, -, n, note, hholds, hreport, -, -, -, line, hline, hshown⟩ :=
    note_line_lags_behind_position hpos ['m']
  obtain rfl : n = 2 := ((hholds 2).1 formFed_holdsPosition).symm
  have hnote : note = positionNote formFed 4 none := by
    have hreports := hreport.symm.trans (ParseError.report?_natCast ['m'] formFed 4)
    simpa using hreports
  have hexcerpt : EndsInExcerpt note ['b'] 0 := by
    rw [hnote]
    exact endsInExcerpt_of_excerpt (by decide) (by decide)
  exact ⟨line, note, hpos, rfl, hholds, hreport, hnote.trans (by decide), hexcerpt, hline,
    hshown _ _ hexcerpt⟩

theorem not_line_of_every_note_holds_position :
    ¬ ∀ (src : Text) (pos : Nat), pos < src.length →
      src.HoldsPosition ((Place.locate src pos).line - 1) pos := by
  intro h
  have hsecond := h formFed 4 (by decide)
  exact absurd (hsecond.unique formFed_holdsPosition) (by decide)

end Descent
