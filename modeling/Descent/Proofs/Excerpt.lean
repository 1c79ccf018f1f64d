import Descent.Complete
import Descent.Proofs.Lines

/-!
# The caret of an excerpt

A note with an excerpt ends in a part of the line of the position and a caret below it. Up to the
reach of an excerpt the line is shown from its start and the caret stands below the character of the
position. In a column beyond it the excerpt begins one character late for its caret, which stands
below the next character of the line, or behind the line.
-/

namespace Descent

/-- The note ends in `excerpt` and, on a line of its own, a caret behind `indent` blanks. -/
def EndsInExcerpt (note excerpt : Text) (indent : Nat) : Prop :=
  '\n' ∉ excerpt ∧ ∃ heading, note =
    heading ++ '\n' :: (excerpt ++ '\n' :: (List.replicate indent ' ' ++ ['^']))

theorem newline_not_mem_caretLine (indent : Nat) :
    '\n' ∉ List.replicate indent ' ' ++ ['^'] := by
  intro h
  rcases List.mem_append.1 h with h | h
  · exact absurd (List.eq_of_mem_replicate h) (by decide)
  · exact absurd (List.mem_singleton.1 h) (by decide)

theorem EndsInExcerpt.unique {note excerpt excerpt' : Text} {indent indent' : Nat}
    (h : EndsInExcerpt note excerpt indent) (h' : EndsInExcerpt note excerpt' indent') :
    excerpt = excerpt' ∧ indent = indent' := by
  obtain ⟨hline, heading, hnote⟩ := h
  obtain ⟨hline', heading', hnote'⟩ := h'
  rw [← List.cons_append, ← List.append_assoc] at hnote hnote'
  have hlast : Text.lastLine note = List.replicate indent ' ' ++ ['^'] := by
    rw [hnote, Text.lastLine_append_newline _ (newline_not_mem_caretLine indent)]
  have hlast' : Text.lastLine note = List.replicate indent' ' ' ++ ['^'] := by
    rw [hnote', Text.lastLine_append_newline _ (newline_not_mem_caretLine indent')]
  have hindent : indent = indent' := by
    have hlength := congrArg List.length (hlast.symm.trans hlast')
    simpa using hlength
  subst hindent
  have hfront : heading ++ '\n' :: excerpt = heading' ++ '\n' :: excerpt' :=
    List.append_cancel_right (hnote.symm.trans hnote')
  have hexcerpt := congrArg Text.lastLine hfront
  rw [Text.lastLine_append_newline _ hline, Text.lastLine_append_newline _ hline'] at hexcerpt
  exact ⟨hexcerpt, rfl⟩

namespace Place

/-! The part of a line that is shown. -/

theorem mem_of_window {line shown : Text} {column : Int} {indent : Nat}
    (h : window line column = (shown, indent)) {c : Char} (hc : c ∈ shown) : c ∈ line := by
  unfold window at h
  split at h
  · obtain ⟨rfl, -⟩ := Prod.mk.inj h
    exact List.mem_of_mem_take hc
  · obtain ⟨rfl, -⟩ := Prod.mk.inj h
    exact List.mem_of_mem_take (List.mem_of_mem_drop hc)

section
variable {front : Text} {c : Char} {behind : Text}

theorem getElem?_line : (front ++ c :: behind)[front.length]? = some c := by
  rw [List.getElem?_append_right (Nat.le_refl _), Nat.sub_self]
  rfl

theorem getElem?_line_succ : (front ++ c :: behind)[front.length + 1]? = behind.head? := by
  rw [List.getElem?_append_right (Nat.le_add_right _ 1), Nat.add_sub_cancel_left,
    List.head?_eq_getElem?]
  rfl

theorem window_of_lt (h : front.length < excerptReach) :
    ∃ shown, window (front ++ c :: behind) (front.length + 1) = (shown, front.length) ∧
      shown[front.length]? = some c := by
  refine ⟨(front ++ c :: behind).take (2 * excerptReach), ?_, ?_⟩
  · rw [window, if_pos (by omega)]
    congr 1
    omega
  · have hshown : front.length < 2 * excerptReach := by omega
    rw [List.getElem?_take_of_lt hshown, getElem?_line]

theorem window_of_le (h : excerptReach ≤ front.length) :
    ∃ shown, window (front ++ c :: behind) (front.length + 1) = (shown, excerptReach) ∧
      shown[excerptReach - 1]? = some c ∧ shown[excerptReach]? = behind.head? := by
  have hreach : excerptReach = 20 := rfl
  refine ⟨((front ++ c :: behind).take (front.length + 1 + excerptReach)).drop
    (front.length + 1 - excerptReach), ?_, ?_, ?_⟩
  · rw [window, if_neg (by omega)]
    rfl
  · have hindex : front.length + 1 - excerptReach + (excerptReach - 1) = front.length := by omega
    rw [List.getElem?_drop, hindex, List.getElem?_take_of_lt (by omega), getElem?_line]
  · have hindex : front.length + 1 - excerptReach + excerptReach = front.length + 1 := by omega
    rw [List.getElem?_drop, hindex, List.getElem?_take_of_lt (by omega), getElem?_line_succ]

/-! The excerpt of a position in a text whose lines are plain. -/

theorem excerpt_locate (hplain : Text.HasPlainLines (front ++ c :: behind))
    (hc : Text.endsLine c = false) :
    (locate (front ++ c :: behind) front.length).excerpt (front ++ c :: behind) =
      some (window (Text.lastLine front ++ c :: behind.takeWhile (!Text.endsLine ·))
        ((Text.lastLine front).length + 1)) := by
  have htake : (front ++ c :: behind).take front.length = front := List.take_left
  have hreach : ((Text.lastLine front).length : Int) + 1 ≤
      (Text.lastLine front ++ c :: behind.takeWhile (!Text.endsLine ·)).length := by
    rw [List.length_append, List.length_cons]
    omega
  simp only [excerpt, locate_natCast, htake, Text.lineNumber, Nat.add_sub_cancel,
    Text.getElem?_splitLines hplain hc]
  rw [if_pos hreach]

theorem column_locate : (locate (front ++ c :: behind) front.length).column =
    (Text.lastLine front).length + 1 := by
  rw [locate_natCast, List.take_left]

theorem exists_excerpt (hplain : Text.HasPlainLines (front ++ c :: behind))
    (hc : Text.endsLine c = false) :
    ∃ shown indent, (locate (front ++ c :: behind) front.length).excerpt
        (front ++ c :: behind) = some (shown, indent) ∧ '\n' ∉ shown ∧
      ((locate (front ++ c :: behind) front.length).column ≤ excerptReach ∧
          shown[indent]? = some c ∨
        excerptReach < (locate (front ++ c :: behind) front.length).column ∧
          indent = excerptReach ∧ shown[excerptReach - 1]? = some c ∧
          shown[excerptReach]? = behind.head?.filter (!Text.endsLine ·)) := by
  have hexcerpt := excerpt_locate hplain hc
  have hline : ∀ shown indent, window (Text.lastLine front ++
      c :: behind.takeWhile (!Text.endsLine ·)) ((Text.lastLine front).length + 1) =
        (shown, indent) → '\n' ∉ shown := by
    intro shown indent hwindow hmem
    exact Text.newline_not_mem_line front hc behind (mem_of_window hwindow hmem)
  rw [column_locate]
  by_cases h : (Text.lastLine front).length < excerptReach
  · obtain ⟨shown, hwindow, hshown⟩ := window_of_lt h
    exact ⟨shown, _, hexcerpt.trans (congrArg some hwindow), hline shown _ hwindow,
      .inl ⟨by omega, hshown⟩⟩
  · obtain ⟨shown, hwindow, hshown, hnext⟩ := window_of_le (Nat.le_of_not_lt h)
    rw [List.head?_takeWhile] at hnext
    exact ⟨shown, _, hexcerpt.trans (congrArg some hwindow), hline shown _ hwindow,
      .inr ⟨by omega, rfl, hshown, hnext⟩⟩

end

end Place

/-! The note. -/

theorem positionNote_of_excerpt {src : Text} {position : Int} {excerpt : Text} {indent : Nat}
    (h : (Place.locate src position).excerpt src = some (excerpt, indent)) :
    positionNote src position none = (Place.locate src position).heading ++
      '\n' :: (excerpt ++ '\n' :: (List.replicate indent ' ' ++ ['^'])) := by
  rw [positionNote, Place.noteLines, h]
  simp [List.intercalate]

theorem positionNote_of_no_excerpt {src : Text} {position : Int}
    (h : (Place.locate src position).excerpt src = none) :
    positionNote src position none = (Place.locate src position).heading := by
  rw [positionNote, Place.noteLines, h]
  simp [List.intercalate]

theorem ParseError.report?_natCast (reason src : Text) (pos : Nat) :
    ParseError.report? reason (some src) (some pos) =
      .ok ⟨reason, some src, some pos, [positionNote src pos none]⟩ := by
  have hcolumn : ¬ ((Place.locate src pos).column - 1 < ParseError.minIndent) := by
    simp only [Place.locate_natCast, ParseError.minIndent]
    omega
  exact if_neg (fun h => hcolumn h.2)

theorem endsInExcerpt_of_excerpt {src : Text} {position : Int} {excerpt : Text} {indent : Nat}
    (h : (Place.locate src position).excerpt src = some (excerpt, indent))
    (hline : '\n' ∉ excerpt) : EndsInExcerpt (positionNote src position none) excerpt indent :=
  ⟨hline, _, positionNote_of_excerpt h⟩

/-- For a character on a plain line the note ends in an excerpt. Up to the reach the caret is below
the character. Beyond it the caret is one too far to the right, below the next character of the line
if there is one, and so it marks the character only where the next one is the same. -/
theorem caret_marks_character_iff {src : Text} {pos : Nat} {c : Char} (hplain : src.HasPlainLines)
    (hc : src[pos]? = some c) (hlf : c ≠ '\n') (hcr : c ≠ '\r') (reason : Text) :
    ∃ note excerpt indent,
      ParseError.report? reason (some src) (some pos) =
        .ok ⟨reason, some src, some pos, [note]⟩ ∧
      EndsInExcerpt note excerpt indent ∧
      ((Place.locate src pos).column ≤ excerptReach → excerpt[indent]? = some c) ∧
      (excerptReach < (Place.locate src pos).column → indent = excerptReach ∧
        excerpt[excerptReach - 1]? = some c ∧
        excerpt[excerptReach]? = src[pos + 1]?.filter (!Text.endsLine ·)) ∧
      (excerpt[indent]? = some c ↔
        (Place.locate src pos).column ≤ excerptReach ∨ src[pos + 1]? = some c) := by
  obtain ⟨front, behind, hsrc, hlength⟩ := Text.exists_append_of_getElem? hc
  subst hsrc hlength
  have hends := hplain.endsLine_eq_false hlf hcr
  obtain ⟨excerpt, indent, hexcerpt, hline, hcaret⟩ := Place.exists_excerpt hplain hends
  refine ⟨_, excerpt, indent, ParseError.report?_natCast reason _ front.length,
    endsInExcerpt_of_excerpt hexcerpt hline, ?_⟩
  rw [Place.getElem?_line_succ]
  rcases hcaret with ⟨hcolumn, hshown⟩ | ⟨hcolumn, hindent, hshown, hnext⟩
  · refine ⟨fun _ => hshown, fun h => absurd h (by omega), ?_⟩
    exact ⟨fun _ => .inl hcolumn, fun _ => hshown⟩
  · have hbelow : excerpt[indent]? = some c ↔ behind.head? = some c := by
      rw [hindent, hnext, Option.filter_eq_some_iff, hends]
      exact and_iff_left rfl
    refine ⟨fun h => absurd h (by omega), fun _ => ⟨hindent, hshown, hnext⟩, ?_⟩
    rw [hbelow]
    constructor
    · intro h
      exact .inr h
    · intro h
      exact h.resolve_left (by omega)

theorem caret_marks_character_iff_beyond_reach :
    let src := Text.ofString "ok\r\naaaaaaaaaaaaaaaaaaaabc"
    src.HasPlainLines ∧ src[24]? = some 'b' ∧ ∃ note excerpt indent,
      ParseError.report? [] (some src) (some 24) = .ok ⟨[], some src, some 24, [note]⟩ ∧
      EndsInExcerpt note excerpt indent ∧ indent = 20 ∧ excerpt[19]? = some 'b' ∧
      excerpt[indent]? = some 'c' := by
  intro src
  have hplain : src.HasPlainLines := by decide
  have hb : src[24]? = some 'b' := by decide
  have hcolumn : excerptReach < (Place.locate src 24).column := by decide
  obtain ⟨note, excerpt, indent, hreport, hends, -, hbeyond, -⟩ :=
    caret_marks_character_iff hplain hb (by decide) (by decide) []
  obtain ⟨hindent, hshown, hnext⟩ := hbeyond hcolumn
  have hc : excerpt[indent]? = some 'c' := by
    rw [hindent, hnext]
    decide
  exact ⟨hplain, hb, note, excerpt, indent, hreport, hends, hindent, hshown, hc⟩

theorem not_caret_below_every_character :
    ¬ ∀ (reason src : Text) (pos : Nat) (c : Char), src.HasPlainLines → src[pos]? = some c →
      c ≠ '\n' → c ≠ '\r' → ∃ note excerpt indent,
        ParseError.report? reason (some src) (some pos) =
          .ok ⟨reason, some src, some pos, [note]⟩ ∧
        EndsInExcerpt note excerpt indent ∧ excerpt[indent]? = some c := by
  intro h
  let src := Text.ofString "aaaaaaaaaaaaaaaaaaaabc"
  obtain ⟨note, excerpt, indent, hreport, hends, hshown⟩ :=
    h (Text.ofString "m") src 20 'b' (by decide) (by decide) (by decide) (by decide)
  have hexcerpt : (Place.locate src 20).excerpt src =
      some (Text.ofString "aaaaaaaaaaaaaaaaaaabc", 20) := by decide
  have hnote : positionNote src 20 none = note := by
    have hreports := (ParseError.report?_natCast (Text.ofString "m") src 20).symm.trans hreport
    simpa using hreports
  have hactual := endsInExcerpt_of_excerpt hexcerpt (by decide)
  rw [hnote] at hactual
  obtain ⟨rfl, rfl⟩ := hends.unique hactual
  exact absurd hshown (by decide)

end Descent
