import Descent.Proofs.Excerpt

/-!
# Where a note has an excerpt

In a text whose lines are plain a note has an excerpt for the characters of the lines, and none for
an end of a line or the end of the text: the line that is looked up there is shorter than the
column. An excerpt is a part of the text on one line, within the reach on both sides of the
position, which is in it.
-/

namespace Descent

namespace Text

theorem not_endsLine_of_mem_splitLines {t line : Text} (h : line ∈ splitLines t) :
    ∀ c ∈ line, endsLine c = false := by
  induction t generalizing line with
  | nil => cases h
  | cons d t ih =>
    rw [splitLines] at h
    split at h
    · exact ih h
    split at h
    · rcases List.mem_cons.1 h with rfl | h
      · simp
      · exact ih h
    · next hd =>
      have hd : endsLine d = false := Bool.eq_false_iff.2 hd
      cases hlines : splitLines t with
      | nil =>
        rw [hlines] at h
        obtain rfl := List.mem_singleton.1 h
        intro c hc
        obtain rfl := List.mem_singleton.1 hc
        exact hd
      | cons first more =>
        rw [hlines] at h ih
        rcases List.mem_cons.1 h with rfl | h
        · intro c hc
          rcases List.mem_cons.1 hc with rfl | hc
          · exact hd
          · exact ih List.mem_cons_self c hc
        · exact ih (List.mem_cons_of_mem _ h)

theorem length_lastLine_le_cons (c : Char) (t : Text) :
    (lastLine t).length ≤ (lastLine (c :: t)).length := by
  by_cases h : '\n' ∈ t
  · exact Nat.le_of_eq (by rw [lastLine_cons_of_mem c h])
  · by_cases hc : c = '\n'
    · exact Nat.le_of_eq (by rw [hc, lastLine_newline_cons])
    · have hnone : '\n' ∉ c :: t := by simp [h, Ne.symm hc]
      rw [lastLine_of_not_mem h, lastLine_of_not_mem hnone]
      exact Nat.le_succ _

theorem length_le_of_getElem?_splitLines {front behind line : Text}
    (hplain : HasPlainLines (front ++ behind)) (hends : ∀ c ∈ behind.head?, endsLine c = true)
    (h : (splitLines (front ++ behind))[front.count '\n']? = some line) :
    line.length ≤ (lastLine front).length := by
  induction front generalizing line with
  | nil =>
    cases behind with
    | nil => cases h
    | cons c behind =>
      have hhead := head?_splitLines_of_endsLine (hends c rfl) behind
      rw [List.head?_eq_getElem?] at hhead
      obtain rfl := Option.some.inj (hhead.symm.trans h)
      exact Nat.zero_le _
  | cons d front ih =>
    rcases hplain.head_cases with rfl | ⟨rfl, hhead⟩ | hd
    · rw [List.cons_append, splitLines_newline, List.count_cons_self,
        List.getElem?_cons_succ] at h
      rw [lastLine_newline_cons]
      exact ih hplain.2 h
    · -- The carriage return is no part of the line that is looked up, but of the last line.
      rw [List.cons_append, splitLines, if_pos ⟨rfl, hhead⟩,
        List.count_cons_of_ne (by decide)] at h
      exact Nat.le_trans (ih hplain.2 h) (length_lastLine_le_cons _ _)
    · have hne : d ≠ '\n' := ne_of_endsLine hd (by decide)
      rw [List.cons_append, splitLines_cons hd, List.count_cons_of_ne hne] at h
      by_cases hmem : '\n' ∈ front
      · obtain ⟨n, hn⟩ : ∃ n, front.count '\n' = n + 1 :=
          Nat.exists_eq_add_one.2 (List.count_pos_iff.2 hmem)
        rw [hn, getElem?_consLine_succ, ← hn] at h
        rw [lastLine_cons_of_mem _ hmem]
        exact ih hplain.2 h
      · have hnone : '\n' ∉ d :: front := by simp [hmem, Ne.symm hne]
        rw [List.count_eq_zero.2 hmem] at h ih
        rw [lastLine_of_not_mem hmem] at ih
        rw [lastLine_of_not_mem hnone, List.length_cons]
        cases hlines : splitLines (front ++ behind) with
        | nil =>
          rw [hlines] at h
          obtain rfl := Option.some.inj h
          exact Nat.le_add_left 1 _
        | cons first more =>
          rw [hlines] at h ih
          obtain rfl := Option.some.inj h
          exact Nat.succ_le_succ (ih hplain.2 rfl)

theorem lastLine_suffix (t : Text) : lastLine t <:+ t := by
  rw [lastLine, ← List.reverse_prefix, List.reverse_reverse]
  exact List.takeWhile_prefix _

theorem newline_not_mem_decimal (n : Int) : '\n' ∉ decimal n := by
  intro h
  cases n with
  | ofNat n =>
    have hdigit := isDigit_of_mem_decimal (n := n) h
    exact absurd hdigit (by decide)
  | negSucc n =>
    rcases List.mem_cons.1 h with h | h
    · exact absurd h (by decide)
    · have hdigit := isDigit_of_mem_decimal (n := n + 1) h
      exact absurd hdigit (by decide)

theorem drop_take_eq (front line behind : Text) (m n : Nat) : (line.take n).drop m =
    ((front ++ line ++ behind).take (front.length + min n line.length)).drop
      (front.length + m) := by
  rw [List.append_assoc, List.take_length_add_append, List.drop_length_add_append,
    List.take_append_of_le_length (Nat.min_le_right _ _), ← List.take_take, List.take_length]

end Text

namespace Place

theorem newline_not_mem_heading (p : Place) : '\n' ∉ p.heading := by
  have hposition : '\n' ∉ Text.ofString "At position " := by decide
  have hline : '\n' ∉ Text.ofString " (line " := by decide
  have hcolumn : '\n' ∉ Text.ofString ", column " := by decide
  simp [heading, hposition, hline, hcolumn, Text.newline_not_mem_decimal]

theorem exists_eq_drop_take_of_window (front behind : Text) {line shown : Text} {k indent : Nat}
    (hk : k < line.length) (h : window line (k + 1 : Nat) = (shown, indent)) :
    ∃ a b, a ≤ front.length + k ∧ front.length + k < b ∧ b ≤ (front ++ line ++ behind).length ∧
      b - a ≤ 2 * excerptReach ∧ shown = ((front ++ line ++ behind).take b).drop a := by
  have hreach : excerptReach = 20 := rfl
  have hlength : (front ++ line ++ behind).length =
      front.length + line.length + behind.length := by simp only [List.length_append]
  rw [window] at h
  split at h
  · obtain ⟨rfl, -⟩ := Prod.mk.inj h
    refine ⟨front.length + 0, front.length + min (2 * excerptReach) line.length, ?_, ?_, ?_, ?_,
      Text.drop_take_eq front line behind 0 _⟩
    all_goals omega
  · obtain ⟨rfl, -⟩ := Prod.mk.inj h
    refine ⟨front.length + (k + 1 - excerptReach),
      front.length + min (k + 1 + excerptReach) line.length, ?_, ?_, ?_, ?_,
      Text.drop_take_eq front line behind _ _⟩
    all_goals omega

theorem exists_eq_drop_take_of_excerpt {front behind shown : Text} {c : Char} {indent : Nat}
    (hplain : Text.HasPlainLines (front ++ c :: behind)) (hc : Text.endsLine c = false)
    (h : (locate (front ++ c :: behind) front.length).excerpt (front ++ c :: behind) =
      some (shown, indent)) :
    ∃ a b, a ≤ front.length ∧ front.length < b ∧ b ≤ (front ++ c :: behind).length ∧
      b - a ≤ 2 * excerptReach ∧ shown = ((front ++ c :: behind).take b).drop a ∧
      ∀ d ∈ shown, Text.endsLine d = false := by
  let line := Text.lastLine front ++ c :: behind.takeWhile (!Text.endsLine ·)
  have hwindow : window line ((Text.lastLine front).length + 1 : Nat) = (shown, indent) :=
    Option.some.inj ((excerpt_locate hplain hc).symm.trans h)
  have hmem : line ∈ Text.splitLines (front ++ c :: behind) :=
    List.mem_of_getElem? (Text.getElem?_splitLines hplain hc)
  have hcolumn : (Text.lastLine front).length < line.length := by
    rw [List.length_append, List.length_cons]
    omega
  obtain ⟨before, hfront⟩ := Text.lastLine_suffix front
  have hlength : before.length + (Text.lastLine front).length = front.length := by
    rw [← List.length_append, hfront]
  have hsrc : before ++ line ++ behind.dropWhile (!Text.endsLine ·) = front ++ c :: behind := by
    rw [← List.append_assoc, hfront, List.append_assoc, List.cons_append,
      List.takeWhile_append_dropWhile]
  obtain ⟨a, b, ha, hb, hle, hreach, hshown⟩ := exists_eq_drop_take_of_window
    before (behind.dropWhile (!Text.endsLine ·)) hcolumn hwindow
  rw [hlength] at ha hb
  rw [hsrc] at hle hshown
  exact ⟨a, b, ha, hb, hle, hreach, hshown, fun d hd =>
    Text.not_endsLine_of_mem_splitLines hmem d (mem_of_window hwindow hd)⟩

theorem excerpt_eq_none {front behind : Text} (hplain : Text.HasPlainLines (front ++ behind))
    (hends : ∀ c ∈ behind.head?, Text.endsLine c = true) :
    (locate (front ++ behind) front.length).excerpt (front ++ behind) = none := by
  have htake : (front ++ behind).take front.length = front := List.take_left
  simp only [excerpt, locate_natCast, htake, Text.lineNumber, Nat.add_sub_cancel]
  cases hline : (Text.splitLines (front ++ behind))[front.count '\n']? with
  | none => rfl
  | some line =>
    have hle := Text.length_le_of_getElem?_splitLines hplain hends hline
    exact if_neg (by omega)

theorem locate_of_length_le {src : Text} {pos : Nat} (h : src.length ≤ pos) :
    locate src pos = locate src src.length := by
  rw [locate_natCast, locate_natCast, List.take_of_length_le h, List.take_length]
  congr 1
  omega

theorem excerpt_eq_none_of_not_character {src : Text} (hplain : src.HasPlainLines) {pos : Nat}
    (h : ∀ c, src[pos]? = some c → c = '\n' ∨ c = '\r') :
    (locate src pos).excerpt src = none := by
  cases hpos : src[pos]? with
  | none =>
    rw [← List.append_nil src] at hplain
    have hnone := excerpt_eq_none hplain (by simp)
    rw [List.append_nil] at hnone
    rwa [locate_of_length_le (List.getElem?_eq_none_iff.1 hpos)]
  | some c =>
    obtain ⟨front, behind, rfl, rfl⟩ := Text.exists_append_of_getElem? hpos
    refine excerpt_eq_none hplain fun d hd => ?_
    obtain rfl := Option.some.inj hd
    rcases h c hpos with rfl | rfl
    · decide
    · decide

end Place

theorem not_endsInExcerpt_of_no_excerpt {src : Text} {position : Int}
    (h : (Place.locate src position).excerpt src = none) (excerpt : Text) (indent : Nat) :
    ¬ EndsInExcerpt (positionNote src position none) excerpt indent := by
  intro ⟨_, heading, hnote⟩
  rw [positionNote_of_no_excerpt h] at hnote
  refine Place.newline_not_mem_heading (Place.locate src position) ?_
  rw [hnote]
  simp

/-- In a text with plain lines the note of a position has an excerpt exactly if there is a character
of a line at the position. The excerpt is a part of the text with the character in it, no longer
than the reach on both sides, and without an end of a line. -/
theorem has_excerpt_iff_character {src : Text} (hplain : src.HasPlainLines) (reason : Text)
    (pos : Nat) : ∃ note,
      ParseError.report? reason (some src) (some pos) =
        .ok ⟨reason, some src, some pos, [note]⟩ ∧
      ((∃ excerpt indent, EndsInExcerpt note excerpt indent) ↔
        ∃ c, src[pos]? = some c ∧ c ≠ '\n' ∧ c ≠ '\r') ∧
      ∀ excerpt indent, EndsInExcerpt note excerpt indent →
        ∃ a b, a ≤ pos ∧ pos < b ∧ b ≤ src.length ∧ b - a ≤ 40 ∧
          excerpt = (src.take b).drop a ∧ '\n' ∉ excerpt ∧ '\r' ∉ excerpt := by
  refine ⟨_, ParseError.report?_natCast reason src pos, ?_⟩
  by_cases h : ∃ c, src[pos]? = some c ∧ c ≠ '\n' ∧ c ≠ '\r'
  · obtain ⟨c, hc, hlf, hcr⟩ := h
    obtain ⟨front, behind, rfl, rfl⟩ := Text.exists_append_of_getElem? hc
    have hends := hplain.endsLine_eq_false hlf hcr
    obtain ⟨shown, indent, hexcerpt, hline, -⟩ := Place.exists_excerpt hplain hends
    obtain ⟨a, b, ha, hb, hle, hreach, hshown, hplainly⟩ :=
      Place.exists_eq_drop_take_of_excerpt hplain hends hexcerpt
    have hnote := endsInExcerpt_of_excerpt hexcerpt hline
    refine ⟨⟨fun _ => ⟨c, hc, hlf, hcr⟩, fun _ => ⟨shown, indent, hnote⟩⟩, ?_⟩
    intro excerpt indent' hnote'
    obtain ⟨rfl, -⟩ := hnote.unique hnote'
    refine ⟨a, b, ha, hb, hle, hreach, hshown, hline, fun hmem => ?_⟩
    exact absurd (hplainly _ hmem) (by decide)
  · have hnone : (Place.locate src pos).excerpt src = none := by
      refine Place.excerpt_eq_none_of_not_character hplain fun c hc => ?_
      by_cases hlf : c = '\n'
      · exact .inl hlf
      · exact .inr (Classical.not_not.1 fun hcr => h ⟨c, hc, hlf, hcr⟩)
    have hnot := not_endsInExcerpt_of_no_excerpt hnone
    exact ⟨⟨fun ⟨excerpt, indent, hnote⟩ => absurd hnote (hnot excerpt indent),
      fun hcharacter => absurd hcharacter h⟩,
      fun excerpt indent hnote => absurd hnote (hnot excerpt indent)⟩

theorem has_excerpt_iff_character_crlf :
    let src := Text.ofString "ok\r\nab"
    src.HasPlainLines ∧
    (∃ note excerpt indent, ParseError.report? [] (some src) (some 5) =
        .ok ⟨[], some src, some 5, [note]⟩ ∧
      EndsInExcerpt note excerpt indent ∧
      ∃ a b, a ≤ 5 ∧ 5 < b ∧ b ≤ src.length ∧ excerpt = (src.take b).drop a) ∧
    ∃ note, ParseError.report? [] (some src) (some 2) = .ok ⟨[], some src, some 2, [note]⟩ ∧
      ¬ ∃ excerpt indent, EndsInExcerpt note excerpt indent := by
  intro src
  have hplain : src.HasPlainLines := by decide
  have hb : src[5]? = some 'b' := by decide
  have hcr : src[2]? = some '\r' := by decide
  obtain ⟨note, hreport, hiff, hslice⟩ := has_excerpt_iff_character hplain [] 5
  obtain ⟨excerpt, indent, hnote⟩ := hiff.2 ⟨'b', hb, by decide, by decide⟩
  obtain ⟨a, b, ha, hlt, hle, -, hexcerpt, -⟩ := hslice excerpt indent hnote
  obtain ⟨note', hreport', hiff', -⟩ := has_excerpt_iff_character hplain [] 2
  refine ⟨hplain, ⟨note, excerpt, indent, hreport, hnote, a, b, ha, hlt, hle, hexcerpt⟩,
    note', hreport', fun hnote' => ?_⟩
  obtain ⟨c, hc, -, hne⟩ := hiff'.1 hnote'
  exact hne (Option.some.inj (hc.symm.trans hcr))

end Descent
