import Descent.Place

/-!
# The line of a position

A position is located by the line feeds in front of it, and its line is then looked up among the
lines that are cut at every character that ends one. In a text where only line feeds end a line,
with or without a carriage return in front of them, the line that is found is the line of the
position: what stands between the last line feed and the next end of a line.
-/

namespace Descent

namespace Text

/-- Only line feeds end a line; there may be a carriage return in front of a line feed. -/
def HasPlainLines : Text → Prop
  | [] => True
  | c :: behind =>
    (endsLine c = true → c = '\n' ∨ c = '\r' ∧ behind.head? = some '\n') ∧ HasPlainLines behind

instance decidableHasPlainLines : (t : Text) → Decidable t.HasPlainLines
  | [] => .isTrue trivial
  | c :: behind =>
    have : Decidable (HasPlainLines behind) := decidableHasPlainLines behind
    inferInstanceAs (Decidable
      ((endsLine c = true → c = '\n' ∨ c = '\r' ∧ behind.head? = some '\n') ∧ HasPlainLines behind))

theorem hasPlainLines_iff (t : Text) : t.HasPlainLines ↔
    ∀ front c behind, t = front ++ c :: behind → endsLine c = true →
      c = '\n' ∨ c = '\r' ∧ behind.head? = some '\n' := by
  induction t with
  | nil => simp [HasPlainLines]
  | cons d t ih =>
    rw [HasPlainLines, ih]
    constructor
    · intro ⟨hd, ht⟩ front c behind h hc
      cases front with
      | nil =>
        obtain ⟨rfl, rfl⟩ := List.cons.inj h
        exact hd hc
      | cons e front => exact ht front c behind (List.cons.inj h).2 hc
    · intro h
      have hd := h [] d t rfl
      have ht : ∀ front c behind, t = front ++ c :: behind → endsLine c = true →
          c = '\n' ∨ c = '\r' ∧ behind.head? = some '\n' := by
        intro front c behind ht
        exact h (d :: front) c behind (by rw [ht, List.cons_append])
      exact ⟨hd, ht⟩

theorem HasPlainLines.of_append {t : Text} (front : Text) (h : HasPlainLines (front ++ t)) :
    t.HasPlainLines := by
  induction front with
  | nil => exact h
  | cons c front ih => exact ih h.2

theorem HasPlainLines.head_cases {c : Char} {t : Text} (h : HasPlainLines (c :: t)) :
    c = '\n' ∨ (c = '\r' ∧ t.head? = some '\n') ∨ endsLine c = false := by
  cases hc : endsLine c with
  | false => exact .inr (.inr rfl)
  | true =>
    rcases h.1 hc with hlf | hcrlf
    · exact .inl hlf
    · exact .inr (.inl hcrlf)

theorem HasPlainLines.endsLine_eq_false {front : Text} {c : Char} {behind : Text}
    (h : HasPlainLines (front ++ c :: behind)) (hlf : c ≠ '\n') (hcr : c ≠ '\r') :
    endsLine c = false := by
  rcases (h.of_append front).head_cases with hc | ⟨hc, -⟩ | hc
  · exact absurd hc hlf
  · exact absurd hc hcr
  · exact hc

theorem exists_append_of_getElem? {t : Text} {n : Nat} {c : Char} (h : t[n]? = some c) :
    ∃ front behind, t = front ++ c :: behind ∧ front.length = n := by
  obtain ⟨hn, hget⟩ := List.getElem?_eq_some_iff.1 h
  refine ⟨t.take n, t.drop (n + 1), ?_, List.length_take_of_le (Nat.le_of_lt hn)⟩
  rw [← hget, ← List.drop_eq_getElem_cons hn, List.take_append_drop]

/-! What stands behind the last line feed. -/

theorem lastLine_append_of_not_mem (s : Text) {t : Text} (h : '\n' ∉ t) :
    lastLine (s ++ t) = lastLine s ++ t := by
  have hall : ∀ c ∈ t.reverse, decide (c ≠ '\n') = true := by
    intro c hc
    have hne : c ≠ '\n' := fun e => h (e ▸ List.mem_reverse.1 hc)
    exact decide_eq_true hne
  rw [lastLine, List.reverse_append, List.takeWhile_append_of_pos hall, List.reverse_append,
    List.reverse_reverse, lastLine]

theorem lastLine_of_not_mem {t : Text} (h : '\n' ∉ t) : lastLine t = t :=
  lastLine_append_of_not_mem [] h

theorem lastLine_append_newline (s : Text) {t : Text} (h : '\n' ∉ t) :
    lastLine (s ++ '\n' :: t) = t := by
  have hempty : lastLine (s ++ ['\n']) = [] := by simp [lastLine]
  rw [List.append_cons, lastLine_append_of_not_mem _ h, hempty, List.nil_append]

theorem newline_not_mem_lastLine (t : Text) : '\n' ∉ lastLine t := by
  intro h
  have hne := List.all_eq_true.1 List.all_takeWhile _ (List.mem_reverse.1 h)
  exact of_decide_eq_true hne rfl

theorem exists_eq_append_lastLine {t : Text} (h : '\n' ∈ t) :
    ∃ s, t = s ++ '\n' :: lastLine t := by
  obtain ⟨back, front, hreverse, hback⟩ := List.eq_append_cons_of_mem (List.mem_reverse.2 h)
  have ht : t = front.reverse ++ '\n' :: back.reverse := by
    rw [← List.reverse_reverse t, hreverse]
    simp
  have hlast : lastLine t = back.reverse := by
    rw [ht, lastLine_append_newline _ (by rwa [List.mem_reverse])]
  rw [hlast]
  exact ⟨front.reverse, ht⟩

theorem lastLine_cons_of_mem (c : Char) {t : Text} (h : '\n' ∈ t) :
    lastLine (c :: t) = lastLine t := by
  obtain ⟨s, ht⟩ := exists_eq_append_lastLine h
  have hcons : c :: t = (c :: s) ++ '\n' :: lastLine t := by rw [List.cons_append, ← ht]
  rw [hcons, lastLine_append_newline _ (newline_not_mem_lastLine t)]

theorem lastLine_newline_cons (t : Text) : lastLine ('\n' :: t) = lastLine t := by
  by_cases h : '\n' ∈ t
  · exact lastLine_cons_of_mem '\n' h
  · rw [lastLine_of_not_mem h]
    exact lastLine_append_newline [] h

theorem length_lastLine_le (t : Text) : (lastLine t).length ≤ t.length := by
  have h := (List.takeWhile_sublist (· ≠ '\n') (l := t.reverse)).length_le
  rw [List.length_reverse] at h
  rwa [lastLine, List.length_reverse]

/-! The lines. -/

theorem ne_of_endsLine {c d : Char} (hc : endsLine c = false) (hd : endsLine d = true) :
    c ≠ d := by
  intro h
  rw [h, hd] at hc
  cases hc

theorem splitLines_cons {c : Char} (hc : endsLine c = false) (t : Text) :
    splitLines (c :: t) = consLine c (splitLines t) := by
  have hcr : c ≠ '\r' := ne_of_endsLine hc (by decide)
  rw [splitLines, if_neg (fun h => hcr h.1), hc, if_neg Bool.false_ne_true]

theorem splitLines_newline (t : Text) : splitLines ('\n' :: t) = [] :: splitLines t := by
  rw [splitLines, if_neg (by simp), if_pos (by decide)]

theorem head?_splitLines_of_endsLine {c : Char} (hc : endsLine c = true) (t : Text) :
    (splitLines (c :: t)).head? = some [] := by
  by_cases h : c = '\r' ∧ t.head? = some '\n'
  · obtain ⟨rfl, ht⟩ := h
    obtain ⟨u, rfl⟩ := List.head?_eq_some_iff.1 ht
    rw [splitLines_crlf]
    rfl
  · rw [splitLines, if_neg h, hc, if_pos rfl]
    rfl

theorem getElem?_consLine_succ (c : Char) (lines : List Text) (n : Nat) :
    (consLine c lines)[n + 1]? = lines[n + 1]? := by
  cases lines <;> rfl

theorem head?_splitLines {t : Text} (h : t ≠ []) :
    (splitLines t).head? = some (t.takeWhile (!endsLine ·)) := by
  induction t with
  | nil => exact absurd rfl h
  | cons c t ih =>
    cases hc : endsLine c with
    | true => rw [head?_splitLines_of_endsLine hc, List.takeWhile_cons_of_neg (by simp [hc])]
    | false =>
      rw [splitLines_cons hc, List.takeWhile_cons_of_pos (by simp [hc])]
      cases t with
      | nil => rfl
      | cons d t =>
        obtain ⟨lines, hlines⟩ := List.head?_eq_some_iff.1 (ih (List.cons_ne_nil d t))
        rw [hlines]
        rfl

/-- The line with the number of a character is what stands in front of the character since the last
line feed, the character, and what stands behind it up to the next end of a line. -/
theorem getElem?_splitLines {front : Text} {c : Char} {behind : Text}
    (hplain : HasPlainLines (front ++ c :: behind)) (hc : endsLine c = false) :
    (splitLines (front ++ c :: behind))[front.count '\n']? =
      some (lastLine front ++ c :: behind.takeWhile (!endsLine ·)) := by
  induction front with
  | nil =>
    have hhead := head?_splitLines (List.cons_ne_nil c behind)
    rw [List.takeWhile_cons_of_pos (by simp [hc])] at hhead
    rw [List.head?_eq_getElem?] at hhead
    exact hhead
  | cons d front ih =>
    have hline := ih hplain.2
    rcases hplain.head_cases with rfl | ⟨rfl, hhead⟩ | hd
    · rw [List.cons_append, splitLines_newline, List.count_cons_self, List.getElem?_cons_succ,
        hline, lastLine_newline_cons]
    · -- The line feed is in front of the character too, which ends no line.
      have hmem : '\n' ∈ front := by
        cases front with
        | nil =>
          obtain rfl : c = '\n' := Option.some.inj hhead
          exact absurd hc (by decide)
        | cons e front =>
          obtain rfl : e = '\n' := Option.some.inj hhead
          exact List.mem_cons_self
      rw [List.cons_append, splitLines, if_pos ⟨rfl, hhead⟩, List.count_cons_of_ne (by decide),
        hline, lastLine_cons_of_mem _ hmem]
    · have hne : d ≠ '\n' := ne_of_endsLine hd (by decide)
      rw [List.cons_append, splitLines_cons hd, List.count_cons_of_ne hne]
      by_cases hmem : '\n' ∈ front
      · obtain ⟨n, hn⟩ : ∃ n, front.count '\n' = n + 1 :=
          Nat.exists_eq_add_one.2 (List.count_pos_iff.2 hmem)
        rw [hn, getElem?_consLine_succ, ← hn, hline, lastLine_cons_of_mem _ hmem]
      · have hnone : '\n' ∉ d :: front := by simp [hmem, Ne.symm hne]
        rw [List.count_eq_zero.2 hmem, lastLine_of_not_mem hmem] at hline
        rw [List.count_eq_zero.2 hmem, lastLine_of_not_mem hnone]
        obtain ⟨lines, hlines⟩ := List.head?_eq_some_iff.1 (List.head?_eq_getElem? ▸ hline)
        rw [hlines]
        rfl

theorem newline_not_mem_line (front : Text) {c : Char} (hc : endsLine c = false)
    (behind : Text) : '\n' ∉ lastLine front ++ c :: behind.takeWhile (!endsLine ·) := by
  intro h
  rcases List.mem_append.1 h with h | h
  · exact newline_not_mem_lastLine front h
  rcases List.mem_cons.1 h with rfl | h
  · exact absurd hc (by decide)
  · have hends := List.all_eq_true.1 List.all_takeWhile _ h
    exact absurd hends (by decide)

end Text

namespace Place

theorem locate_natCast (src : Text) (pos : Nat) : locate src pos =
    ⟨min pos src.length, Text.lineNumber (src.take pos),
      (Text.lastLine (src.take pos)).length + 1⟩ := by
  have hclamp : min (pos : Int) src.length = (min pos src.length : Nat) := by omega
  have htake : src.take (min pos src.length) = src.take pos := by
    rw [← List.take_take, List.take_length]
  have hlast := Text.length_lastLine_le (src.take pos)
  have hlength : (src.take pos).length = min pos src.length := List.length_take
  simp only [locate, hclamp, Text.front_natCast, htake]
  congr 1
  omega

end Place
end Descent
