import Descent.Proofs.Pieces
import Descent.Proofs.Unclosed

/-!
# Quoted texts without escapes

Where the escape character does not occur, the items between the quotes are characters for
themselves, and a quoted text is what stands in front of the first quote with a quote on both
sides. Where the two marks are the same character, a quote with anything behind it is an escape. A
text in such quotes is closed by the quote that ends the input, and by no other one.
-/

namespace Descent

namespace Quotation

variable {quote escape : Char} {t : Text}

theorem spell_map_plain (escape : Char) (t : Text) : spell escape (t.map .plain) = t := by
  induction t with
  | nil => rfl
  | cons c t ih => rw [List.map_cons, spell_cons, ih, Item.spelling, List.singleton_append]

theorem decode_map_plain (replacement : Char → Option Text) (t : Text) :
    decode replacement (t.map .plain) = t := by
  induction t with
  | nil => rfl
  | cons c t ih =>
    rw [decode] at ih
    rw [List.map_cons, decode, List.flatMap_cons, ih, Item.meaning, List.singleton_append]

theorem allAllowed_map_plain (hquote : quote ∉ t) (hescape : escape ∉ t) :
    AllAllowed quote escape (t.map .plain) := by
  intro i hi
  obtain ⟨c, hc, rfl⟩ := List.mem_map.1 hi
  exact ⟨fun h => hquote (h ▸ hc), fun h => hescape (h ▸ hc)⟩

end Quotation

namespace ParserT

open Quotation

section
variable {m : Type → Type} [Monad m] [LawfulMonad m] {quote escape : Char}

/-! A text up to the first quote, with a quote on both sides. -/

theorem between_upTo_of_head {src : Text} (h : src.head? ≠ some quote) :
    between (char (m := m) quote) (char quote) (upTo quote) src =
      pure (.failure (wanted (Text.quote [quote]) src.head?)) := by
  rw [between_eq_after, after_eq_bind, bind_of_failure (char_of_head h)]

theorem between_upTo_append {s : Text} (h : quote ∉ s) (rest : Text) :
    between (char (m := m) quote) (char quote) (upTo quote) (quote :: (s ++ quote :: rest)) =
      pure (.success s rest) := by
  rw [between_eq_after, after_eq_bind, bind_of_success (char_self quote _), before_eq_bind,
    bind_of_success (upTo_append h rest), bind_of_success (char_self quote rest)]
  rfl

theorem between_upTo_of_not_mem {s : Text} (h : quote ∉ s) :
    between (char (m := m) quote) (char quote) (upTo quote) (quote :: s) =
      pure (.failure (wanted (Text.quote [quote]) none)) := by
  rw [between_eq_after, after_eq_bind, bind_of_success (char_self quote s), before_eq_bind,
    bind_of_failure (upTo_of_not_mem h)]

variable (replacement : Char → Option Text)

theorem quotedText_of_plain {s : Text} (hne : quote ≠ escape) (hquote : quote ∉ s)
    (hescape : escape ∉ s) (rest : Text) :
    quotedText (m := m) quote escape replacement (quote :: (s ++ quote :: rest)) =
      pure (.success s rest) := by
  have hread := quotedText_of_items (m := m) replacement hne
    (allAllowed_map_plain hquote hescape) rest
  rwa [spell_map_plain, decode_map_plain] at hread

theorem quotedText_of_plain_open {s : Text} (hquote : quote ∉ s) (hescape : escape ∉ s) :
    quotedText (m := m) quote escape replacement (quote :: s) =
      pure (.failure (wanted (Text.quote [quote]) none)) := by
  have hread := quotedText_of_spell (m := m) replacement (allAllowed_map_plain hquote hescape)
  rwa [spell_map_plain] at hread

/-- On an input without the escape character a quoted text is the text up to the first quote, with
a quote on both sides. The two readers have the same values, leave the same and fail with the same
messages, also if the escape character is the quote. -/
theorem quotedText_eq_between_upTo {src : Text} (h : escape ∉ src) :
    quotedText (m := m) quote escape replacement src =
      between (char quote) (char quote) (upTo quote) src := by
  by_cases hhead : src.head? = some quote
  · obtain ⟨t, rfl⟩ := List.head?_eq_some_iff.1 hhead
    have hne : quote ≠ escape := fun heq => h (heq ▸ List.mem_cons_self)
    have hescape : escape ∉ t := fun hmem => h (List.mem_cons_of_mem quote hmem)
    by_cases hquote : quote ∈ t
    · obtain ⟨s, rest, rfl, hs⟩ := List.eq_append_cons_of_mem hquote
      have hplain : escape ∉ s := fun hmem => hescape (List.mem_append_left _ hmem)
      rw [quotedText_of_plain replacement hne hs hplain, between_upTo_append hs]
    · rw [quotedText_of_plain_open replacement hquote hescape, between_upTo_of_not_mem hquote]
  · rw [quotedText_of_head replacement hhead, between_upTo_of_head hhead]

theorem quotedText_eq_between_upTo_plain :
    LawfulMonad (Eval Unit) ∧ '\\' ∉ ['"', 'a', '"', 'b'] ∧ '"' ∉ ['a'] ∧
    (quotedText '"' '\\' (fun _ => none) ['"', 'a', '"', 'b'] : Eval Unit (Result Text)) =
      pure (.success ['a'] ['b']) ∧
    (quotedText '"' '"' (fun _ => none) ['a'] : Eval Unit (Result Text)) =
      between (char '"') (char '"') (upTo '"') ['a'] := by
  have hlawful : LawfulMonad (Eval Unit) := inferInstance
  have hescape : '\\' ∉ ['"', 'a', '"', 'b'] := by decide
  have hmark : '"' ∉ ['a'] := by decide
  have hread : between (char '"') (char '"') (upTo '"') ['"', 'a', '"', 'b'] =
      (pure (.success ['a'] ['b']) : Eval Unit (Result Text)) := between_upTo_append hmark ['b']
  exact ⟨hlawful, hescape, hmark, (quotedText_eq_between_upTo _ hescape).trans hread,
    quotedText_eq_between_upTo _ hmark⟩

/-! Marks that are the same character. -/

theorem quotedText_same_mark_of_items {items : List Item} (hs : AllAllowed quote quote items) :
    quotedText (m := m) quote quote replacement (quote :: (spell quote items ++ [quote])) =
      pure (.success (decode replacement items) []) := by
  rw [quotedText_cons replacement hs .atEscape]
  exact bind_of_success (char_self quote [])

theorem quotedText_same_mark (quote : Char) (body : Text) :
    (∃ items, AllAllowed quote quote items ∧ body = spell quote items ++ [quote] ∧
      EscapesNext quote body ∧ quotedText (m := m) quote quote replacement (quote :: body) =
        pure (.success (decode replacement items) [])) ∨
    (¬ EscapesNext quote body ∧ quotedText (m := m) quote quote replacement (quote :: body) =
      pure (.failure (wanted (Text.quote [quote]) none))) := by
  -- A quote followed by anything is an item, so the items stop at the end or at a last quote.
  obtain ⟨items, stop, hs, hstop, rfl⟩ := exists_spell_append quote quote body
  have heven := not_escapesNext_spell hs
  cases hstop with
  | atEnd =>
    rw [List.append_nil]
    exact .inr ⟨heven, quotedText_of_spell replacement hs⟩
  | atQuote hne _ => exact absurd rfl hne
  | atEscape =>
    exact .inl ⟨items, hs, rfl, (escapesNext_concat _ quote).2 ⟨rfl, heven⟩,
      quotedText_same_mark_of_items replacement hs⟩

end

variable {ω : Type} {quote escape : Char} (replacement : Char → Option Text)

theorem quotedText_plain_eq_success_iff {s rest : Text} (hquote : quote ∉ s)
    (hescape : escape ∉ s) :
    (quotedText quote escape replacement (quote :: (s ++ quote :: rest)) : Eval ω (Result Text)) =
      pure (.success s rest) ↔ quote ≠ escape ∨ rest = [] := by
  by_cases hne : quote = escape
  · subst hne
    constructor
    · intro h
      rcases quotedText_same_mark (m := Eval ω) replacement quote (s ++ quote :: rest) with
        ⟨items, -, -, -, hread⟩ | ⟨-, hread⟩
      · rw [hread, Eval.pure_inj] at h
        cases h
        exact .inr rfl
      · rw [hread, Eval.pure_inj] at h
        cases h
    · intro h
      obtain rfl := h.resolve_left fun hne => hne rfl
      have hread := quotedText_same_mark_of_items (m := Eval ω) replacement
        (allAllowed_map_plain hquote hescape)
      rwa [spell_map_plain, decode_map_plain] at hread
  · exact ⟨fun _ => .inl hne, fun _ => quotedText_of_plain replacement hne hquote hescape rest⟩

/-- Characters without a meaning of their own between quotes are closed by the quote behind them if
the two marks differ. If they are the same, this quote has to be the end of the input. In fact no
text in such quotes leaves anything, and which ones are closed at all is told by the number of
quotes at the end of the input. -/
theorem quotedText_closes_iff_marks_differ_or_at_end :
    (∀ s rest, quote ∉ s → escape ∉ s →
      ((quotedText quote escape replacement (quote :: (s ++ quote :: rest)) :
          Eval ω (Result Text)) = pure (.success s rest) ↔ quote ≠ escape ∨ rest = [])) ∧
    (quote = escape → ∀ body,
      (EscapesNext quote body → ∃ items, AllAllowed quote escape items ∧
        body = spell escape items ++ [quote] ∧
        (quotedText quote escape replacement (quote :: body) : Eval ω (Result Text)) =
          pure (.success (decode replacement items) [])) ∧
      (¬ EscapesNext quote body →
        (quotedText quote escape replacement (quote :: body) : Eval ω (Result Text)) =
          pure (.failure (wanted (Text.quote [quote]) none)))) := by
  refine ⟨fun s rest => quotedText_plain_eq_success_iff replacement, ?_⟩
  rintro rfl body
  rcases quotedText_same_mark (m := Eval ω) replacement quote body with
    ⟨items, hs, hbody, hescapes, hread⟩ | ⟨hescapes, hread⟩
  · exact ⟨fun _ => ⟨items, hs, hbody, hread⟩, fun h => absurd hescapes h⟩
  · exact ⟨fun h => absurd h hescapes, fun _ => hread⟩

theorem quotedText_closes_iff_marks_differ_or_at_end_strokes :
    '|' ∉ ['i', 't'] ∧ EscapesNext '|' ['a', '|', '|', '|'] ∧
    ¬ EscapesNext '|' ['i', 't', '|', ' '] ∧
    (quotedText '|' '|' (fun _ => none) ['|', 'i', 't', '|'] : Eval Unit (Result Text)) =
      pure (.success ['i', 't'] []) ∧
    (quotedText '|' '\\' (fun _ => none) ['|', 'i', 't', '|', ' '] : Eval Unit (Result Text)) =
      pure (.success ['i', 't'] [' ']) ∧
    (∃ items, AllAllowed '|' '|' items ∧ ['a', '|', '|', '|'] = spell '|' items ++ ['|'] ∧
      (quotedText '|' '|' (fun _ => none) ['|', 'a', '|', '|', '|'] : Eval Unit (Result Text)) =
        pure (.success (decode (fun _ => none) items) [])) ∧
    (quotedText '|' '|' (fun _ => none) ['|', 'i', 't', '|', ' '] : Eval Unit (Result Text)) =
      pure (.failure (Text.ofString "Expected '|' but got end of input")) := by
  have hmark : '|' ∉ ['i', 't'] := by decide
  have hescape : '\\' ∉ ['i', 't'] := by decide
  have hodd : EscapesNext '|' ['a', '|', '|', '|'] := by simp [EscapesNext]
  have heven : ¬ EscapesNext '|' ['i', 't', '|', ' '] := by simp [EscapesNext]
  obtain ⟨hsame, hends⟩ :=
    @quotedText_closes_iff_marks_differ_or_at_end Unit '|' '|' fun _ => none
  obtain ⟨hdiffer, -⟩ :=
    @quotedText_closes_iff_marks_differ_or_at_end Unit '|' '\\' fun _ => none
  exact ⟨hmark, hodd, heven, (hsame _ _ hmark hmark).2 (.inr rfl),
    (hdiffer _ _ hmark hescape).2 (.inl (by decide)), (hends rfl _).1 hodd, (hends rfl _).2 heven⟩

theorem not_quotedText_closes_for_all_marks :
    ¬ ∀ (quote escape : Char) (s rest : Text), quote ∉ s → escape ∉ s →
      (quotedText quote escape (fun c => (Alphabet.escapes.lookup c).map ([·]))
        (quote :: (s ++ quote :: rest)) : Eval Unit (Result Text)) =
          pure (.success s rest) := by
  intro h
  let replacement : Char → Option Text := fun c => (Alphabet.escapes.lookup c).map ([·])
  have hitems : AllAllowed '"' '"' [.escaped 'a'] := by simp [AllAllowed, Item.IsAllowed]
  have hopen := quotedText_of_spell (m := Eval Unit) replacement hitems
  have hclosed := h '"' '"' [] ['a'] (by decide) (by decide)
  cases Eval.pure_inj.1 (hclosed.symm.trans hopen)

end ParserT
end Descent
