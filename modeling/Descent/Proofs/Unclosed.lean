import Descent.Proofs.Quotation

/-!
# Quoted texts that are not closed

A text that does not begin with the quote is refused at its first character. Behind the quote the
reader goes on through the items and fails only where no further item begins and no quote stands:
at the end of the input, or at an escape character that is the last character of the input and is
not escaped itself. It always wants the quote there. What the parsers of the items say when they
fail is never heard.
-/

namespace Descent.ParserT

open Quotation

section
variable {m : Type → Type} [Monad m] [LawfulMonad m] {quote escape : Char}
  (replacement : Char → Option Text)

theorem quotedText_of_head {src : Text} (h : src.head? ≠ some quote) :
    quotedText (m := m) quote escape replacement src =
      pure (.failure (wanted (Text.quote [quote]) src.head?)) :=
  bind_of_failure (bind_of_failure (char_of_head h))

theorem quotedText_of_stop {items : List Item} {stop : Text}
    (hs : AllAllowed quote escape items) (hstop : Stops quote escape stop)
    (h : stop.head? ≠ some quote) :
    quotedText (m := m) quote escape replacement (quote :: (spell escape items ++ stop)) =
      pure (.failure (wanted (Text.quote [quote]) stop.head?)) := by
  rw [quotedText_cons replacement hs hstop]
  exact bind_of_failure (char_of_head h)

theorem quotedText_of_spell {items : List Item} (hs : AllAllowed quote escape items) :
    quotedText (m := m) quote escape replacement (quote :: spell escape items) =
      pure (.failure (wanted (Text.quote [quote]) none)) := by
  have hanswer := quotedText_of_stop (m := m) replacement hs .atEnd (by simp)
  rwa [List.append_nil] at hanswer

theorem quotedText_of_spell_escape {items : List Item} (hne : quote ≠ escape)
    (hs : AllAllowed quote escape items) :
    quotedText (m := m) quote escape replacement (quote :: (spell escape items ++ [escape])) =
      pure (.failure (wanted (Text.quote [quote]) (some escape))) :=
  quotedText_of_stop replacement hs .atEscape fun h => hne (Option.some.inj h).symm

end

variable {ω : Type} {quote escape : Char} (replacement : Char → Option Text)

theorem exists_quotedText_eq_failure_iff (hne : quote ≠ escape) (src : Text) :
    (∃ e, (quotedText quote escape replacement src : Eval ω (Result Text)) = pure (.failure e)) ↔
      ¬ ∃ items rest, AllAllowed quote escape items ∧
        src = quote :: (spell escape items ++ quote :: rest) := by
  constructor
  · intro ⟨e, he⟩ ⟨items, rest, hs, hsrc⟩
    rw [hsrc, quotedText_of_items replacement hne hs rest, Eval.pure_inj] at he
    cases he
  · intro hopen
    rcases quotedText_cases (m := Eval ω) replacement hne src with hclosed | hfails
    · exact absurd hclosed hopen
    · exact hfails

theorem quotedText_eq_failure_iff (hne : quote ≠ escape) (src e : Text) :
    (quotedText quote escape replacement src : Eval ω (Result Text)) = pure (.failure e) ↔
      (src.head? ≠ some quote ∧ e = wanted (Text.quote [quote]) src.head?) ∨
      (∃ items, AllAllowed quote escape items ∧ src = quote :: spell escape items ∧
        e = wanted (Text.quote [quote]) none) ∨
      ∃ items, AllAllowed quote escape items ∧ src = quote :: (spell escape items ++ [escape]) ∧
        e = wanted (Text.quote [quote]) (some escape) := by
  constructor
  · intro h
    by_cases hhead : src.head? = some quote
    · obtain ⟨t, rfl⟩ := List.head?_eq_some_iff.1 hhead
      obtain ⟨items, stop, hs, hstop, rfl⟩ := exists_spell_append quote escape t
      cases hstop with
      | atEnd =>
        rw [List.append_nil, quotedText_of_spell replacement hs, Eval.pure_inj] at h
        cases h
        exact .inr (.inl ⟨items, hs, by rw [List.append_nil], rfl⟩)
      | atQuote _ rest =>
        rw [quotedText_of_items replacement hne hs rest, Eval.pure_inj] at h
        cases h
      | atEscape =>
        rw [quotedText_of_spell_escape replacement hne hs, Eval.pure_inj] at h
        cases h
        exact .inr (.inr ⟨items, hs, rfl, rfl⟩)
    · rw [quotedText_of_head replacement hhead, Eval.pure_inj] at h
      cases h
      exact .inl ⟨hhead, rfl⟩
  · intro h
    rcases h with ⟨hhead, rfl⟩ | ⟨items, hs, rfl, rfl⟩ | ⟨items, hs, rfl, rfl⟩
    · exact quotedText_of_head replacement hhead
    · exact quotedText_of_spell replacement hs
    · exact quotedText_of_spell_escape replacement hne hs

/-- A quoted text that is not closed fails in one of three ways: the quote in front is missing, the
input ends behind an item, or it ends in an escape character that is not escaped. The last two are
told apart by the number of escape characters at the end of the input. -/
theorem quotedText_fails_in_three_ways (hne : quote ≠ escape) :
    (∀ src, (∃ e, (quotedText quote escape replacement src : Eval ω (Result Text)) =
        pure (.failure e)) ↔
      ¬ ∃ items rest, AllAllowed quote escape items ∧
        src = quote :: (spell escape items ++ quote :: rest)) ∧
    (∀ src e, (quotedText quote escape replacement src : Eval ω (Result Text)) =
        pure (.failure e) ↔
      (src.head? ≠ some quote ∧ e = wanted (Text.quote [quote]) src.head?) ∨
      (∃ items, AllAllowed quote escape items ∧ src = quote :: spell escape items ∧
        e = wanted (Text.quote [quote]) none) ∨
      ∃ items, AllAllowed quote escape items ∧ src = quote :: (spell escape items ++ [escape]) ∧
        e = wanted (Text.quote [quote]) (some escape)) ∧
    ∀ body e, (quotedText quote escape replacement (quote :: body) : Eval ω (Result Text)) =
        pure (.failure e) →
      (¬ EscapesNext escape body ∧ e = wanted (Text.quote [quote]) none) ∨
      (EscapesNext escape body ∧ e = wanted (Text.quote [quote]) (some escape)) := by
  refine ⟨exists_quotedText_eq_failure_iff replacement hne,
    quotedText_eq_failure_iff replacement hne, fun body e h => ?_⟩
  rcases (quotedText_eq_failure_iff replacement hne _ e).1 h with
    ⟨hhead, -⟩ | ⟨items, hs, hbody, he⟩ | ⟨items, hs, hbody, he⟩
  · exact absurd rfl hhead
  · obtain rfl := (List.cons.inj hbody).2
    exact .inl ⟨not_escapesNext_spell hs, he⟩
  · obtain rfl := (List.cons.inj hbody).2
    exact .inr ⟨(escapesNext_concat _ escape).2 ⟨rfl, not_escapesNext_spell hs⟩, he⟩

theorem quotedText_fails_in_three_ways_lone_escape :
    ∃ src : Text, src = ['"', 'a', '\\', '"', '\\', '\\', '\\'] ∧ '"' ≠ '\\' ∧
      (quotedText '"' '\\' (fun _ => none) src : Eval Unit (Result Text)) =
        pure (.failure (Text.ofString "Expected '\"' but got '\\\\'")) ∧
      ¬ (∃ items rest, AllAllowed '"' '\\' items ∧
        src = '"' :: (spell '\\' items ++ '"' :: rest)) ∧
      EscapesNext '\\' src.tail := by
  have hne : '"' ≠ '\\' := by decide
  obtain ⟨hfails, hmessages, hending⟩ :=
    quotedText_fails_in_three_ways (ω := Unit) (fun _ => none) hne
  let items : List Item := [.plain 'a', .escaped '"', .escaped '\\']
  have hitems : AllAllowed '"' '\\' items := by simp [items, AllAllowed, Item.IsAllowed]
  have hanswer := (hmessages _ _).2 (.inr (.inr ⟨items, hitems, rfl, rfl⟩))
  refine ⟨_, rfl, hne, hanswer, (hfails _).1 ⟨_, hanswer⟩, ?_⟩
  rcases hending _ _ hanswer with ⟨-, hmessage⟩ | ⟨hescapes, -⟩
  · exact absurd hmessage (by decide)
  · exact hescapes

end Descent.ParserT
