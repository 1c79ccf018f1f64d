import Descent.Proofs.Alternatives
import Descent.Proofs.Outcome
import Descent.Proofs.Runs

/-!
# Quoted texts

Between the quotes stands a list of items, each of them a character for itself or a character behind
the escape character. Every text is spelled by items up to a place where no item begins. The reader
gets to this place and no further, so it accepts a text if a quote stands there, and what it answers
with is the meaning of the items. The same quote is the first one in the text that has an even
number of escape characters directly in front of it.
-/

namespace Descent

namespace Quotation

inductive Item where
  | plain (c : Char)
  | escaped (c : Char)

namespace Item

def spelling (escape : Char) : Item → Text
  | plain c => [c]
  | escaped c => [escape, c]

def meaning (replacement : Char → Option Text) : Item → Text
  | plain c => [c]
  | escaped c => (replacement c).getD [c]

def IsAllowed (quote escape : Char) : Item → Prop
  | plain c => c ≠ quote ∧ c ≠ escape
  | escaped _ => True

end Item

def spell (escape : Char) (items : List Item) : Text := items.flatMap (Item.spelling escape)

def decode (replacement : Char → Option Text) (items : List Item) : Text :=
  items.flatMap (Item.meaning replacement)

def AllAllowed (quote escape : Char) (items : List Item) : Prop :=
  ∀ i ∈ items, i.IsAllowed quote escape

inductive Stops (quote escape : Char) : Text → Prop
  | atEnd : Stops quote escape []
  | atQuote (h : quote ≠ escape) (rest : Text) : Stops quote escape (quote :: rest)
  | atEscape : Stops quote escape [escape]

/-- Whether the character behind `t` is escaped: of the escape characters at the end of `t` every
second one is escaped itself. -/
def EscapesNext (escape : Char) (t : Text) : Prop :=
  (t.reverse.takeWhile (· = escape)).length % 2 = 1

def EndsAtFirstQuote (quote escape : Char) (t : Text) : Prop :=
  ¬ EscapesNext escape t ∧ ∀ front behind, t = front ++ quote :: behind → EscapesNext escape front

variable {quote escape : Char}

theorem AllAllowed.cons {i : Item} {items : List Item} (hi : i.IsAllowed quote escape)
    (hs : AllAllowed quote escape items) : AllAllowed quote escape (i :: items) := by
  intro j hj
  rcases List.mem_cons.1 hj with rfl | hj
  · exact hi
  · exact hs j hj

theorem spell_cons (i : Item) (items : List Item) :
    spell escape (i :: items) = i.spelling escape ++ spell escape items := rfl

theorem exists_spell_append (quote escape : Char) (t : Text) : ∃ items stop,
    AllAllowed quote escape items ∧ Stops quote escape stop ∧ t = spell escape items ++ stop := by
  induction t using shorter_induction with
  | shorter t ih =>
    have hnone : AllAllowed quote escape [] := by simp [AllAllowed]
    cases t with
    | nil => exact ⟨[], [], hnone, .atEnd, rfl⟩
    | cons c rest =>
      by_cases he : c = escape
      · subst he
        cases rest with
        | nil => exact ⟨[], [c], hnone, .atEscape, rfl⟩
        | cons d rest =>
          have hlt : rest.length < (c :: d :: rest).length := by
            rw [List.length_cons, List.length_cons]
            omega
          obtain ⟨items, stop, hitems, hstop, rfl⟩ := ih rest hlt
          have hd : (Item.escaped d).IsAllowed quote c := trivial
          exact ⟨.escaped d :: items, stop, hitems.cons hd, hstop, rfl⟩
      · by_cases hq : c = quote
        · subst hq
          exact ⟨[], c :: rest, hnone, .atQuote he rest, rfl⟩
        · obtain ⟨items, stop, hitems, hstop, rfl⟩ := ih rest (Nat.lt_succ_self rest.length)
          have hc : (Item.plain c).IsAllowed quote escape := ⟨hq, he⟩
          exact ⟨.plain c :: items, stop, hitems.cons hc, hstop, rfl⟩

/-! The quotes within a spelling are those that are escaped. -/

theorem not_escapesNext_nil (escape : Char) : ¬ EscapesNext escape [] := by simp [EscapesNext]

theorem escapesNext_concat (t : Text) (c : Char) :
    EscapesNext escape (t ++ [c]) ↔ c = escape ∧ ¬ EscapesNext escape t := by
  by_cases hc : c = escape
  · subst hc
    have hrun : ((t ++ [c]).reverse.takeWhile (· = c)).length =
        (t.reverse.takeWhile (· = c)).length + 1 := by simp
    rw [EscapesNext, EscapesNext, hrun, eq_self, true_and]
    omega
  · simp [EscapesNext, hc]

theorem not_escapesNext_append_spelling {t : Text} {i : Item} (ht : ¬ EscapesNext escape t)
    (hi : i.IsAllowed quote escape) : ¬ EscapesNext escape (t ++ i.spelling escape) := by
  cases i with
  | plain c =>
    rw [Item.spelling, escapesNext_concat]
    exact fun h => hi.2 h.1
  | escaped c =>
    have hsplit : t ++ [escape, c] = (t ++ [escape]) ++ [c] := by simp
    rw [Item.spelling, hsplit, escapesNext_concat, escapesNext_concat]
    exact fun h => h.2 ⟨rfl, ht⟩

theorem not_escapesNext_append_spell {t : Text} {items : List Item} (ht : ¬ EscapesNext escape t)
    (hs : AllAllowed quote escape items) : ¬ EscapesNext escape (t ++ spell escape items) := by
  induction items generalizing t with
  | nil => simpa [spell] using ht
  | cons i items ih =>
    have hi : i.IsAllowed quote escape := hs i (by simp)
    rw [spell_cons, ← List.append_assoc]
    exact ih (not_escapesNext_append_spelling ht hi) fun j hj => hs j (by simp [hj])

theorem not_escapesNext_spell {items : List Item} (hs : AllAllowed quote escape items) :
    ¬ EscapesNext escape (spell escape items) :=
  not_escapesNext_append_spell (not_escapesNext_nil escape) hs

theorem escapesNext_of_quote_mem_spell (hne : quote ≠ escape) {t front behind : Text}
    {items : List Item} (ht : ¬ EscapesNext escape t) (hs : AllAllowed quote escape items)
    (h : spell escape items = front ++ quote :: behind) : EscapesNext escape (t ++ front) := by
  induction items generalizing t front with
  | nil => simp [spell] at h
  | cons i items ih =>
    have hi : i.IsAllowed quote escape := hs i (by simp)
    have hs' : AllAllowed quote escape items := fun j hj => hs j (by simp [hj])
    have hnext := not_escapesNext_append_spelling ht hi
    cases i with
    | plain c =>
      rw [spell_cons, Item.spelling, List.singleton_append] at h
      cases front with
      | nil =>
        have hc : c = quote := (List.cons.inj h).1
        exact absurd hc hi.1
      | cons d front =>
        obtain ⟨hd, h⟩ := List.cons.inj h
        have hfront := ih hnext hs' h
        rw [← hd]
        rwa [Item.spelling, List.append_assoc] at hfront
    | escaped c =>
      rw [spell_cons, Item.spelling, List.cons_append, List.singleton_append] at h
      cases front with
      | nil =>
        have he : escape = quote := (List.cons.inj h).1
        exact absurd he.symm hne
      | cons d front =>
        obtain ⟨hd, h⟩ := List.cons.inj h
        cases front with
        | nil =>
          rw [← hd]
          exact (escapesNext_concat t escape).2 ⟨rfl, ht⟩
        | cons d' front =>
          obtain ⟨hd', h⟩ := List.cons.inj h
          have hfront := ih hnext hs' h
          rw [← hd, ← hd']
          rwa [Item.spelling, List.append_assoc] at hfront

theorem endsAtFirstQuote_iff (hne : quote ≠ escape) (t : Text) :
    EndsAtFirstQuote quote escape t ↔
      ∃ items, AllAllowed quote escape items ∧ t = spell escape items := by
  constructor
  · intro h
    obtain ⟨items, stop, hs, hstop, rfl⟩ := exists_spell_append quote escape t
    have heven := not_escapesNext_spell hs
    cases hstop with
    | atEnd => exact ⟨items, hs, List.append_nil _⟩
    | atQuote _ rest => exact absurd (h.2 _ rest rfl) heven
    | atEscape => exact absurd ((escapesNext_concat _ escape).2 ⟨rfl, heven⟩) h.1
  · intro ⟨items, hs, ht⟩
    subst ht
    have hinner : ∀ front behind, spell escape items = front ++ quote :: behind →
        EscapesNext escape front := fun front behind h =>
      escapesNext_of_quote_mem_spell hne (not_escapesNext_nil escape) hs h
    exact ⟨not_escapesNext_spell hs, hinner⟩

theorem exists_decode_eq (quote escape : Char) {replacement : Char → Option Text}
    (hquote : (replacement quote).getD [quote] = [quote])
    (hescape : (replacement escape).getD [escape] = [escape]) (content : Text) :
    ∃ items, AllAllowed quote escape items ∧ decode replacement items = content := by
  induction content with
  | nil => exact ⟨[], by simp [AllAllowed], rfl⟩
  | cons c content ih =>
    obtain ⟨items, hs, rfl⟩ := ih
    by_cases hc : c = quote ∨ c = escape
    · have hmeaning : (Item.escaped c).meaning replacement = [c] := by
        rcases hc with rfl | rfl
        · exact hquote
        · exact hescape
      have hi : (Item.escaped c).IsAllowed quote escape := trivial
      refine ⟨.escaped c :: items, hs.cons hi, ?_⟩
      rw [decode, List.flatMap_cons, hmeaning]
      rfl
    · have hi : (Item.plain c).IsAllowed quote escape := not_or.1 hc
      exact ⟨.plain c :: items, hs.cons hi, rfl⟩

end Quotation

namespace ParserT

open Quotation

section
variable {m : Type → Type} [Monad m] [LawfulMonad m] {quote escape : Char}
  (replacement : Char → Option Text)

theorem escapedChar_cons_cons (c : Char) (rest : Text) :
    escapedChar (m := m) escape replacement (escape :: c :: rest) =
      pure (.success ((replacement c).getD [c]) rest) := by
  rw [escapedChar, after_eq_bind, bind_of_success (char_self escape (c :: rest))]
  exact bind_of_success (satisfy_of_test _ _ _ rfl rest)

theorem exists_escapedChar_eq_failure {c : Char} (h : c ≠ escape) (rest : Text) :
    ∃ e, escapedChar (m := m) escape replacement (c :: rest) = pure (.failure e) :=
  ⟨_, bind_of_failure (char_of_ne h rest)⟩

theorem plainChar_of_allowed {c : Char} (h : (Item.plain c).IsAllowed quote escape)
    (rest : Text) :
    plainChar (m := m) quote escape (c :: rest) = pure (.success [c] rest) := by
  have htest : (c != quote && c != escape) = true := by simpa [Item.IsAllowed] using h
  exact bind_of_success (satisfy_of_test _ _ _ htest rest)

theorem exists_plainChar_eq_failure {c : Char} (h : c = quote ∨ c = escape) (rest : Text) :
    ∃ e, plainChar (m := m) quote escape (c :: rest) = pure (.failure e) := by
  have htest : (c != quote && c != escape) = false := by
    rcases h with rfl | rfl <;> simp
  exact ⟨_, bind_of_failure (satisfy_of_not_test _ _ _ htest rest)⟩

def quotedItem (quote escape : Char) (replacement : Char → Option Text) : ParserT m Text :=
  orElse (escapedChar escape replacement) (plainChar quote escape)

theorem quotedItem_append {i : Item} (hi : i.IsAllowed quote escape) (rest : Text) :
    quotedItem (m := m) quote escape replacement (i.spelling escape ++ rest) =
      pure (.success (i.meaning replacement) rest) := by
  cases i with
  | plain c =>
    obtain ⟨e, he⟩ := exists_escapedChar_eq_failure (m := m) replacement hi.2 rest
    rw [Item.spelling, List.singleton_append, quotedItem, orElse_of_failure he]
    exact plainChar_of_allowed hi rest
  | escaped c => exact orElse_of_success (escapedChar_cons_cons replacement c rest)

theorem exists_quotedItem_eq_failure {stop : Text} (h : Stops quote escape stop) :
    ∃ e, quotedItem (m := m) quote escape replacement stop = pure (.failure e) := by
  have hfirst : ∃ e, escapedChar (m := m) escape replacement stop = pure (.failure e) := by
    cases h with
    | atEnd => exact ⟨_, bind_of_failure rfl⟩
    | atQuote hne rest => exact exists_escapedChar_eq_failure replacement hne rest
    | atEscape =>
      rw [escapedChar, after_eq_bind, bind_of_success (char_self escape [])]
      exact ⟨_, bind_of_failure rfl⟩
  have hsecond : ∃ e, plainChar (m := m) quote escape stop = pure (.failure e) := by
    cases h with
    | atEnd => exact ⟨_, bind_of_failure rfl⟩
    | atQuote _ rest => exact exists_plainChar_eq_failure (.inl rfl) rest
    | atEscape => exact exists_plainChar_eq_failure (.inr rfl) []
  obtain ⟨e, he⟩ := hfirst
  rw [quotedItem, orElse_of_failure he]
  exact hsecond

theorem many_quotedItem {items : List Item} {stop : Text} (hs : AllAllowed quote escape items)
    (hstop : Stops quote escape stop) :
    many (quotedItem (m := m) quote escape replacement) (spell escape items ++ stop) =
      pure (.success (items.map (Item.meaning replacement)) stop) := by
  induction items with
  | nil =>
    obtain ⟨e, he⟩ := exists_quotedItem_eq_failure (m := m) replacement hstop
    exact many_of_failure he
  | cons i items ih =>
    have hi : i.IsAllowed quote escape := hs i (by simp)
    have hlt : (spell escape items ++ stop).length <
        (i.spelling escape ++ (spell escape items ++ stop)).length := by
      have hpos : 0 < (i.spelling escape).length := by
        cases i with
        | plain c => exact Nat.succ_pos _
        | escaped c => exact Nat.succ_pos _
      simp only [List.length_append]
      omega
    rw [spell_cons, List.append_assoc, many_of_success (quotedItem_append replacement hi _) hlt,
      ih fun j hj => hs j (by simp [hj]), map_pure]
    rfl

theorem quotedText_cons {items : List Item} {stop : Text} (hs : AllAllowed quote escape items)
    (hstop : Stops quote escape stop) :
    quotedText (m := m) quote escape replacement (quote :: (spell escape items ++ stop)) =
      ParserT.bind (char quote) (fun _ => .pure (decode replacement items)) stop := by
  have hbody : quotedBody (m := m) quote escape replacement (spell escape items ++ stop) =
      pure (.success (decode replacement items) stop) := by
    rw [decode, List.flatMap_def]
    exact bind_of_success (many_quotedItem replacement hs hstop)
  rw [quotedText, between_eq_after, after_eq_bind, bind_of_success (char_self quote _),
    before_eq_bind, bind_of_success hbody]

theorem quotedText_of_items {items : List Item} (hne : quote ≠ escape)
    (hs : AllAllowed quote escape items) (rest : Text) :
    quotedText (m := m) quote escape replacement (quote :: (spell escape items ++ quote :: rest)) =
      pure (.success (decode replacement items) rest) := by
  rw [quotedText_cons replacement hs (.atQuote hne rest)]
  exact bind_of_success (char_self quote rest)

theorem quotedText_cases (hne : quote ≠ escape) (src : Text) :
    (∃ items rest, AllAllowed quote escape items ∧
      src = quote :: (spell escape items ++ quote :: rest)) ∨
    ∃ e, quotedText (m := m) quote escape replacement src = pure (.failure e) := by
  have hclosed {c : Char} (hc : c ≠ quote) (rest : Text) (v : Text) :
      ∃ e, ParserT.bind (char (m := m) quote) (fun _ => .pure v) (c :: rest) =
        pure (.failure e) := ⟨_, bind_of_failure (char_of_ne hc rest)⟩
  cases src with
  | nil => exact .inr ⟨_, bind_of_failure (bind_of_failure rfl)⟩
  | cons c t =>
    by_cases hc : c = quote
    · subst hc
      obtain ⟨items, stop, hs, hstop, rfl⟩ := exists_spell_append c escape t
      cases hstop with
      | atQuote _ rest => exact .inl ⟨items, rest, hs, rfl⟩
      | atEnd =>
        rw [quotedText_cons replacement hs .atEnd]
        exact .inr ⟨_, bind_of_failure rfl⟩
      | atEscape =>
        rw [quotedText_cons replacement hs .atEscape]
        exact .inr (hclosed hne.symm [] _)
    · exact .inr ⟨_, bind_of_failure (bind_of_failure (char_of_ne hc t))⟩

end

variable {ω : Type} {quote escape : Char} (replacement : Char → Option Text)

theorem quotedText_eq_success_iff (hne : quote ≠ escape) (src v rest : Text) :
    (quotedText quote escape replacement src : Eval ω (Result Text)) = pure (.success v rest) ↔
      ∃ items, AllAllowed quote escape items ∧
        src = quote :: (spell escape items ++ quote :: rest) ∧ v = decode replacement items := by
  constructor
  · intro h
    obtain ⟨items, last, hs, rfl⟩ | ⟨e, he⟩ :=
      quotedText_cases (m := Eval ω) replacement hne src
    · rw [quotedText_of_items replacement hne hs last, Eval.pure_inj] at h
      cases h
      exact ⟨items, hs, rfl, rfl⟩
    · rw [he, Eval.pure_inj] at h
      cases h
  · intro ⟨items, hs, hsrc, hv⟩
    rw [hsrc, hv]
    exact quotedText_of_items replacement hne hs rest

/-- A quoted text is read if items with quotes around them stand at the beginning of the text, and
only then. Each text can be written in this way, and the quote that closes it is the first one that
is not escaped. -/
theorem quotedText_reads_items (hne : quote ≠ escape) :
    (∀ src v rest,
      (quotedText quote escape replacement src : Eval ω (Result Text)) = pure (.success v rest) ↔
        ∃ items, AllAllowed quote escape items ∧
          src = quote :: (spell escape items ++ quote :: rest) ∧ v = decode replacement items) ∧
    ((replacement quote).getD [quote] = [quote] → (replacement escape).getD [escape] = [escape] →
      ∀ content, ∃ written, ∀ rest,
        (quotedText quote escape replacement (quote :: (written ++ quote :: rest)) :
          Eval ω (Result Text)) = pure (.success content rest)) ∧
    ∀ src rest,
      (∃ v, (quotedText quote escape replacement src : Eval ω (Result Text)) =
        pure (.success v rest)) ↔
      ∃ front, src = quote :: (front ++ quote :: rest) ∧ EndsAtFirstQuote quote escape front := by
  refine ⟨quotedText_eq_success_iff replacement hne, fun hquote hescape content => ?_,
    fun src rest => ?_⟩
  · obtain ⟨items, hs, rfl⟩ := exists_decode_eq quote escape hquote hescape content
    exact ⟨spell escape items, quotedText_of_items replacement hne hs⟩
  · simp only [quotedText_eq_success_iff replacement hne, endsAtFirstQuote_iff hne]
    constructor
    · intro ⟨v, items, hs, hsrc, _⟩
      exact ⟨spell escape items, hsrc, items, hs, rfl⟩
    · intro ⟨front, hsrc, items, hs, hfront⟩
      rw [hfront] at hsrc
      exact ⟨decode replacement items, items, hs, hsrc, rfl⟩

theorem quotedText_reads_items_marks :
    ∃ (replacement : Char → Option Text) (src : Text),
      replacement 'n' = some [] ∧ replacement 'd' = some ['.', '.'] ∧
      src = ['"', 'a', '\\', '"', '\\', 'n', '\\', 'd', '\\', 'z', '\\', '\\', '"', '"'] ∧
      '"' ≠ '\\' ∧
      (quotedText '"' '\\' replacement src : Eval Unit (Result Text)) =
        pure (.success ['a', '"', '.', '.', 'z', '\\'] ['"']) ∧
      (replacement '"').getD ['"'] = ['"'] ∧ (replacement '\\').getD ['\\'] = ['\\'] ∧
      (∃ written, ∀ rest,
        (quotedText '"' '\\' replacement ('"' :: (written ++ '"' :: rest)) :
          Eval Unit (Result Text)) = pure (.success ['\\', '"', 'n'] rest)) ∧
      ∃ front, src = '"' :: (front ++ '"' :: ['"']) ∧ EndsAtFirstQuote '"' '\\' front := by
  have hne : '"' ≠ '\\' := by decide
  let replacement : Char → Option Text := fun c =>
    if c = 'n' then some [] else if c = 'd' then some ['.', '.'] else none
  obtain ⟨hreads, hwrites, hcloses⟩ := quotedText_reads_items (ω := Unit) replacement hne
  let items : List Item :=
    [.plain 'a', .escaped '"', .escaped 'n', .escaped 'd', .escaped 'z', .escaped '\\']
  have hitems : AllAllowed '"' '\\' items := by simp [items, AllAllowed, Item.IsAllowed]
  have hread := (hreads _ _ ['"']).2 ⟨items, hitems, rfl, rfl⟩
  exact ⟨replacement, _, rfl, rfl, rfl, hne, hread, rfl, rfl, hwrites rfl rfl _,
    (hcloses _ _).1 ⟨_, hread⟩⟩

end ParserT
end Descent
