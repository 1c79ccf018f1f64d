import Descent.Proofs.Sequencing
import Descent.Proofs.Verbatim

/-!
# Keys with numbers

Entries are written as a key, an equals sign and a number, and are separated by commas with blanks
around them. A text in which entries are written is read back as these entries, up to the end of the
last number. Each part is read to its end because of what may follow it: a key is followed by an
equals sign, and a number by a blank, by a comma or by the rest. At the rest the loop tries a
further separator, and gives back the blanks that this attempt has read.
-/

namespace Descent.KeyValues

structure Entry where
  key : Text
  number : Int
  key_ne_nil : key ≠ []
  letters : ∀ c ∈ key, Alphabet.letters.contains c = true
  short : (Text.decimal number.natAbs).length ≤ maxDigits

namespace Entry

def write (e : Entry) : Text := e.key ++ '=' :: Text.decimal e.number

def value (e : Entry) : Value := .pair (.text e.key) (.int e.number)

end Entry

structure Gap where
  front : Text
  back : Text
  front_blank : ∀ c ∈ front, Alphabet.blanks.contains c = true
  back_blank : ∀ c ∈ back, Alphabet.blanks.contains c = true

def Gap.write (g : Gap) : Text := g.front ++ ',' :: g.back

def grammar : Grammar :=
  .sepBy
    (.pair
      (.before (.map (.unary .join) (.many1 (.oneOf (Alphabet.letters.map fun c => [c]))))
        (.char ['=']))
      .integer)
    (.within .blanks (.char [',']))

def writeMore (more : List (Gap × Entry)) : Text := more.flatMap fun ge => ge.1.write ++ ge.2.write

open ParserT ValueParser

/-! The parts of the grammar. -/

def letters : ParserT (Eval Value) (List Value) :=
  many1 (ofChar (oneOf (Alphabet.letters.map fun c => [c])))

def key : ValueParser := .mapM (calling (.unary .join)) (ofList letters)

def entry : ValueParser := ofPair (pair (before key (ofChar (char '='))) (ofInt integer))

def separator : ValueParser := between (ofText blanks) (ofText blanks) (ofChar (char ','))

theorem build_grammar (resolve : Resolver) (a : Address) :
    grammar.build resolve a = .ok (ofList (sepBy entry separator)) := rfl

theorem contains_letters (c : Char) :
    (Alphabet.letters.map fun c => [c]).contains [c] = Alphabet.letters.contains c := by
  simp

theorem letters_append {k rest : Text} (hne : k ≠ [])
    (hk : ∀ c ∈ k, Alphabet.letters.contains c = true)
    (hrest : ∀ c ∈ rest.head?, Alphabet.letters.contains c = false) :
    letters (k ++ rest) = pure (.success (k.map .ofChar) rest) := by
  obtain ⟨c, tail, rfl⟩ := List.exists_cons_of_ne_nil hne
  obtain ⟨htake, hdrop⟩ := Text.span_append (fun d hd => hk d (List.mem_cons_of_mem c hd)) hrest
  have htest : (fun c => (Alphabet.letters.map fun c => [c]).contains [c]) =
      Alphabet.letters.contains := funext contains_letters
  rw [letters, ofChar, many1_map, oneOf, expect, htest, List.cons_append,
    many1_satisfy_of_test _ _ _ (hk c List.mem_cons_self), htake, hdrop, map_pure]
  rfl

theorem join_chars (k : Text) :
    calling (.unary .join) (.list (k.map .ofChar)) = pure (.text k) := by
  have hjoin := Value.join_map_text (k.map fun c => [c])
  rw [List.map_map, ← List.flatMap_def, List.flatMap_singleton'] at hjoin
  exact congrArg Eval.ofExcept hjoin

theorem key_append {k rest : Text} (hne : k ≠ [])
    (hk : ∀ c ∈ k, Alphabet.letters.contains c = true)
    (hrest : ∀ c ∈ rest.head?, Alphabet.letters.contains c = false) :
    key (k ++ rest) = pure (.success (.text k) rest) := by
  have hletters : ofList letters (k ++ rest) = pure (.success (.list (k.map .ofChar)) rest) :=
    bind_of_success (letters_append hne hk hrest)
  rw [key, mapM_eq_bind, bind_of_success hletters, join_chars, lift_pure]
  rfl

theorem entry_append (e : Entry) {rest : Text}
    (hrest : ∀ c ∈ rest.head?, Alphabet.decimal.contains c = false) :
    entry (e.write ++ rest) = pure (.success e.value rest) := by
  have hkey : key (e.key ++ '=' :: (Text.decimal e.number ++ rest)) =
      pure (.success (.text e.key) ('=' :: (Text.decimal e.number ++ rest))) := by
    refine key_append e.key_ne_nil e.letters ?_
    rintro _ ⟨⟩
    decide
  have hname : before key (ofChar (char '=')) (e.key ++ '=' :: (Text.decimal e.number ++ rest)) =
      pure (.success (.text e.key) (Text.decimal e.number ++ rest)) := by
    rw [before_eq_bind, bind_of_success hkey, bind_of_success (ofChar_char_self _ _)]
    rfl
  have hnumber : ofInt integer (Text.decimal e.number ++ rest) =
      pure (.success (.int e.number) rest) :=
    bind_of_success (integer_of_spells (.inl rfl) e.short (.inr hrest))
  have hpair : pair (before key (ofChar (char '='))) (ofInt integer) (e.write ++ rest) =
      pure (.success (.text e.key, .int e.number) rest) := by
    rw [Entry.write, List.append_assoc, List.cons_append, pair_eq_bind, bind_of_success hname,
      bind_of_success hnumber]
    rfl
  exact bind_of_success hpair

theorem ofText_blanks (src : Text) : ofText blanks src =
    pure (.success (.text (src.takeWhile Alphabet.blanks.contains))
      (src.dropWhile Alphabet.blanks.contains)) := by
  refine bind_of_success ?_
  rw [blanks, blank, expect, many_satisfy]

theorem blanks_append {b rest : Text} (hb : ∀ c ∈ b, Alphabet.blanks.contains c = true)
    (hrest : ∀ c ∈ rest.head?, Alphabet.blanks.contains c = false) :
    ofText blanks (b ++ rest) = pure (.success (.text b) rest) := by
  obtain ⟨htake, hdrop⟩ := Text.span_append hb hrest
  rw [ofText_blanks, htake, hdrop]

theorem separator_append (g : Gap) {rest : Text}
    (hrest : ∀ c ∈ rest.head?, Alphabet.blanks.contains c = false) :
    separator (g.write ++ rest) = pure (.success (.ofChar ',') rest) := by
  have hfront : ofText blanks (g.front ++ ',' :: (g.back ++ rest)) =
      pure (.success (.text g.front) (',' :: (g.back ++ rest))) := by
    refine blanks_append g.front_blank ?_
    rintro _ ⟨⟩
    decide
  rw [Gap.write, List.append_assoc, List.cons_append, separator, between_eq_after, after_eq_bind,
    bind_of_success hfront, before_eq_bind, bind_of_success (ofChar_char_self _ _),
    bind_of_success (blanks_append g.back_blank hrest)]
  rfl

theorem exists_separator_eq_failure {rest : Text}
    (h : ∀ c ∈ (rest.dropWhile Alphabet.blanks.contains).head?, c ≠ ',') :
    ∃ e, separator rest = pure (.failure e) := by
  have hno : ∀ tail, rest.dropWhile Alphabet.blanks.contains ≠ ',' :: tail := by
    intro tail htail
    rw [htail] at h
    exact h ',' rfl rfl
  obtain ⟨e, he⟩ := exists_ofChar_char_eq_failure hno
  refine ⟨e, ?_⟩
  rw [separator, between_eq_after, after_eq_bind, bind_of_success (ofText_blanks rest),
    before_eq_bind, bind_of_failure he]

theorem not_blank_of_mem_head_entry (e : Entry) (rest : Text) :
    ∀ c ∈ (e.write ++ rest).head?, Alphabet.blanks.contains c = false := by
  obtain ⟨c, tail, hkey⟩ := List.exists_cons_of_ne_nil e.key_ne_nil
  have hc : c ∈ Alphabet.letters := List.contains_iff_mem.1 (e.letters c (by simp [hkey]))
  have hletters : Alphabet.letters.any Alphabet.blanks.contains = false := by decide
  rw [Entry.write, hkey]
  rintro _ ⟨⟩
  exact Bool.eq_false_iff.2 (List.any_eq_false.1 hletters c hc)

theorem not_digit_of_mem_head_more (more : List (Gap × Entry)) {rest : Text}
    (hrest : ∀ c ∈ rest.head?, Alphabet.decimal.contains c = false) :
    ∀ c ∈ (writeMore more ++ rest).head?, Alphabet.decimal.contains c = false := by
  cases more with
  | nil => exact hrest
  | cons ge more =>
    obtain ⟨⟨front, back, hfront, hback⟩, e⟩ := ge
    cases front with
    | nil =>
      rintro _ ⟨⟩
      decide
    | cons c front =>
      have hblanks : Alphabet.blanks.any Alphabet.decimal.contains = false := by decide
      have hc : c ∈ Alphabet.blanks := List.contains_iff_mem.1 (hfront c List.mem_cons_self)
      rintro _ ⟨⟩
      exact Bool.eq_false_iff.2 (List.any_eq_false.1 hblanks c hc)

section
variable {rest : Text} (hdigit : ∀ c ∈ rest.head?, Alphabet.decimal.contains c = false)
  (hcomma : ∀ c ∈ (rest.dropWhile Alphabet.blanks.contains).head?, c ≠ ',')
include hdigit

theorem step_append (g : Gap) (e : Entry) (more : List (Gap × Entry)) :
    after separator entry (g.write ++ (e.write ++ (writeMore more ++ rest))) =
      pure (.success e.value (writeMore more ++ rest)) := by
  rw [after_eq_bind,
    bind_of_success (separator_append g (not_blank_of_mem_head_entry e (writeMore more ++ rest)))]
  exact entry_append e (not_digit_of_mem_head_more more hdigit)

include hcomma

theorem many_writeMore (more : List (Gap × Entry)) :
    many (after separator entry) (writeMore more ++ rest) =
      pure (.success (more.map fun ge => ge.2.value) rest) := by
  induction more with
  | nil =>
    obtain ⟨e, he⟩ := exists_separator_eq_failure hcomma
    exact many_of_failure (bind_of_failure he)
  | cons ge more ih =>
    obtain ⟨g, e⟩ := ge
    have hsplit : writeMore ((g, e) :: more) ++ rest =
        g.write ++ (e.write ++ (writeMore more ++ rest)) := by simp [writeMore]
    have hlt : (writeMore more ++ rest).length <
        (g.write ++ (e.write ++ (writeMore more ++ rest))).length := by
      simp only [Gap.write, List.length_append, List.length_cons]
      omega
    rw [hsplit, many_of_success (step_append hdigit g e more) hlt, ih, map_pure]
    rfl

/-- What is written in a text is read back, with any blanks around the commas and any rest that
continues neither the last number nor the list. -/
theorem reads_entries_back (first : Entry) (more : List (Gap × Entry)) (rules : Rules)
    (depth : Nat) :
    ∃ p, grammar.parser rules depth = .ok p ∧
      p (first.write ++ writeMore more ++ rest) =
        pure (.success (.list (first.value :: more.map fun ge => ge.2.value)) rest) := by
  refine ⟨_, build_grammar _ _, ?_⟩
  have hfirst : entry (first.write ++ (writeMore more ++ rest)) =
      pure (.success first.value (writeMore more ++ rest)) :=
    entry_append first (not_digit_of_mem_head_more more hdigit)
  have hmore := many_writeMore hdigit hcomma more
  have hpair : pair entry (many (after separator entry))
      (first.write ++ (writeMore more ++ rest)) =
        pure (.success (first.value, more.map fun ge => ge.2.value) rest) := by
    rw [pair_eq_bind, bind_of_success hfirst, bind_of_success hmore]
    rfl
  have hsome : sepBy1 entry separator (first.write ++ (writeMore more ++ rest)) =
      pure (.success (first.value :: more.map fun ge => ge.2.value) rest) :=
    bind_of_success hpair
  have hlist : sepBy entry separator (first.write ++ (writeMore more ++ rest)) =
      pure (.success (first.value :: more.map fun ge => ge.2.value) rest) := by
    rw [sepBy, orElse, hsome, pure_bind]
  rw [List.append_assoc]
  exact bind_of_success hlist

end

theorem reads_entries_back_three :
    (∀ c ∈ [' ', ';'].head?, Alphabet.decimal.contains c = false) ∧
    (∀ c ∈ ([' ', ';'].dropWhile Alphabet.blanks.contains).head?, c ≠ ',') ∧
    ∃ p, grammar.parser [] 0 = .ok p ∧
      p ['a', '=', '1', ',', ' ', 'b', 'c', '=', '-', '2', '\t', ',', 'd', '=', '0', ' ', ';'] =
        pure (.success (.list [.pair (.text ['a']) (.int 1), .pair (.text ['b', 'c']) (.int (-2)),
          .pair (.text ['d']) (.int 0)]) [' ', ';']) := by
  have hdigit : ∀ c ∈ [' ', ';'].head?, Alphabet.decimal.contains c = false := by
    rintro _ ⟨⟩
    decide
  have hcomma : ∀ c ∈ ([' ', ';'].dropWhile Alphabet.blanks.contains).head?, c ≠ ',' := by
    rintro _ ⟨⟩
    decide
  let a : Entry := ⟨['a'], 1, by decide, List.all_eq_true.1 (by decide), by decide⟩
  let bc : Entry := ⟨['b', 'c'], -2, by decide, List.all_eq_true.1 (by decide), by decide⟩
  let d : Entry := ⟨['d'], 0, by decide, List.all_eq_true.1 (by decide), by decide⟩
  let behind : Gap := ⟨[], [' '], List.all_eq_true.1 (by decide), List.all_eq_true.1 (by decide)⟩
  let front : Gap := ⟨['\t'], [], List.all_eq_true.1 (by decide), List.all_eq_true.1 (by decide)⟩
  exact ⟨hdigit, hcomma, reads_entries_back hdigit hcomma a [(behind, bc), (front, d)] [] 0⟩

end Descent.KeyValues
