import Descent.Grammar.Build
import Descent.Proofs.Integer

/-!
# Nested lists of integers

A list is written with brackets around its items and commas between them, and an item is an integer
or again a list. The grammar for lists refers to itself for the inner ones. With each reference the
text that is left is shorter by a bracket at least, so that as many nested references as the text
has characters are enough, and on that many levels the grammar accepts exactly the writings of
lists. This is shown for each level from the one below, where both directions are needed: that a
loop over items stops in front of the closing bracket depends on what an item cannot be.
-/

namespace Descent

mutual

inductive Value.WrittenAs : Value → Text → Prop
  | int {n : Int} {w : Text} (h : Spells n w) : Value.WrittenAs (.int n) w
  | list {vs : List Value} {ws : List Text} (h : Value.AllWrittenAs vs ws) :
      Value.WrittenAs (.list vs) ('[' :: ([','].intercalate ws ++ [']']))

inductive Value.AllWrittenAs : List Value → List Text → Prop
  | nil : Value.AllWrittenAs [] []
  | cons {v : Value} {vs : List Value} {w : Text} {ws : List Text} (h : Value.WrittenAs v w)
      (hs : Value.AllWrittenAs vs ws) : Value.AllWrittenAs (v :: vs) (w :: ws)

end

namespace NestedLists

def name : Text := Text.ofString "items"

def grammar : Grammar :=
  .between (.char ['[']) (.char [']']) (.sepBy (.orElse .integer (.rule name)) (.char [',']))

def rules : Rules := [(name, grammar)]

def Writes (v : Value) (w : Text) : Prop := (∃ vs, v = .list vs) ∧ v.WrittenAs w

def Splits (src : Text) (v : Value) (rest : Text) : Prop := ∃ w, Writes v w ∧ src = w ++ rest

theorem intercalate_cons (w : Text) (ws : List Text) :
    [','].intercalate (w :: ws) = w ++ ws.flatMap (',' :: ·) := by
  induction ws generalizing w with
  | nil => simp
  | cons w' ws ih =>
    rw [List.intercalate_cons_cons, ih]
    simp

theorem exists_spells_eq_cons {n : Int} {w : Text} (h : Spells n w) :
    ∃ c tail, w = c :: tail ∧ (c = '-' ∨ Alphabet.decimal.contains c = true) := by
  rcases h with rfl | ⟨-, rfl⟩
  · exact Text.exists_decimal_head n
  · exact ⟨'-', ['0'], rfl, .inl rfl⟩

theorem not_closing_of_writtenAs {v : Value} {w rest tail : Text} (h : v.WrittenAs w) :
    ']' :: tail ≠ w ++ rest := by
  cases h with
  | int hn =>
    obtain ⟨c, tail', rfl, hc⟩ := exists_spells_eq_cons hn
    intro he
    cases he
    exact absurd hc (by decide)
  | list hs =>
    intro he
    cases he

open ParserT
open Text (EndsNumber)
open ValueParser

/-- Short enough for the nested references, and without a run of digits beyond the limit. -/
structure Readable (depth : Nat) (src : Text) : Prop where
  length_le : src.length ≤ depth
  short : ∀ n, src.HasDigitRun n → n ≤ maxDigits

variable {depth : Nat}

theorem Readable.of_suffix {rest src : Text} (h : Readable depth src) (hs : rest <:+ src) :
    Readable depth rest :=
  ⟨Nat.le_trans hs.length_le h.length_le, fun n hn => h.short n (hn.of_suffix hs)⟩

theorem Readable.of_append {w rest : Text} (h : Readable depth (w ++ rest)) :
    Readable depth rest := h.of_suffix (List.suffix_append w rest)

theorem Readable.tail {c : Char} {rest : Text} (h : Readable (depth + 1) (c :: rest)) :
    Readable depth rest :=
  ⟨Nat.le_of_succ_le_succ h.length_le, (h.of_suffix (List.suffix_cons c rest)).short⟩

theorem Readable.of_cons {c : Char} {rest : Text} (h : Readable depth (c :: rest)) :
    Readable depth rest := h.of_suffix (List.suffix_cons c rest)

theorem Readable.length_decimal_le {n : Int} {w rest : Text} (h : Readable depth (w ++ rest))
    (hw : Spells n w) : (Text.decimal n.natAbs).length ≤ maxDigits := by
  have hs : Text.decimal n.natAbs <:+ w := by
    rcases hw with rfl | ⟨rfl, rfl⟩
    · cases n with
      | ofNat n => exact List.suffix_refl _
      | negSucc n => exact List.suffix_cons '-' _
    · exact List.suffix_cons '-' _
  have hi : Text.decimal n.natAbs <:+: w ++ rest :=
    hs.isInfix.trans (List.prefix_append w rest).isInfix
  exact h.short _ ⟨_, hi, rfl, fun _ => Text.contains_decimal_of_mem_decimal⟩

theorem Readable.exists_integer_eq {src : Text} (h : Readable depth src) :
    ∃ r, (integer src : Eval Value (Result Int)) = pure r ∧ r.Reads Spells src := by
  have hsettles : (integer src : Eval Value (Result Int)).Settles (Result.Reads Spells src)
      src.IsDigitLimit := integer_settles src
  rcases hsettles with hr | ⟨stop, -, n, hn, hrun, -⟩
  · exact hr
  · have hle : n ≤ maxDigits := h.short n hrun
    omega

/-! The grammar with `inner` for the reference. -/

def item (inner : ValueParser) : ValueParser := orElse (ValueParser.ofInt integer) inner

def comma : ValueParser := ValueParser.ofChar (char ',')

def items (inner : ValueParser) : ParserT (Eval Value) (List Value) := sepBy (item inner) comma

def list (inner : ValueParser) : ValueParser :=
  between (ValueParser.ofChar (char '[')) (ValueParser.ofChar (char ']'))
    (ValueParser.ofList (items inner))

theorem item_of_integer {inner : ValueParser} {src rest : Text} {n : Int}
    (h : (integer src : Eval Value (Result Int)) = pure (.success n rest)) :
    item inner src = pure (.success (.int n) rest) := by
  simp [item, orElse, ValueParser.ofInt, ParserT.map, h]

theorem item_of_not_integer {inner : ValueParser} {src e : Text}
    (h : (integer src : Eval Value (Result Int)) = pure (.failure e)) :
    item inner src = inner src := by
  simp [item, orElse, ValueParser.ofInt, ParserT.map, h]

theorem exists_integer_bracket_eq_failure (rest : Text) :
    ∃ e, (integer ('[' :: rest) : Eval Value (Result Int)) = pure (.failure e) := by
  have hne : ∀ c ∈ ('[' :: rest).head?, c ≠ '-' := by
    rintro _ ⟨⟩
    decide
  have hd : ∀ c ∈ ('[' :: rest).head?, Alphabet.decimal.contains c = false := by
    rintro _ ⟨⟩
    decide
  rw [integer_of_ne hne, magnitude_of_not_digit hd, map_pure]
  exact ⟨_, rfl⟩

theorem answers_ofList_items {inner : ValueParser} {src : Text} {r : Result (List Value)}
    (h : (items inner src).Answers r) :
    (ValueParser.ofList (items inner) src).Answers (r.map .list) := by
  cases r with
  | success vs rest => exact h.bind (.pure _)
  | failure e => exact h.bind (.pure _)

section
variable {ι : Type} {p : ι → ValueParser} {depth : Nat}

theorem endsNumber_more (ws : List Text) (tail : Text) :
    EndsNumber (ws.flatMap (',' :: ·) ++ ']' :: tail) := by
  cases ws with
  | nil => exact Text.endsNumber_cons (by decide) _
  | cons w ws => exact Text.endsNumber_cons (by decide) _

theorem length_lt_cons_append (c : Char) (w rest : Text) :
    rest.length < (c :: (w ++ rest)).length := by
  rw [List.length_cons, List.length_append]
  omega

theorem item_recognizes (hp : Recognizes (Readable depth) (fun _ => True) Writes p) :
    Recognizes (Readable depth) EndsNumber Value.WrittenAs fun i => item (p i) := by
  constructor
  · intro src hsrc
    obtain ⟨r, hr, hreads⟩ := hsrc.exists_integer_eq
    cases r with
    | success n rest =>
      obtain ⟨w, hw, rfl⟩ := hreads
      refine ⟨.success (.int n) rest, fun i => ?_, w, .int hw, rfl⟩
      rw [item_of_integer hr]
      exact .pure _
    | failure e =>
      obtain ⟨r, hinner, hreads⟩ := hp.reads src hsrc
      refine ⟨r, fun i => ?_, ?_⟩
      · rw [item_of_not_integer hr]
        exact hinner i
      · cases r with
        | failure e => trivial
        | success v rest =>
          obtain ⟨w, hw, hsplit⟩ := hreads
          exact ⟨w, hw.2, hsplit⟩
  · intro v w rest hw hrest hsrc i
    cases hw with
    | int hn =>
      rw [item_of_integer (integer_of_spells hn (hsrc.length_decimal_le hn) (.inr hrest))]
      exact .pure _
    | list hs =>
      -- No integer starts with a bracket, so that the reference is tried.
      obtain ⟨e, he⟩ := exists_integer_bracket_eq_failure (_ ++ rest)
      rw [List.cons_append, item_of_not_integer he]
      exact hp.accepts _ _ rest ⟨⟨_, rfl⟩, .list hs⟩ trivial hsrc i

theorem after_comma_cons (q : ValueParser) (rest : Text) :
    after comma q (',' :: rest) = q rest := after_ofChar_char ',' q rest

theorem exists_after_comma_eq_failure (q : ValueParser) {src : Text}
    (h : ∀ rest, src ≠ ',' :: rest) : ∃ e, after comma q src = pure (.failure e) := by
  obtain ⟨e, he⟩ := exists_ofChar_char_eq_failure h
  exact ⟨e, by rw [after, comma, he, pure_bind]⟩

theorem reads_more (hp : Recognizes (Readable depth) EndsNumber Value.WrittenAs p) (src : Text)
    (hsrc : Readable depth src) : ∃ vs ws rest,
    (∀ i, (many (after comma (p i)) src).Answers (.success vs rest)) ∧
      Value.AllWrittenAs vs ws ∧ src = ws.flatMap (',' :: ·) ++ rest := by
  induction src using shorter_induction with
  | shorter src ih =>
    by_cases hcomma : ∃ tail, src = ',' :: tail
    · obtain ⟨tail, rfl⟩ := hcomma
      obtain ⟨r, hr, hreads⟩ := hp.reads tail hsrc.of_cons
      cases r with
      | failure e =>
        -- A comma that no item follows is left.
        refine ⟨[], [], ',' :: tail, fun i => answers_many_of_failure (e := e) ?_, .nil, rfl⟩
        rw [after_comma_cons]
        exact hr i
      | success v rest =>
        obtain ⟨w, hw, rfl⟩ := hreads
        have hlt : rest.length < (',' :: (w ++ rest)).length := length_lt_cons_append ',' w rest
        obtain ⟨vs, ws, last, hvs, hws, rfl⟩ :=
          ih rest hlt hsrc.of_cons.of_append
        refine ⟨v :: vs, w :: ws, last, fun i => ?_, .cons hw hws, by simp⟩
        refine answers_many_of_success ?_ hlt (hvs i)
        rw [after_comma_cons]
        exact hr i
    · have hno : ∀ tail, src ≠ ',' :: tail := fun tail h => hcomma ⟨tail, h⟩
      refine ⟨[], [], src, fun i => ?_, .nil, rfl⟩
      obtain ⟨e, he⟩ := exists_after_comma_eq_failure (p i) hno
      refine answers_many_of_failure (e := e) ?_
      rw [he]
      exact .pure _

theorem accepts_more (hp : Recognizes (Readable depth) EndsNumber Value.WrittenAs p)
    {vs : List Value} {ws : List Text} (h : Value.AllWrittenAs vs ws) {tail : Text}
    (hsrc : Readable depth (ws.flatMap (',' :: ·) ++ ']' :: tail)) (i : ι) :
    (many (after comma (p i)) (ws.flatMap (',' :: ·) ++ ']' :: tail)).Answers
      (.success vs (']' :: tail)) := by
  induction vs generalizing ws with
  | nil =>
    cases h
    have hno : ∀ rest, ']' :: tail ≠ ',' :: rest := by
      rintro _ ⟨⟩
    obtain ⟨e, he⟩ := exists_after_comma_eq_failure (p i) hno
    refine answers_many_of_failure (e := e) ?_
    change (after comma (p i) (']' :: tail)).Answers _
    rw [he]
    exact .pure _
  | cons v vs ih =>
    cases h with
    | @cons _ _ w ws hw hs =>
      rw [List.flatMap_cons, List.append_assoc] at hsrc ⊢
      refine answers_many_of_success ?_ (length_lt_cons_append ',' w _) (ih hs hsrc.of_append)
      change (after comma (p i) (',' :: (w ++ _))).Answers _
      rw [after_comma_cons]
      exact hp.accepts v w _ hw (endsNumber_more ws tail) hsrc.of_cons i

theorem items_recognizes (hp : Recognizes (Readable depth) EndsNumber Value.WrittenAs
      fun i => item (p i)) :
    Recognizes (Readable depth) (fun rest => ∃ tail, rest = ']' :: tail)
      (fun vs w => ∃ ws, Value.AllWrittenAs vs ws ∧ w = [','].intercalate ws)
      fun i => items (p i) := by
  constructor
  · intro src hsrc
    obtain ⟨r, hr, hreads⟩ := hp.reads src hsrc
    cases r with
    | failure e =>
      refine ⟨.success [] src, fun i => ?_, [], ⟨[], .nil, rfl⟩, rfl⟩
      exact answers_sepBy_of_failure (hr i)
    | success v rest =>
      obtain ⟨w, hw, rfl⟩ := hreads
      obtain ⟨vs, ws, last, hvs, hws, rfl⟩ := reads_more hp rest hsrc.of_append
      refine ⟨.success (v :: vs) last, fun i => answers_sepBy_of_success (hr i) (hvs i), ?_⟩
      refine ⟨_, ⟨w :: ws, .cons hw hws, rfl⟩, ?_⟩
      rw [intercalate_cons, List.append_assoc]
  · rintro vs _ _ ⟨ws, hws, rfl⟩ ⟨tail, rfl⟩ hsrc i
    cases hws with
    | nil =>
      -- The loop must not take what follows for an item.
      obtain ⟨r, hr, hreads⟩ := hp.reads (']' :: tail) hsrc
      cases r with
      | failure e => exact answers_sepBy_of_failure (hr i)
      | success v rest =>
        obtain ⟨w, hw, hsplit⟩ := hreads
        exact absurd hsplit (not_closing_of_writtenAs hw)
    | @cons v vs w ws hw hs =>
      rw [intercalate_cons, List.append_assoc] at hsrc ⊢
      have hitem := hp.accepts v w _ hw (endsNumber_more ws tail) hsrc i
      exact answers_sepBy_of_success hitem (accepts_more hp hs hsrc.of_append i)

theorem list_recognizes (hp : Recognizes (Readable depth) (fun _ => True) Writes p) :
    Recognizes (Readable (depth + 1)) (fun _ => True) Writes fun i => list (p i) := by
  have hitems := items_recognizes (item_recognizes hp)
  constructor
  · intro src hsrc
    by_cases hopen : ∃ rest, src = '[' :: rest
    · obtain ⟨rest, rfl⟩ := hopen
      obtain ⟨r, hr, hreads⟩ := hitems.reads rest hsrc.tail
      cases r with
      | failure e => exact ⟨.failure e,
        fun i => answers_between_of_failure (answers_ofList_items (hr i)), trivial⟩
      | success vs last =>
        obtain ⟨_, ⟨ws, hws, rfl⟩, rfl⟩ := hreads
        by_cases hclose : ∃ tail, last = ']' :: tail
        · obtain ⟨tail, rfl⟩ := hclose
          exact ⟨.success (.list vs) tail,
            fun i => answers_between_of_success (answers_ofList_items (hr i)), _,
            ⟨⟨vs, rfl⟩, .list hws⟩, by simp⟩
        · have hno : ∀ tail, last ≠ ']' :: tail := fun tail h => hclose ⟨tail, h⟩
          obtain ⟨e, he⟩ := exists_ofChar_char_eq_failure hno
          exact ⟨.failure e,
            fun i => answers_between_of_not_closed (answers_ofList_items (hr i)) he, trivial⟩
    · have hno : ∀ rest, src ≠ '[' :: rest := fun rest h => hopen ⟨rest, h⟩
      obtain ⟨e, he⟩ := exists_ofChar_char_eq_failure hno
      exact ⟨.failure e, fun i => answers_between_of_not_open he, trivial⟩
  · rintro v w rest ⟨⟨vs, rfl⟩, hw⟩ - hsrc i
    cases hw with
    | @list _ ws hs =>
      have hsplit : '[' :: ([','].intercalate ws ++ [']']) ++ rest =
          '[' :: ([','].intercalate ws ++ ']' :: rest) := by simp
      rw [hsplit] at hsrc ⊢
      exact answers_between_of_success
        (answers_ofList_items (hitems.accepts vs _ _ ⟨ws, hs, rfl⟩ ⟨rest, rfl⟩ hsrc.tail i))

theorem list_recognizes_zero :
    Recognizes (Readable 0) (fun _ => True) Writes fun i => list (p i) := by
  constructor
  · intro src hsrc
    have hno : ∀ rest, src ≠ '[' :: rest := by
      rintro rest rfl
      exact absurd hsrc.length_le (by simp)
    obtain ⟨e, he⟩ := exists_ofChar_char_eq_failure hno
    exact ⟨.failure e, fun i => answers_between_of_not_open he, trivial⟩
  · rintro v w rest ⟨⟨vs, rfl⟩, hw⟩ - hsrc i
    cases hw with
    | list hs => exact absurd hsrc.length_le (by simp)

end

def reference : Nat → Address → ValueParser
  | 0, address => delayed address none fun _ => .ok tooDeep
  | depth + 1, address => delayed address none fun _ =>
    .ok (list (reference depth (1 :: 0 :: 0 :: 0 :: address)))

theorem resolve_succ (depth : Nat) (address : Address) :
    Rules.resolve rules (depth + 1) name address =
      grammar.build (Rules.resolve rules depth) address := by
  simp [Rules.resolve, rules]

theorem build_grammar (depth : Nat) (address : Address) :
    grammar.build (Rules.resolve rules depth) address =
      .ok (list (reference depth (1 :: 0 :: 0 :: address))) := by
  induction depth generalizing address with
  | zero => rfl
  | succ depth ih =>
    have hbuild : grammar.build (Rules.resolve rules (depth + 1)) address =
        .ok (list (delayed (1 :: 0 :: 0 :: address) none fun _ =>
          Rules.resolve rules (depth + 1) name (0 :: 1 :: 0 :: 0 :: address))) := rfl
    rw [hbuild, resolve_succ, ih]
    rfl

theorem references_recognize (n : Nat) : Recognizes (Readable n) (fun _ => True) Writes
    fun i : Nat × Address => list (reference (i.1 + n) i.2) := by
  induction n with
  | zero => exact list_recognizes_zero
  | succ n ih =>
    have hbelow := ih.reindex fun i : Nat × Address => (i.1, 1 :: 0 :: 0 :: 0 :: i.2)
    exact list_recognizes (hbelow.delayed fun i => i.2)

/-- A nested list in front is read, and only that. On as many levels as the text has characters
there is an answer, which is the same on all of them. -/
theorem accepts_exactly_lists (src : Text) (hshort : ∀ n, src.HasDigitRun n → n ≤ maxDigits) :
    ∃ r, (∀ depth, src.length ≤ depth →
        ∃ p, grammar.parser rules depth = .ok p ∧ (p src).Answers r) ∧
      (∀ v rest, r = .success v rest ↔ Splits src v rest) ∧
      (∀ v rest w last, Splits src v rest → Splits src w last → v = w ∧ rest = last) ∧
      ((¬∃ v rest, Splits src v rest) → ∃ e, r = .failure e) := by
  have hsrc : Readable src.length src := ⟨Nat.le_refl _, hshort⟩
  have hlists := references_recognize src.length
  obtain ⟨r, hr, hreads⟩ := hlists.reads src hsrc
  have hiff (v : Value) (rest : Text) : r = .success v rest ↔ Splits src v rest := by
    constructor
    · rintro rfl
      exact hreads
    · rintro ⟨w, hw, rfl⟩
      have hv := hlists.accepts v w rest hw trivial hsrc (0, [])
      exact (hr (0, [])).unique hv
  refine ⟨r, fun depth hdepth => ?_, hiff, fun v rest w last hv hw => ?_, fun hno => ?_⟩
  · refine ⟨_, build_grammar depth [], ?_⟩
    have hd := hr (depth - src.length, [1, 0, 0])
    rw [Nat.sub_add_cancel hdepth] at hd
    exact hd
  · have h : Result.success v rest = .success w last :=
      ((hiff v rest).2 hv).symm.trans ((hiff w last).2 hw)
    cases h
    exact ⟨rfl, rfl⟩
  · cases r with
    | failure e => exact ⟨e, rfl⟩
    | success v rest => exact absurd ⟨v, rest, hreads⟩ hno

theorem accepts_exactly_lists_zeros :
    ∃ p, grammar.parser rules 12 = .ok p ∧
      (p ['[', '-', '0', ',', '[', '0', ',', '[', ']', ']', ']', ',']).Answers
        (.success (.list [.int 0, .list [.int 0, .list []]]) [',']) := by
  have hshort : ∀ n, Text.HasDigitRun
      ['[', '-', '0', ',', '[', '0', ',', '[', ']', ']', ']', ','] n → n ≤ maxDigits :=
    fun n hn => Nat.le_trans hn.le_length (by decide)
  obtain ⟨r, hr, hiff, -⟩ := accepts_exactly_lists _ hshort
  have hinner : Value.AllWrittenAs [.int 0, .list []] [['0'], ['[', ']']] :=
    .cons (.int (.inl rfl)) (.cons (.list .nil) .nil)
  have houter : Value.AllWrittenAs [.int 0, .list [.int 0, .list []]]
      [['-', '0'], ['[', '0', ',', '[', ']', ']']] :=
    .cons (.int (.inr ⟨rfl, rfl⟩)) (.cons (.list hinner) .nil)
  have hsuccess := (hiff _ [',']).2 ⟨_, ⟨⟨_, rfl⟩, .list houter⟩, rfl⟩
  obtain ⟨p, hp, hanswer⟩ := hr 12 (by decide)
  exact ⟨p, hp, hsuccess ▸ hanswer⟩

end NestedLists
end Descent
