import Descent.Proofs.Reading
import Descent.Proofs.Remainder

/-!
# Texts that are matched as they stand

A parser of texts is verbatim if the text of a match and what is left make up the text that was
given: nothing is lost, doubled or rearranged. The parsers of characters and of fixed texts are,
patterns are, and so is what is made of verbatim parsers by choosing and by joining the texts of a
repetition.
-/

namespace Descent

variable {ω α β : Type}

namespace Row

theorem eq_flatMap {f : α → Text} {vs : List α} {w : Text} (h : Row (fun v w => w = f v) vs w) :
    w = vs.flatMap f := by
  induction h with
  | nil => rfl
  | cons hv _ ih => rw [List.flatMap_cons, hv, ih]

theorem eq_of_chars {cs w : Text} (h : Row (fun c w => w = [c]) cs w) : w = cs :=
  h.eq_flatMap.trans (List.flatMap_singleton' cs)

theorem eq_flatten {ts : List Text} {w : Text} (h : Row (fun t w => w = t) ts w) :
    w = ts.flatten := h.eq_flatMap.trans List.flatMap_id'

theorem exists_map {f : Text → α} {vs : List α} {w : Text} (h : Row (fun v w => v = f w) vs w) :
    ∃ ts : List Text, vs = ts.map f ∧ w = ts.flatten := by
  induction h with
  | nil => exact ⟨[], rfl, rfl⟩
  | @cons _ t _ _ hv _ ih =>
    obtain ⟨ts, rfl, rfl⟩ := ih
    exact ⟨t :: ts, by rw [hv, List.map_cons], List.flatten_cons.symm⟩

end Row

namespace ParserT

def Verbatim (p : ParserT (Eval ω) Text) : Prop := p.ReadsAs fun t w => w = t

variable {p : ParserT (Eval ω) Text}

theorem Verbatim.append_rest (hp : p.Verbatim) {src t rest : Text} {s s' : Session ω}
    (h : (p src).run s = (.ok (.success t rest), s')) : t ++ rest = src := by
  obtain ⟨w, rfl, hsrc⟩ := (hp src).of_ok h
  exact hsrc.symm

theorem verbatim_of_chars (h : p.ReadsAs (Row fun c w => w = [c])) : p.Verbatim :=
  h.mono fun _ _ => Row.eq_of_chars

theorem verbatim_join {p : ParserT (Eval ω) (List Text)} (h : p.ReadsAs (Row fun t w => w = t)) :
    (p.map List.flatten).Verbatim := h.map fun _ _ => Row.eq_flatten

theorem verbatim_text (t : Text) : (text t : ParserT (Eval ω) Text).Verbatim :=
  verbatim_of_chars (.sequence_map (fun _ => readsAs_satisfy _ _ _) t)

theorem verbatim_textIgnoringCase (t : Text) :
    (textIgnoringCase t : ParserT (Eval ω) Text).Verbatim :=
  verbatim_of_chars (.sequence_map (fun _ => readsAs_satisfy _ _ _) t)

theorem verbatim_upTo (c : Char) : (upTo c : ParserT (Eval ω) Text).Verbatim :=
  verbatim_of_chars
    ((readsAs_satisfy _ _ _).many.before (readsNothing_lookahead (readsAs_satisfy _ _ _)))

theorem verbatim_blanks : (blanks : ParserT (Eval ω) Text).Verbatim :=
  verbatim_of_chars (readsAs_satisfy _ _ _).many

theorem verbatim_blanks1 : (blanks1 : ParserT (Eval ω) Text).Verbatim :=
  verbatim_of_chars (readsAs_satisfy _ _ _).many1

theorem verbatim_endOfInput : (endOfInput : ParserT (Eval ω) Text).Verbatim :=
  (readsNothing_notAhead _ (readsAs_satisfy _ _ _)).map fun _ _ h => h

inductive Textual : ParserT (Eval ω) Text → Prop
  | char (test : Char → Bool) (mismatch : Char → Text) (atEnd : Text) :
      Textual ((satisfy test mismatch atEnd).map fun c => [c])
  | text (t : Text) : Textual (.text t)
  | textIgnoringCase (t : Text) : Textual (.textIgnoringCase t)
  | matching (pattern : Pattern) : Textual (.matching pattern)
  | upTo (c : Char) : Textual (.upTo c)
  | blanks : Textual .blanks
  | blanks1 : Textual .blanks1
  | endOfInput : Textual .endOfInput
  | nothing : Textual (.pure [])
  | tooDeep : Textual .tooDeep
  | orElse {p q : ParserT (Eval ω) Text} (hp : Textual p) (hq : Textual q) : Textual (.orElse p q)
  | choose {ps : List (ParserT (Eval ω) Text)} {p : ParserT (Eval ω) Text}
      (h : ∀ q ∈ ps, Textual q) (hp : ParserT.choose ps = .ok p) : Textual p
  | orNothing {p : ParserT (Eval ω) Text} (hp : Textual p) : Textual (.withDefault [] p)
  | guarded {β : Type} (gate : ParserT (Eval ω) β) {p : ParserT (Eval ω) Text} (hp : Textual p) :
      Textual (.guarded gate p)
  | delayed (address : Address) (label : Option Text)
      {factory : Nat → Except Fault (ParserT (Eval ω) Text)}
      (h : ∀ call p, factory call = .ok p → Textual p) : Textual (.delayed address label factory)
  | many {p : ParserT (Eval ω) Text} (hp : Textual p) : Textual ((many p).map List.flatten)
  | many1 {p : ParserT (Eval ω) Text} (hp : Textual p) : Textual ((many1 p).map List.flatten)
  | times (n : Nat) {p : ParserT (Eval ω) Text} (hp : Textual p) :
      Textual ((times n p).map List.flatten)
  | sequence {ps : List (ParserT (Eval ω) Text)} (h : ∀ p ∈ ps, Textual p) :
      Textual ((sequence ps).map List.flatten)

theorem Textual.verbatim (h : p.Textual) : p.Verbatim := by
  induction h with
  | char test mismatch atEnd => exact (readsAs_satisfy test mismatch atEnd).map fun _ _ h => h
  | text t => exact verbatim_text t
  | textIgnoringCase t => exact verbatim_textIgnoringCase t
  | matching pattern => exact readsAs_matching pattern
  | upTo c => exact verbatim_upTo c
  | blanks => exact verbatim_blanks
  | blanks1 => exact verbatim_blanks1
  | endOfInput => exact verbatim_endOfInput
  | nothing => exact readsAs_pure rfl
  | tooDeep => exact readsAs_tooDeep
  | orElse _ _ hp hq => exact hp.orElse hq
  | choose _ hp h => exact property_of_choose ReadsAs.orElse h hp
  | orNothing _ hp => exact ReadsAs.withDefault hp rfl
  | guarded gate _ hp => exact hp.guarded gate
  | delayed address label _ h => exact .delayed address label h
  | many _ hp => exact verbatim_join hp.many
  | many1 _ hp => exact verbatim_join hp.many1
  | times n _ hp => exact verbatim_join (hp.times n)
  | sequence _ h => exact verbatim_join (.sequence h)

end ParserT

/-! The same for grammars that are given as data. Their values are the texts that were read, and a
repetition is joined by the function that joins a list of texts. -/

namespace Value

theorem texts?_map_text (ts : List Text) : texts? (ts.map text) = some ts := by
  induction ts with
  | nil => rfl
  | cons t ts ih => simp [texts?, text?, ih]

theorem join_map_text (ts : List Text) :
    Unary.join.apply (list (ts.map text)) = .ok (text ts.flatten) := by
  have hjoin : Unary.join.result? (list (ts.map text)) = some (text ts.flatten) := by
    simp [Unary.result?, items?, texts?_map_text]
  simp [Unary.apply, hjoin, orInapplicable]

end Value

namespace ValueParser

def Verbatim (p : ValueParser) : Prop := p.ReadsAs fun v w => v = .text w

theorem verbatim_ofText {p : ParserT (Eval Value) Text} (hp : p.Verbatim) :
    Verbatim (ofText p) := hp.map fun _ _ h => h ▸ rfl

theorem verbatim_satisfy (test : Char → Bool) (mismatch : Char → Text) (atEnd : Text) :
    Verbatim (ofChar (.satisfy test mismatch atEnd)) :=
  (ParserT.readsAs_satisfy test mismatch atEnd).map fun _ _ h => h ▸ rfl

def ListsTexts (p : ValueParser) : Prop :=
  p.ReadsAs fun v w => ∃ ts : List Text, v = .list (ts.map .text) ∧ w = ts.flatten

theorem listsTexts_ofList {p : ParserT (Eval Value) (List Value)}
    (hp : p.ReadsAs (Row fun v w => v = .text w)) : ListsTexts (ofList p) := by
  refine hp.map fun vs w h => ?_
  obtain ⟨ts, rfl, hw⟩ := h.exists_map
  exact ⟨ts, rfl, hw⟩

theorem ListsTexts.join {p : ValueParser} (hp : ListsTexts p) :
    Verbatim (.mapM (calling (.unary .join)) p) := by
  refine hp.mapM fun v w h => ?_
  obtain ⟨ts, rfl, rfl⟩ := h
  rw [calling, Function.apply, Value.join_map_text]
  exact .pure rfl

end ValueParser

namespace Grammar

inductive Textual : Grammar → Prop
  | anyChar : Textual .anyChar
  | blank : Textual .blank
  | digit : Textual .digit
  | char (c : Text) : Textual (.char c)
  | notChar (c : Text) : Textual (.notChar c)
  | oneOf (members : List Text) : Textual (.oneOf members)
  | satisfy (test : CharTest) (mismatch atEnd : Text) : Textual (.satisfy test mismatch atEnd)
  | text (t : Text) : Textual (.text t)
  | textIgnoringCase (t : Text) : Textual (.textIgnoringCase t)
  | pattern (source flags : Text) : Textual (.pattern source flags)
  | compiledPattern (source flags laterFlags : Text) :
      Textual (.compiledPattern source flags laterFlags)
  | upTo (c : Text) : Textual (.upTo c)
  | blanks : Textual .blanks
  | blanks1 : Textual .blanks1
  | endOfInput : Textual .endOfInput
  | nothing : Textual (.succeed (.text []))
  | orElse {g h : Grammar} (hg : Textual g) (hh : Textual h) : Textual (.orElse g h)
  | choose {gs : List Grammar} (h : ∀ g ∈ gs, Textual g) : Textual (.choose gs)
  | orNothing {g : Grammar} (hg : Textual g) : Textual (.withDefault g (.text []))
  | guarded (gate : Grammar) {g : Grammar} (hg : Textual g) : Textual (.guarded gate g)
  | delayed (name : Text) {g : Grammar} (hg : Textual g) : Textual (.delayed name g)
  | rule (name : Text) : Textual (.rule name)
  | many {g : Grammar} (hg : Textual g) : Textual (.map (.unary .join) (.many g))
  | many1 {g : Grammar} (hg : Textual g) : Textual (.map (.unary .join) (.many1 g))
  | times (n : Int) {g : Grammar} (hg : Textual g) : Textual (.map (.unary .join) (.times n g))
  | sequence {gs : List Grammar} (h : ∀ g ∈ gs, Textual g) :
      Textual (.map (.unary .join) (.sequence gs))

variable {resolve : Resolver}

open ValueParser

theorem yields_join {g : Grammar} {a : Address}
    (h : Yields (g.build resolve (0 :: a)) ListsTexts) :
    Yields ((Grammar.map (.unary .join) g).build resolve a) Verbatim :=
  h.bind fun _ hp => .ok hp.join

theorem Textual.yields_verbatim {g : Grammar} (hg : g.Textual)
    (hr : ∀ name a, Yields (resolve name a) Verbatim) (a : Address) :
    Yields (g.build resolve a) Verbatim := by
  induction hg generalizing a with
  | anyChar => exact .ok (verbatim_satisfy _ _ _)
  | blank => exact .ok (verbatim_satisfy _ _ _)
  | digit => exact .ok (verbatim_satisfy _ _ _)
  | char c =>
    exact (yields_true c.single).bind fun _ _ =>
      .ok (verbatim_satisfy _ _ _)
  | notChar c =>
    exact (yields_true c.single).bind fun _ _ =>
      .ok (verbatim_satisfy _ _ _)
  | oneOf members => exact .ok (verbatim_satisfy _ _ _)
  | satisfy test mismatch atEnd => exact .ok (verbatim_satisfy _ _ _)
  | text t => exact .ok (verbatim_ofText (ParserT.verbatim_text t))
  | textIgnoringCase t => exact .ok (verbatim_ofText (ParserT.verbatim_textIgnoringCase t))
  | pattern source flags =>
    exact (yields_true _).bind fun p _ => .ok (verbatim_ofText (ParserT.readsAs_matching p))
  | compiledPattern source flags laterFlags =>
    exact (yields_true _).bind fun _ _ => (yields_true _).bind fun p _ =>
      .ok (verbatim_ofText (ParserT.readsAs_matching p))
  | upTo c =>
    exact (yields_true c.single).bind fun c _ => .ok (verbatim_ofText (ParserT.verbatim_upTo c))
  | blanks => exact .ok (verbatim_ofText ParserT.verbatim_blanks)
  | blanks1 => exact .ok (verbatim_ofText ParserT.verbatim_blanks1)
  | endOfInput => exact .ok (verbatim_ofText ParserT.verbatim_endOfInput)
  | nothing => exact .ok (ParserT.readsAs_pure rfl)
  | orElse _ _ hp hq => exact yields_two (hp (0 :: a)) (hq (1 :: a)) ParserT.ReadsAs.orElse
  | choose _ h =>
    exact (yields_buildAll h a 0).bind fun _ => yields_choose ParserT.ReadsAs.orElse
  | orNothing _ hp => exact yields_one (hp (0 :: a)) fun hp => ParserT.ReadsAs.withDefault hp rfl
  | guarded gate _ hp =>
    exact (yields_true _).bind fun gate _ => yields_one (hp (1 :: a)) (ParserT.ReadsAs.guarded gate)
  | delayed name _ hp => exact .ok (.delayed _ _ fun _ => hp (0 :: a))
  | rule name => exact .ok (.delayed _ _ fun _ => hr name (0 :: a))
  | many _ hp =>
    exact yields_join ((hp (0 :: 0 :: a)).bind fun _ hp => .ok (listsTexts_ofList hp.many))
  | many1 _ hp =>
    exact yields_join ((hp (0 :: 0 :: a)).bind fun _ hp => .ok (listsTexts_ofList hp.many1))
  | times n _ hp =>
    exact yields_join ((hp (0 :: 0 :: a)).bind fun _ hp =>
      (yields_times? n fun k => hp.times k).bind fun _ hq => .ok (listsTexts_ofList hq))
  | sequence _ h =>
    exact yields_join ((yields_buildAll h (0 :: a) 0).bind fun _ hps =>
      .ok (listsTexts_ofList (.sequence hps)))

end Grammar

/-- A match and what it leaves make up the text that was given: for every parser of texts that is
made of verbatim parts, and for every grammar of texts that is given as data, with its rules
followed to any depth. -/
theorem match_append_rest :
    (∀ (ω : Type) (p : ParserT (Eval ω) Text), p.Textual →
      ∀ src t rest s s', (p src).run s = (.ok (.success t rest), s') → t ++ rest = src) ∧
    ∀ (g : Grammar) (rules : Rules) (depth : Nat) (p : ValueParser), g.Textual →
      (∀ r ∈ rules, r.2.Textual) → g.parser rules depth = .ok p →
      ∀ src v rest s s', (p src).run s = (.ok (.success v rest), s') →
        ∃ t, v = .text t ∧ t ++ rest = src := by
  refine ⟨fun ω p hp src t rest s s' h => hp.verbatim.append_rest h, ?_⟩
  intro g rules depth p hg hrules hp src v rest s s' h
  have hresolve : ∀ name a, Yields (rules.resolve depth name a) ValueParser.Verbatim :=
    Rules.yields_resolve ParserT.readsAs_tooDeep
      (fun r hr _ hresolve a => (hrules r hr).yields_verbatim hresolve a) depth
  have hverbatim : ValueParser.Verbatim p := hg.yields_verbatim hresolve [] p hp
  obtain ⟨t, rfl, hsrc⟩ := (hverbatim src).of_ok h
  exact ⟨t, rfl, hsrc.symm⟩

def syllables : Grammar :=
  .map (.unary .join)
    (.times 2 (.withDefault (.orElse (.text ['a', 'b']) (.text ['c', 'd'])) (.text [])))

theorem textual_syllables : syllables.Textual :=
  .times 2 (.orNothing (.orElse (.text _) (.text _)))

theorem match_append_rest_syllables :
    (∃ p t, syllables.parser [] 0 = .ok p ∧
      (p ['c', 'd', 'a']).run {} = (.ok (.success (.text ['c', 'd']) ['a']), t) ∧
      ∃ u, Value.text ['c', 'd'] = .text u ∧ u ++ ['a'] = ['c', 'd', 'a']) ∧
    ∃ (p : ParserT (Eval Value) Text) (t : Session Value), p.Textual ∧
      (p ['c', 'd', 'a']).run {} = (.ok (.success ['c', 'd'] ['a']), t) ∧
      ['c', 'd'] ++ ['a'] = ['c', 'd', 'a'] := by
  refine ⟨⟨_, _, rfl, rfl, ?_⟩, ?_⟩
  · exact match_append_rest.2 syllables [] 0 _ textual_syllables (by simp) rfl _ _ _ {} _ rfl
  · have htextual : ParserT.Textual (ω := Value) (.map List.flatten
        (.times 2 (.withDefault [] (.orElse (.text ['a', 'b']) (.text ['c', 'd']))))) :=
      .times 2 (.orNothing (.orElse (.text _) (.text _)))
    exact ⟨_, _, htextual, rfl, match_append_rest.1 _ _ htextual _ _ _ {} _ rfl⟩

end Descent
