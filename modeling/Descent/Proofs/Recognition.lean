import Descent.Parser.Values
import Descent.Proofs.Outcome
import Descent.Proofs.Runs

/-!
# Parsers that read writings

A parser recognizes the writings of values if it reads nothing else and reads each of them to its
end. This is stated for parsers `p i` that all give the same answers, such as those of one grammar
with its references followed to different depths. An answer of a combinator follows from the
answers of its parts.
-/

namespace Descent

def Result.Reads {α : Type} (writes : α → Text → Prop) (src : Text) : Result α → Prop
  | .success v rest => ∃ w, writes v w ∧ src = w ++ rest
  | .failure _ => True

namespace ParserT

variable {ω α β : Type}

section
variable {p : ParserT (Eval ω) α} {q : ParserT (Eval ω) β} {src rest last e : Text}
  {v : α} {vs : List α}

theorem answers_many_of_failure (h : (p src).Answers (.failure e)) :
    (many p src).Answers (.success [] src) := by
  rw [many_eq]
  exact h.bind (.pure _)

theorem answers_many_of_success (h : (p src).Answers (.success v rest))
    (hlt : rest.length < src.length) (hmany : (many p rest).Answers (.success vs last)) :
    (many p src).Answers (.success (v :: vs) last) := by
  have hmore : (continueMany p src v rest).Answers (.success (v :: vs) last) := by
    rw [continueMany, if_pos hlt]
    exact hmany.map _
  rw [many_eq]
  exact h.bind hmore

theorem answers_sepBy_of_failure (h : (p src).Answers (.failure e)) :
    (sepBy p q src).Answers (.success [] src) := by
  have hpair : (pair p (many (after q p)) src).Answers (.failure e) := h.bind (.pure _)
  have hsome : (sepBy1 p q src).Answers (.failure e) := hpair.bind (.pure _)
  exact hsome.bind (.pure _)

theorem answers_sepBy_of_success (h : (p src).Answers (.success v rest))
    (hmany : (many (after q p) rest).Answers (.success vs last)) :
    (sepBy p q src).Answers (.success (v :: vs) last) := by
  have hpair : (pair p (many (after q p)) src).Answers (.success (v, vs) last) :=
    h.bind (hmany.bind (.pure _))
  have hsome : (sepBy1 p q src).Answers (.success (v :: vs) last) := hpair.bind (.pure _)
  exact hsome.bind (.pure _)

theorem answers_delayed (address : Address) (label : Option Text) {r : Result α}
    (h : (p src).Answers r) : (delayed address label (fun _ => .ok p) src).Answers r := by
  intro s
  rw [run_delayed]
  cases s.memory.get address with
  | ready call => exact h s
  | pending failed => exact h _

end

/-- On texts in `domain` the parsers `p i` all give the same answer. A success has read a writing
of its value, and a writing in front of a text in `follow` is read to its end. -/
structure Recognizes {ι : Type} (domain follow : Text → Prop) (writes : α → Text → Prop)
    (p : ι → ParserT (Eval ω) α) : Prop where
  reads : ∀ src, domain src → ∃ r, (∀ i, (p i src).Answers r) ∧ r.Reads writes src
  accepts : ∀ v w rest, writes v w → follow rest → domain (w ++ rest) →
    ∀ i, (p i (w ++ rest)).Answers (.success v rest)

namespace Recognizes

variable {ι κ : Type} {domain follow : Text → Prop} {writes : α → Text → Prop}
  {p : ι → ParserT (Eval ω) α}

theorem reindex (h : Recognizes domain follow writes p) (g : κ → ι) :
    Recognizes domain follow writes fun k => p (g k) := by
  constructor
  · intro src hsrc
    obtain ⟨r, hr, hreads⟩ := h.reads src hsrc
    exact ⟨r, fun k => hr (g k), hreads⟩
  · intro v w rest hw hrest hsrc k
    exact h.accepts v w rest hw hrest hsrc (g k)

theorem delayed (h : Recognizes domain follow writes p) (address : ι → Address) :
    Recognizes domain follow writes fun i =>
      ParserT.delayed (address i) none fun _ => .ok (p i) := by
  constructor
  · intro src hsrc
    obtain ⟨r, hr, hreads⟩ := h.reads src hsrc
    exact ⟨r, fun i => answers_delayed (address i) none (hr i), hreads⟩
  · intro v w rest hw hrest hsrc i
    exact answers_delayed (address i) none (h.accepts v w rest hw hrest hsrc i)

end Recognizes
end ParserT

/-! Punctuation and brackets in grammars of values. -/

namespace ValueParser

open ParserT

theorem ofChar_char_self (c : Char) (rest : Text) :
    ofChar (.char c) (c :: rest) = pure (.success (.ofChar c) rest) := by
  simp [ofChar, ParserT.map, char_self]

theorem exists_ofChar_char_eq_failure {c : Char} {src : Text} (h : ∀ rest, src ≠ c :: rest) :
    ∃ e, ofChar (.char c) src = pure (.failure e) := by
  cases src with
  | nil => exact ⟨_, rfl⟩
  | cons d rest =>
    have hd : d ≠ c := by
      rintro rfl
      exact h rest rfl
    exact ⟨wanted (Text.quote [c]) (some d),
      by simp [ofChar, ParserT.map, char_of_ne hd]⟩

section
variable {α : Type} {left right : Char} {p : ValueParser} {src rest last e : Text} {v : Value}

theorem after_ofChar_char (c : Char) (p : ParserT (Eval Value) α) (rest : Text) :
    after (ofChar (.char c)) p (c :: rest) = p rest := by
  rw [after, ofChar_char_self, pure_bind]

theorem answers_between_of_not_open (h : ofChar (.char left) src = pure (.failure e)) :
    (between (ofChar (.char left)) (ofChar (.char right)) p src).Answers (.failure e) := by
  have hopen : (after (ofChar (.char left)) p src).Answers (.failure e) := by
    rw [after, h]
    exact .pure _
  exact hopen.bind (.pure _)

theorem answers_between_of_failure (h : (p rest).Answers (.failure e)) :
    (between (ofChar (.char left)) (ofChar (.char right)) p (left :: rest)).Answers
      (.failure e) := by
  rw [← after_ofChar_char left p] at h
  exact h.bind (.pure _)

theorem answers_between_of_not_closed (h : (p rest).Answers (.success v last))
    (he : ofChar (.char right) last = pure (.failure e)) :
    (between (ofChar (.char left)) (ofChar (.char right)) p (left :: rest)).Answers
      (.failure e) := by
  have hclose : (ofChar (.char right) last).Answers (.failure e) := by
    rw [he]
    exact .pure _
  rw [← after_ofChar_char left p] at h
  exact h.bind (hclose.bind (.pure _))

theorem answers_between_of_success (h : (p rest).Answers (.success v (right :: last))) :
    (between (ofChar (.char left)) (ofChar (.char right)) p (left :: rest)).Answers
      (.success v last) := by
  have hclose : (ofChar (.char right) (right :: last)).Answers
      (.success (.ofChar right) last) := by
    rw [ofChar_char_self]
    exact .pure _
  rw [← after_ofChar_char left p] at h
  exact h.bind (hclose.bind (.pure _))

end

end ValueParser
end Descent
