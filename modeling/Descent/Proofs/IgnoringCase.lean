import Descent.Proofs.FixedText

/-!
# Fixed texts in any mixture of cases

Two characters are the same but for case if they have the same lower case, which is a text and may
be longer than one character. Texts are compared place by place and never as they are when folded,
so a match is as long as the text that is wanted, and its value is what stands in the input. Nothing
here depends on what the lower cases are.
-/

namespace Descent

namespace Text

variable (lower : Char → Text)

def AgreeAt (t u : Text) (i : Nat) : Prop :=
  ∃ c d, t[i]? = some c ∧ u[i]? = some d ∧ lower d = lower c

/-- In front of the character `c` of `t` the texts agree, and `src` ends there or goes on with
another character. -/
structure FirstDifference (t src : Text) (i : Nat) (c : Char) : Prop where
  getElem? : t[i]? = some c
  agree : ∀ j < i, AgreeAt lower t src j
  differ : ¬ AgreeAt lower t src i

def SameText (t u : Text) : Prop := u.length = t.length ∧ ∀ i < t.length, AgreeAt lower t u i

variable {lower} {t u v : Text} {i : Nat}

theorem agreeAt_of_front (h : t <+: u) (hi : i < t.length) : AgreeAt lower t u i := by
  have hleft := List.getElem?_eq_getElem hi
  have hboth := getElem?_of_prefix h hi
  exact ⟨t[i], t[i], hleft, hboth.symm.trans hleft, rfl⟩

theorem AgreeAt.symm (h : AgreeAt lower t u i) : AgreeAt lower u t i := by
  obtain ⟨c, d, hc, hd, hcd⟩ := h
  exact ⟨d, c, hd, hc, hcd.symm⟩

theorem AgreeAt.trans (h : AgreeAt lower t u i) (h' : AgreeAt lower u v i) :
    AgreeAt lower t v i := by
  obtain ⟨c, d, hc, hd, hcd⟩ := h
  obtain ⟨d', e, hd', he, hde⟩ := h'
  obtain rfl : d = d' := Option.some.inj (hd.symm.trans hd')
  exact ⟨c, e, hc, he, hde.trans hcd⟩

theorem AgreeAt.lt_length (h : AgreeAt lower t u i) : i < u.length := by
  obtain ⟨c, d, -, hd, -⟩ := h
  exact (List.getElem?_eq_some_iff.1 hd).1

theorem length_le_of_agree (h : ∀ i < t.length, AgreeAt lower t u i) : t.length ≤ u.length :=
  Nat.not_lt.1 fun hlt => Nat.lt_irrefl _ (h u.length hlt).lt_length

theorem sameText_equivalence (lower : Char → Text) : Equivalence (SameText lower) where
  refl t := ⟨rfl, fun _ hi => agreeAt_of_front (List.prefix_refl t) hi⟩
  symm := by
    intro t u ⟨hlength, hagree⟩
    exact ⟨hlength.symm, fun i hi => (hagree i (hlength ▸ hi)).symm⟩
  trans := by
    intro t u v ⟨hlength, hagree⟩ ⟨hlength', hagree'⟩
    exact ⟨hlength'.trans hlength, fun i hi => (hagree i hi).trans (hagree' i (hlength ▸ hi))⟩

theorem agreeAt_append {front read : Text}
    (h : List.Forall₂ (fun c d => (lower d == lower c) = true) front read) (more rest : Text)
    (hi : i < front.length) : AgreeAt lower (front ++ more) (read ++ rest) i := by
  have hread : i < read.length := h.length_eq ▸ hi
  refine ⟨front[i], read[i], ?_, ?_, eq_of_beq (h.get hi hread)⟩
  · rw [List.getElem?_append_left hi, List.getElem?_eq_getElem hi]
  · rw [List.getElem?_append_left hread, List.getElem?_eq_getElem hread]

theorem firstDifference_append {front read rest : Text} {c : Char}
    (h : List.Forall₂ (fun c d => (lower d == lower c) = true) front read)
    (hc : ∀ d ∈ rest.head?, (lower d == lower c) = false) (more : Text) :
    FirstDifference lower (front ++ c :: more) (read ++ rest) front.length c where
  getElem? := by
    rw [List.getElem?_append_right (Nat.le_refl _), Nat.sub_self]
    rfl
  agree _ hj := agreeAt_append h (c :: more) rest hj
  differ := by
    intro ⟨c', d, hc', hd, hcd⟩
    rw [List.getElem?_append_right (Nat.le_refl _), Nat.sub_self] at hc'
    rw [List.getElem?_append_right (Nat.le_of_eq h.length_eq.symm), h.length_eq, Nat.sub_self,
      ← List.head?_eq_getElem?] at hd
    obtain rfl : c = c' := Option.some.inj hc'
    exact absurd hcd (beq_eq_false_iff_ne.1 (hc d hd))

end Text

namespace ParserT

open Text (AgreeAt FirstDifference SameText)

section
variable {m : Type → Type} [Monad m] (lower : Char → Text)

def caseName (c : Char) : Text := Text.quote [c] ++ Text.ofString " (any case)"

def textBy (t : Text) : ParserT m Text := tests caseName (fun c d => lower d == lower c) t

theorem textIgnoringCase_eq_textBy : textIgnoringCase (m := m) = textBy Text.lower := by
  have hpart (c : Char) : charIgnoringCase (m := m) c =
      expect (caseName c) fun d => Text.lower d == Text.lower c := by
    rw [charIgnoringCase, partIgnoringCase, List.flatMap_singleton]
    rfl
  funext t
  rw [textIgnoringCase, textBy, tests, funext hpart]

variable {lower} [LawfulMonad m]

theorem textBy_cases (t src : Text) :
    ((∀ i < t.length, AgreeAt lower t src i) ∧
      textBy (m := m) lower t src = pure (.success (src.take t.length) (src.drop t.length))) ∨
    ∃ i c, FirstDifference lower t src i c ∧
      textBy (m := m) lower t src = pure (.failure (wanted (caseName c) src[i]?)) := by
  rcases Text.passed_or_exists_difference (fun c d => lower d == lower c) t src with
    ⟨read, rest, rfl, hread⟩ | ⟨front, c, more, read, rest, rfl, rfl, hread, hc⟩
  · refine .inl ⟨fun i hi => ?_, ?_⟩
    · have hagree := Text.agreeAt_append hread [] rest hi
      rwa [List.append_nil] at hagree
    · rw [hread.length_eq, List.take_left, List.drop_left]
      exact tests_of_passed hread rest
  · refine .inr ⟨front.length, c, Text.firstDifference_append hread hc more, ?_⟩
    rw [hread.length_eq, List.getElem?_append_right (Nat.le_refl _), Nat.sub_self,
      ← List.head?_eq_getElem?]
    exact tests_of_difference hread hc more

theorem textBy_of_agree {t src : Text} (h : ∀ i < t.length, AgreeAt lower t src i) :
    textBy (m := m) lower t src = pure (.success (src.take t.length) (src.drop t.length)) := by
  rcases textBy_cases (m := m) t src with ⟨-, hanswer⟩ | ⟨i, c, hi, -⟩
  · exact hanswer
  · have hlt : i < t.length := (List.getElem?_eq_some_iff.1 hi.getElem?).1
    exact absurd (h i hlt) hi.differ

theorem exists_textBy_eq_failure {t src : Text} (h : ¬ ∀ i < t.length, AgreeAt lower t src i) :
    ∃ i c, FirstDifference lower t src i c ∧
      textBy (m := m) lower t src = pure (.failure (wanted (caseName c) src[i]?)) := by
  rcases textBy_cases (m := m) t src with ⟨hagree, -⟩ | hdiffers
  · exact absurd hagree h
  · exact hdiffers

end

section
variable {ω : Type} {lower : Char → Text} {t src v rest : Text}

theorem textBy_eq_success_iff :
    (textBy lower t src : Eval ω (Result Text)) = pure (.success v rest) ↔
      v = src.take t.length ∧ rest = src.drop t.length ∧
        ∀ i < t.length, AgreeAt lower t src i := by
  constructor
  · intro h
    rcases textBy_cases (m := Eval ω) t src with ⟨hagree, hanswer⟩ | ⟨i, c, -, hanswer⟩
    · rw [hanswer, Eval.pure_inj] at h
      cases h
      exact ⟨rfl, rfl, hagree⟩
    · rw [hanswer, Eval.pure_inj] at h
      cases h
  · intro ⟨hv, hrest, hagree⟩
    rw [hv, hrest]
    exact textBy_of_agree hagree

theorem textBy_whole_iff :
    (textBy lower t src : Eval ω (Result Text)) = pure (.success src []) ↔
      SameText lower t src := by
  rw [textBy_eq_success_iff]
  constructor
  · intro ⟨_, hdrop, hagree⟩
    have hle : src.length ≤ t.length := List.drop_eq_nil_iff.1 hdrop.symm
    exact ⟨Nat.le_antisymm hle (Text.length_le_of_agree hagree), hagree⟩
  · intro ⟨hlength, hagree⟩
    exact ⟨(List.take_of_length_le (Nat.le_of_eq hlength)).symm,
      (List.drop_of_length_le (Nat.le_of_eq hlength)).symm, hagree⟩

theorem textBy_of_text (h : (text t src : Eval ω (Result Text)) = pure (.success v rest)) :
    (textBy lower t src : Eval ω (Result Text)) = pure (.success v rest) := by
  rcases Text.prefix_or_exists_difference t src with
    ⟨last, rfl⟩ | ⟨front, c, more, last, rfl, rfl, hc⟩
  · rw [text_append_self, Eval.pure_inj] at h
    cases h
    exact textBy_eq_success_iff.2 ⟨List.take_left.symm, List.drop_left.symm,
      fun _ hi => Text.agreeAt_of_front (List.prefix_append _ _) hi⟩
  · rw [text_of_difference hc, Eval.pure_inj] at h
    cases h

/-- What a reader of fixed texts does if it compares each character by its lower case. Where the
places do not all agree it stops at the first one that does not, or at which the input ends. -/
structure ComparesBy (lower : Char → Text) (reader : Text → ParserT (Eval ω) Text) : Prop where
  success_iff : ∀ t src v rest, reader t src = pure (.success v rest) ↔
    v = src.take t.length ∧ rest = src.drop t.length ∧ t.length ≤ src.length ∧
      ∀ i < t.length, AgreeAt lower t src i
  otherwise : ∀ t src, ¬ (∀ i < t.length, AgreeAt lower t src i) →
    ∃ i c, FirstDifference lower t src i c ∧
      reader t src = pure (.failure (wanted (caseName c) src[i]?))
  of_text : ∀ t src v rest, (text t src : Eval ω (Result Text)) = pure (.success v rest) →
    reader t src = pure (.success v rest)
  equivalence : Equivalence fun t u => reader t u = pure (.success u [])
  consumes : ∀ t src v rest, reader t src = pure (.success v rest) →
    src = v ++ rest ∧ v.length = t.length

theorem comparesBy_textBy (lower : Char → Text) : ComparesBy (ω := ω) lower (textBy lower) where
  success_iff t src v rest := by
    rw [textBy_eq_success_iff]
    constructor
    · intro ⟨hv, hrest, hagree⟩
      exact ⟨hv, hrest, Text.length_le_of_agree hagree, hagree⟩
    · intro ⟨hv, hrest, _, hagree⟩
      exact ⟨hv, hrest, hagree⟩
  otherwise _ _ h := exists_textBy_eq_failure h
  of_text _ _ _ _ h := textBy_of_text h
  equivalence := by
    simp only [textBy_whole_iff]
    exact Text.sameText_equivalence lower
  consumes t src v rest h := by
    obtain ⟨rfl, rfl, hagree⟩ := textBy_eq_success_iff.1 h
    exact ⟨(List.take_append_drop _ _).symm,
      List.length_take_of_le (Text.length_le_of_agree hagree)⟩

end
end ParserT
end Descent
