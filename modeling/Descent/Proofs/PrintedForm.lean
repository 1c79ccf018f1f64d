import Descent.Proofs.PrintedText
import Descent.Value

/-!
# Printed forms

A printed value shows where it ends and which value it is, so that nothing behind it can be mistaken
for a part of it, and a printed result shows its value and what was left. The first character tells
the shape of a value, up to the two that are printed by name. Only numbers need to know what follows
them, and no digit ever does. Functions all look the same and are left out.
-/

namespace Descent

namespace Value

inductive IsData : Value → Prop
  | absent : IsData .absent
  | bool (b : Bool) : IsData (.bool b)
  | int (n : Int) : IsData (.int n)
  | text (t : Text) : IsData (.text t)
  | list {vs : List Value} (h : ∀ v ∈ vs, IsData v) : IsData (.list vs)
  | pair {v w : Value} (hv : IsData v) (hw : IsData w) : IsData (.pair v w)
  | present {v : Value} (h : IsData v) : IsData (.present v)

inductive Shape where
  | absent
  | bool (b : Bool)
  | int
  | text
  | list
  | named
  | function
deriving DecidableEq

def shape : Value → Shape
  | absent => .absent
  | bool b => .bool b
  | int _ => .int
  | text _ => .text
  | list _ => .list
  | pair _ _ => .named
  | present _ => .named
  | function _ => .function

def shapeOf? (c : Char) : Option Shape :=
  if c = 'N' then some .absent
  else if c = 'T' then some (.bool true)
  else if c = 'F' then some (.bool false)
  else if c = '-' ∨ Alphabet.decimal.contains c then some .int
  else if c = '\'' ∨ c = '"' then some .text
  else if c = '[' then some .list
  else if c = 'P' then some .named
  else if c = '<' then some .function
  else none

variable {quote : Text → Text} {v w : Value} {s t : Text}

theorem shapeOf?_number {c : Char} (hc : c = '-' ∨ Alphabet.decimal.contains c = true) :
    shapeOf? c = some .int := by
  rcases hc with rfl | hc
  · rfl
  · obtain ⟨n, hn, rfl⟩ := Text.exists_digitChar_of_contains_decimal hc
    revert n
    decide

theorem exists_printBy_eq_cons (hq : Text.IsQuoting quote) (v : Value) :
    ∃ c rest, v.printBy quote = c :: rest ∧ shapeOf? c = some v.shape := by
  cases v with
  | absent => exact ⟨'N', _, rfl, rfl⟩
  | bool b =>
    cases b with
    | false => exact ⟨'F', _, rfl, rfl⟩
    | true => exact ⟨'T', _, rfl, rfl⟩
  | int n =>
    obtain ⟨c, tail, hn, hc⟩ := Text.exists_decimal_head n
    exact ⟨c, tail, hn, shapeOf?_number hc⟩
  | text t =>
    obtain ⟨mark, rest, ht, rfl | rfl⟩ := hq.opens t
    · exact ⟨_, rest, ht, rfl⟩
    · exact ⟨_, rest, ht, rfl⟩
  | list vs => exact ⟨'[', _, rfl, rfl⟩
  | pair v w => exact ⟨'P', _, rfl, rfl⟩
  | present v => exact ⟨'P', _, rfl, rfl⟩
  | function f => exact ⟨'<', _, rfl, rfl⟩

theorem shape_eq_of_printBy (hq : Text.IsQuoting quote)
    (h : v.printBy quote ++ s = w.printBy quote ++ t) : v.shape = w.shape := by
  obtain ⟨c, rest, hv, hc⟩ := exists_printBy_eq_cons hq v
  obtain ⟨d, last, hw, hd⟩ := exists_printBy_eq_cons hq w
  rw [hv, hw] at h
  obtain ⟨rfl, -⟩ := List.cons.inj h
  exact Option.some.inj (hc.symm.trans hd)

theorem bracket_cons_ne_printBy (hq : Text.IsQuoting quote) (w : Value) (s t : Text) :
    ']' :: s ≠ w.printBy quote ++ t := by
  obtain ⟨c, rest, hw, hc⟩ := exists_printBy_eq_cons hq w
  rw [hw]
  rintro ⟨⟩
  cases hc

theorem pair_append_ne_present_append (s t : Text) :
    Spelling.pair ++ s ≠ Spelling.present ++ t := by
  intro h
  have hsecond : some 'a' = some 'r' := congrArg (·[1]?) h
  exact absurd hsecond (by decide)

/-- Printed in front of a text that goes on with no digit, `v` looks like no other data. -/
def IsRecognized (quote : Text → Text) (v : Value) : Prop :=
  ∀ w : Value, w.IsData → ∀ s t : Text, Text.EndsNumber s → Text.EndsNumber t →
    v.printBy quote ++ s = w.printBy quote ++ t → v = w ∧ s = t

theorem endsNumber_second (s : Text) : Text.EndsNumber (Spelling.second ++ s) :=
  Text.endsNumber_cons (by decide) _

theorem endsNumber_closing (s : Text) : Text.EndsNumber (')' :: s) :=
  Text.endsNumber_cons (by decide) s

theorem endsNumber_printRestBy (vs : List Value) (s : Text) :
    Text.EndsNumber (printRestBy quote vs ++ ']' :: s) := by
  cases vs with
  | nil => exact Text.endsNumber_cons (by decide) _
  | cons v vs => exact Text.endsNumber_cons (by decide) _

theorem printRestBy_append_inj {vs ws : List Value} (hvs : ∀ v ∈ vs, IsRecognized quote v)
    (hws : ∀ w ∈ ws, w.IsData)
    (h : printRestBy quote vs ++ ']' :: s = printRestBy quote ws ++ ']' :: t) :
    vs = ws ∧ s = t := by
  induction vs generalizing ws with
  | nil =>
    cases ws with
    | nil => exact ⟨rfl, (List.cons.inj h).2⟩
    | cons w ws => cases h
  | cons v vs ih =>
    cases ws with
    | nil => cases h
    | cons w ws =>
      obtain ⟨hv, hvs'⟩ := List.forall_mem_cons.1 hvs
      obtain ⟨hw, hws'⟩ := List.forall_mem_cons.1 hws
      simp only [printRestBy, List.cons_append, List.cons.injEq, true_and, List.append_assoc] at h
      obtain ⟨rfl, hmore⟩ := hv w hw _ _ (endsNumber_printRestBy vs s)
        (endsNumber_printRestBy ws t) h
      obtain ⟨rfl, hst⟩ := ih hvs' hws' hmore
      exact ⟨rfl, hst⟩

theorem printAllBy_append_inj (hq : Text.IsQuoting quote) {vs ws : List Value}
    (hvs : ∀ v ∈ vs, IsRecognized quote v) (hws : ∀ w ∈ ws, w.IsData)
    (h : printAllBy quote vs ++ ']' :: s = printAllBy quote ws ++ ']' :: t) :
    vs = ws ∧ s = t := by
  cases vs with
  | nil =>
    cases ws with
    | nil => exact ⟨rfl, (List.cons.inj h).2⟩
    | cons w ws =>
      rw [printAllBy, printAllBy, List.nil_append, List.append_assoc] at h
      exact absurd h (bracket_cons_ne_printBy hq w s _)
  | cons v vs =>
    cases ws with
    | nil =>
      rw [printAllBy, printAllBy, List.nil_append, List.append_assoc] at h
      exact absurd h.symm (bracket_cons_ne_printBy hq v t _)
    | cons w ws =>
      -- With a comma in front both are the rest of a list.
      exact printRestBy_append_inj hvs hws (congrArg (',' :: ' ' :: ·) h)

section
variable (hq : Text.IsQuoting quote)
include hq

theorem isRecognized_absent : IsRecognized quote .absent := by
  intro w hw s t _ _ h
  have hshape := shape_eq_of_printBy hq h
  cases hw with
  | absent => exact ⟨rfl, List.append_cancel_left h⟩
  | _ => cases hshape

theorem isRecognized_bool (b : Bool) : IsRecognized quote (.bool b) := by
  intro w hw s t _ _ h
  have hshape := shape_eq_of_printBy hq h
  cases hw with
  | bool b' =>
    obtain rfl := Shape.bool.inj hshape
    exact ⟨rfl, List.append_cancel_left h⟩
  | _ => cases hshape

theorem isRecognized_int (n : Int) : IsRecognized quote (.int n) := by
  intro w hw s t hs ht h
  have hshape := shape_eq_of_printBy hq h
  cases hw with
  | int n' =>
    obtain ⟨rfl, hst⟩ := Text.decimal_append_inj hs ht h
    exact ⟨rfl, hst⟩
  | _ => cases hshape

theorem isRecognized_text (u : Text) : IsRecognized quote (.text u) := by
  intro w hw s t _ _ h
  have hshape := shape_eq_of_printBy hq h
  cases hw with
  | text u' =>
    obtain ⟨rfl, hst⟩ := hq.append_inj h
    exact ⟨rfl, hst⟩
  | _ => cases hshape

theorem isRecognized_list {vs : List Value} (hvs : ∀ v ∈ vs, IsRecognized quote v) :
    IsRecognized quote (.list vs) := by
  intro w hw s t _ _ h
  have hshape := shape_eq_of_printBy hq h
  cases hw with
  | @list ws hws =>
    simp only [printBy, List.cons_append, List.cons.injEq, true_and, List.append_assoc,
      List.nil_append] at h
    obtain ⟨rfl, hst⟩ := printAllBy_append_inj hq hvs hws h
    exact ⟨rfl, hst⟩
  | _ => cases hshape

theorem isRecognized_pair (hv : IsRecognized quote v) (hw : IsRecognized quote w) :
    IsRecognized quote (.pair v w) := by
  intro x hx s t _ _ h
  have hshape := shape_eq_of_printBy hq h
  cases hx with
  | @pair v' w' hv' hw' =>
    simp only [printBy, List.append_assoc, List.cons_append, List.nil_append] at h
    obtain ⟨rfl, hmore⟩ := hv v' hv' _ _ (endsNumber_second _) (endsNumber_second _)
      (List.append_cancel_left h)
    obtain ⟨rfl, hlast⟩ := hw w' hw' _ _ (endsNumber_closing s) (endsNumber_closing t)
      (List.append_cancel_left hmore)
    exact ⟨rfl, (List.cons.inj hlast).2⟩
  | present hv' =>
    simp only [printBy, List.append_assoc] at h
    exact absurd h (pair_append_ne_present_append _ _)
  | _ => cases hshape

theorem isRecognized_present (hv : IsRecognized quote v) : IsRecognized quote (.present v) := by
  intro x hx s t _ _ h
  have hshape := shape_eq_of_printBy hq h
  cases hx with
  | @present v' hv' =>
    simp only [printBy, List.append_assoc, List.cons_append, List.nil_append] at h
    obtain ⟨rfl, hlast⟩ := hv v' hv' _ _ (endsNumber_closing s) (endsNumber_closing t)
      (List.append_cancel_left h)
    exact ⟨rfl, (List.cons.inj hlast).2⟩
  | pair hv' hw' =>
    simp only [printBy, List.append_assoc] at h
    exact absurd h.symm (pair_append_ne_present_append _ _)
  | _ => cases hshape

theorem IsData.isRecognized (hv : v.IsData) : IsRecognized quote v := by
  induction hv with
  | absent => exact isRecognized_absent hq
  | bool b => exact isRecognized_bool hq b
  | int n => exact isRecognized_int hq n
  | text u => exact isRecognized_text hq u
  | list _ ih => exact isRecognized_list hq ih
  | pair _ _ ihv ihw => exact isRecognized_pair hq ihv ihw
  | present _ ih => exact isRecognized_present hq ih

end

end Value

namespace Result

theorem print_of_printed {r : Result Value} {t : Text} (h : r.printed = .ok t) :
    r.print Value.print = t := by
  cases r with
  | success v rest =>
    simp only [printed, Value.printed] at h
    split at h
    next => exact Except.ok.inj h
    next => cases h
  | failure e => exact Except.ok.inj h

def HoldsData : Result Value → Prop
  | success v _ => v.IsData
  | failure _ => True

theorem successName_append_ne_failureName_append (s t : Text) :
    successName ++ s ≠ failureName ++ t := by
  intro h
  have hfirst : some 'S' = some 'F' := congrArg List.head? h
  exact absurd hfirst (by decide)

theorem printBy_inj {quote : Text → Text} (hq : Text.IsQuoting quote) {r r' : Result Value}
    (hr : r.HoldsData) (hr' : r'.HoldsData)
    (h : r.printBy quote (Value.printBy quote) = r'.printBy quote (Value.printBy quote)) :
    r = r' := by
  cases r with
  | success v rest =>
    cases r' with
    | success v' rest' =>
      simp only [printBy, List.append_assoc, List.cons_append, List.nil_append,
        List.append_cancel_left_eq, List.cons.injEq, true_and] at h
      obtain ⟨rfl, hmore⟩ := Value.IsData.isRecognized hq hr v' hr' _ _
        (Text.endsNumber_cons (by decide) _) (Text.endsNumber_cons (by decide) _) h
      simp only [List.cons.injEq, true_and] at hmore
      obtain ⟨rfl, -⟩ := hq.append_inj hmore
      rfl
    | failure e' =>
      simp only [printBy, List.append_assoc] at h
      exact absurd h (successName_append_ne_failureName_append _ _)
  | failure e =>
    cases r' with
    | success v' rest' =>
      simp only [printBy, List.append_assoc] at h
      exact absurd h.symm (successName_append_ne_failureName_append _ _)
    | failure e' =>
      simp only [printBy, List.append_assoc, List.cons_append, List.nil_append,
        List.append_cancel_left_eq, List.cons.injEq, true_and] at h
      obtain ⟨rfl, -⟩ := hq.append_inj h
      rfl

/-- Results that are printed alike are the same, as far as they hold no functions: in the library's
printed form, with the limit on digits or without it, and whatever characters count as printable. -/
theorem printed_form_determines_result :
    (∀ r r' : Result Value, r.HoldsData → r'.HoldsData →
      r.print Value.print = r'.print Value.print → r = r') ∧
    (∀ (r r' : Result Value) (t : Text), r.HoldsData → r'.HoldsData →
      r.printed = .ok t → r'.printed = .ok t → r = r') ∧
    ∀ (printable : Char → Bool) (r r' : Result Value), r.HoldsData → r'.HoldsData →
      r.printBy (Text.quoteBy printable) (Value.printBy (Text.quoteBy printable)) =
        r'.printBy (Text.quoteBy printable) (Value.printBy (Text.quoteBy printable)) → r = r' := by
  have hlibrary : ∀ r r' : Result Value, r.HoldsData → r'.HoldsData →
      r.print Value.print = r'.print Value.print → r = r' := fun r r' hr hr' h =>
    printBy_inj (Text.isQuoting_quoteBy Text.isPrintable) hr hr' h
  refine ⟨hlibrary, fun r r' t hr hr' h h' => ?_, fun printable r r' hr hr' h => ?_⟩
  · exact hlibrary r r' hr hr' ((print_of_printed h).trans (print_of_printed h').symm)
  · exact printBy_inj (Text.isQuoting_quoteBy printable) hr hr' h

theorem printed_form_determines_result_lookalike :
    ∃ items v, items = [.text (Text.ofString "'\"], ''"), .int (-10), .present .absent] ∧
      v = Value.list items ∧ v.IsData ∧
      (success v ['\u0007']).printed = .ok (Text.ofString
        "Success(['\\'\"], \\'\\'', -10, Present(value=None)], '\\x07')") ∧
      (success v ['b']).printBy (Text.quoteBy fun _ => false)
          (Value.printBy (Text.quoteBy fun _ => false)) = Text.ofString
        "Success(['\\'\\x22\\x5d\\x2c\\x20\\'\\'', -10, Present(value=None)], '\\x62')" ∧
      map Value.list (success items []) = success v [] ∧
      map Value.list (success items ['\u0007']) = success v ['\u0007'] ∧
      map Value.list (success items ['b']) = success v ['b'] := by
  refine ⟨_, _, rfl, rfl, ?_⟩
  obtain ⟨hlibrary, hlimit, hany⟩ := printed_form_determines_result
  have hitems : ∀ v ∈ [Value.text (Text.ofString "'\"], ''"), .int (-10), .present .absent],
      v.IsData := by
    simp [Value.IsData.text, Value.IsData.int, Value.IsData.present .absent]
  have hv := Value.IsData.list hitems
  refine ⟨hv, ?_, ?_, ?_, ?_, ?_⟩
  · rfl
  · rfl
  · exact hlibrary _ _ hv hv rfl
  · exact hlimit _ _ _ hv hv rfl rfl
  · exact hany (fun _ => false) _ _ hv hv rfl

end Result
end Descent
