import Descent.Parser.Delayed
import Descent.Parser.Primitives
import Descent.Proofs.Outcome

/-!
# Parsers nested from the combinators

`Nested` holds of every parser that is built from the primitive parsers and the combinators, over
leaves and functions that come from outside. A function only has to behave on the values that it
can be given: `next` in `bind` on those that the parser in front of it produces. A delayed parser is
nested if its factory returns nested parsers, and `tooDeep` is nested, so that a grammar which
refers to itself is nested at every depth to which its references are followed.
-/

namespace Descent

variable {ω α β γ δ : Type}

namespace ParserT

def LeavesSuffix (p : ParserT (Eval ω) α) : Prop :=
  ∀ src s v rest t, (p src).run s = (.ok (.success v rest), t) → rest <:+ src

def Produces (p : ParserT (Eval ω) α) (v : α) : Prop :=
  ∃ src rest, (p src).CanAnswer (.success v rest)

variable {p : ParserT (Eval ω) α} {q : ParserT (Eval ω) β}

theorem eq_of_produces_pure {v w : α} (h : (ParserT.pure v : ParserT (Eval ω) α).Produces w) :
    w = v := by
  obtain ⟨src, rest, h⟩ := h
  cases h.eq_of_pure
  rfl

theorem exists_success_of_bind {k : Result α → Eval ω (Result β)} {src last : Text} {w : β}
    (h : (p src >>= k).CanAnswer (.success w last))
    (hk : ∀ e, k (.failure e) = pure (.failure e)) :
    ∃ v rest, (p src).CanAnswer (.success v rest) ∧
      (k (.success v rest)).CanAnswer (.success w last) := by
  obtain ⟨r, hr, h⟩ := h.exists_of_bind
  cases r with
  | success v rest => exact ⟨v, rest, hr, h⟩
  | failure e =>
    rw [hk] at h
    cases h.eq_of_pure

theorem produces_of_pair {v : α} {w : β} (h : (ParserT.pair p q).Produces (v, w)) :
    p.Produces v ∧ q.Produces w := by
  obtain ⟨src, last, h⟩ := h
  obtain ⟨v', rest, hp, h⟩ := exists_success_of_bind h fun _ => rfl
  obtain ⟨w', last', hq, h⟩ := exists_success_of_bind h fun _ => rfl
  cases h.eq_of_pure
  exact ⟨⟨src, rest, hp⟩, rest, last, hq⟩

theorem exists_of_produces_mapM {f : α → Eval ω β} {w : β}
    (h : (ParserT.mapM f p).Produces w) : ∃ v, p.Produces v ∧ (f v).CanAnswer w := by
  obtain ⟨src, rest, h⟩ := h
  obtain ⟨v, rest', hp, h⟩ := exists_success_of_bind h fun _ => rfl
  obtain ⟨w', hw, h⟩ := h.exists_of_bind
  cases h.eq_of_pure
  exact ⟨v, ⟨src, rest, hp⟩, hw⟩

theorem property_of_choose {P : ParserT (Eval ω) α → Prop}
    (horElse : ∀ {p q}, P p → P q → P (.orElse p q)) {ps : List (ParserT (Eval ω) α)}
    (h : ∀ q ∈ ps, P q) (hp : choose ps = .ok p) : P p := by
  cases ps with
  | nil => cases hp
  | cons q ps =>
    cases hp
    exact List.foldlRecOn ps _ (h q List.mem_cons_self) fun _ hr q' hq' =>
      horElse hr (h q' (List.mem_cons_of_mem q hq'))

theorem exists_of_produces_apply {f : ParserT (Eval ω) (α → Eval ω β)} {w : β}
    (h : (ParserT.apply f p).Produces w) :
    ∃ g v, f.Produces g ∧ p.Produces v ∧ (g v).CanAnswer w := by
  obtain ⟨⟨g, v⟩, hgv, hw⟩ := exists_of_produces_mapM h
  exact ⟨g, v, (produces_of_pair hgv).1, (produces_of_pair hgv).2, hw⟩

end ParserT

/-- What a grammar brings along: its leaves, the faults that its leaves, functions and factories may
raise, and whether it reads integers. -/
structure Basis (ω : Type) where
  isLeaf : {α : Type} → ParserT (Eval ω) α → Prop
  mayRaise : Fault → Prop
  readsIntegers : Prop
  leavesSuffix : ∀ {α : Type} {p : ParserT (Eval ω) α}, isLeaf p → p.LeavesSuffix
  raisesOnly : ∀ {α : Type} {p : ParserT (Eval ω) α}, isLeaf p →
    ∀ src, (p src).RaisesOnly mayRaise

inductive Nested (b : Basis ω) : {α : Type} → ParserT (Eval ω) α → Prop
  | leaf {α : Type} {p : ParserT (Eval ω) α} (h : b.isLeaf p) : Nested b p
  | tooDeep {α : Type} : Nested b (.tooDeep : ParserT (Eval ω) α)
  | pure {α : Type} (v : α) : Nested b (.pure v)
  | fail {α : Type} (message : Text) : Nested b (.fail message : ParserT (Eval ω) α)
  | lift {α : Type} {x : Eval ω α} (hx : x.RaisesOnly b.mayRaise) : Nested b (.lift x)
  | satisfy (test : Char → Bool) (mismatch : Char → Text) (atEnd : Text) :
      Nested b (.satisfy test mismatch atEnd)
  | matching (pattern : Pattern) : Nested b (.matching pattern)
  | integer (h : b.readsIntegers) : Nested b .integer
  | bind {α β : Type} {p : ParserT (Eval ω) α} {next : α → ParserT (Eval ω) β} (hp : Nested b p)
      (hnext : ∀ v, p.Produces v → Nested b (next v)) : Nested b (.bind p next)
  | ofExcept {α : Type} {x : Except Fault (ParserT (Eval ω) α)}
      (hok : ∀ p, x = .ok p → Nested b p) (herror : ∀ f, x = .error f → b.mayRaise f) :
      Nested b (.ofExcept x)
  | map {α β : Type} (f : α → β) {p : ParserT (Eval ω) α} (hp : Nested b p) :
      Nested b (.map f p)
  | mapM {α β : Type} {f : α → Eval ω β} {p : ParserT (Eval ω) α} (hp : Nested b p)
      (hf : ∀ v, p.Produces v → (f v).RaisesOnly b.mayRaise) : Nested b (.mapM f p)
  | after {α β : Type} {p : ParserT (Eval ω) α} {q : ParserT (Eval ω) β} (hp : Nested b p)
      (hq : Nested b q) : Nested b (.after p q)
  | before {α β : Type} {p : ParserT (Eval ω) α} {q : ParserT (Eval ω) β} (hp : Nested b p)
      (hq : Nested b q) : Nested b (.before p q)
  | pair {α β : Type} {p : ParserT (Eval ω) α} {q : ParserT (Eval ω) β} (hp : Nested b p)
      (hq : Nested b q) : Nested b (.pair p q)
  | apply {α β : Type} {f : ParserT (Eval ω) (α → Eval ω β)} {p : ParserT (Eval ω) α}
      (hf : Nested b f) (hp : Nested b p)
      (hcall : ∀ g v, f.Produces g → p.Produces v → (g v).RaisesOnly b.mayRaise) :
      Nested b (.apply f p)
  | orElse {α : Type} {p q : ParserT (Eval ω) α} (hp : Nested b p) (hq : Nested b q) :
      Nested b (.orElse p q)
  | guarded {α β : Type} {p : ParserT (Eval ω) α} {q : ParserT (Eval ω) β} (hp : Nested b p)
      (hq : Nested b q) : Nested b (.guarded p q)
  | notAhead {α : Type} (message : α → Text) {p : ParserT (Eval ω) α} (hp : Nested b p) :
      Nested b (.notAhead message p)
  | notAheadM {α : Type} {message : α → Eval ω Text} {p : ParserT (Eval ω) α} (hp : Nested b p)
      (hm : ∀ v, p.Produces v → (message v).RaisesOnly b.mayRaise) :
      Nested b (.notAheadM message p)
  | lookahead {α : Type} {p : ParserT (Eval ω) α} (hp : Nested b p) : Nested b (.lookahead p)
  | optional {α : Type} {p : ParserT (Eval ω) α} (hp : Nested b p) : Nested b (.optional p)
  | withDefault {α : Type} (default : α) {p : ParserT (Eval ω) α} (hp : Nested b p) :
      Nested b (.withDefault default p)
  | many {α : Type} {p : ParserT (Eval ω) α} (hp : Nested b p) : Nested b (.many p)
  | many1 {α : Type} {p : ParserT (Eval ω) α} (hp : Nested b p) : Nested b (.many1 p)
  | sequence {α : Type} {ps : List (ParserT (Eval ω) α)} (h : ∀ p ∈ ps, Nested b p) :
      Nested b (.sequence ps)
  | times {α : Type} (n : Nat) {p : ParserT (Eval ω) α} (hp : Nested b p) :
      Nested b (.times n p)
  | delayed {α : Type} (address : Address) (label : Option Text)
      {factory : Nat → Except Fault (ParserT (Eval ω) α)}
      (hok : ∀ call p, factory call = .ok p → Nested b p)
      (herror : ∀ call f, factory call = .error f → b.mayRaise f) :
      Nested b (.delayed address label factory)
  | probe {α : Type} (name : Text) (view : α → ω) {p : ParserT (Eval ω) α} (hp : Nested b p) :
      Nested b (.probe name view p)

namespace Nested

variable {b : Basis ω} {p : ParserT (Eval ω) α} {q : ParserT (Eval ω) β}

theorem between {r : ParserT (Eval ω) γ} (hp : Nested b p) (hq : Nested b q) (hr : Nested b r) :
    Nested b (.between p r q) := (hp.after hq).before hr

theorem lift₁ {f : α → Eval ω β} (hp : Nested b p)
    (hf : ∀ v, p.Produces v → (f v).RaisesOnly b.mayRaise) : Nested b (.lift₁ f p) := by
  refine .apply (.pure f) hp fun g v hg hv => ?_
  rw [ParserT.eq_of_produces_pure hg]
  exact hf v hv

theorem lift₂ {f : α → β → Eval ω γ} (hp : Nested b p) (hq : Nested b q)
    (hf : ∀ v w, p.Produces v → q.Produces w → (f v w).RaisesOnly b.mayRaise) :
    Nested b (.lift₂ f p q) := by
  refine .apply (.apply (.pure _) hp fun g v hg _ => ?_) hq fun g w hg hw => ?_
  · rw [ParserT.eq_of_produces_pure hg]
    exact Eval.RaisesOnly.pure _
  · obtain ⟨h, v, hh, hv, hcan⟩ := ParserT.exists_of_produces_apply hg
    rw [ParserT.eq_of_produces_pure hh] at hcan
    rw [hcan.eq_of_pure]
    exact hf v w hv hw

theorem sepBy1 (hp : Nested b p) (hq : Nested b q) : Nested b (.sepBy1 p q) :=
  .map _ (hp.pair (hq.after hp).many)

theorem sepBy (hp : Nested b p) (hq : Nested b q) : Nested b (.sepBy p q) :=
  (hp.sepBy1 hq).orElse (.pure [])

theorem sequence_map {β : Type} {f : β → ParserT (Eval ω) α} (hf : ∀ v, Nested b (f v))
    (vs : List β) : Nested b (.sequence (vs.map f)) :=
  .sequence (List.forall_mem_map.2 fun v _ => hf v)

theorem expect (what : Text) (test : Char → Bool) : Nested b (.expect what test) :=
  .satisfy test _ _

theorem text (t : Text) : Nested b (.text t) := sequence_map (fun _ => .expect _ _) t

theorem textIgnoringCase (t : Text) : Nested b (.textIgnoringCase t) :=
  sequence_map (fun _ => .expect _ _) t

theorem upTo (c : Char) : Nested b (.upTo c) :=
  (many (.expect _ _)).before (lookahead (.expect _ _))

theorem endOfInput : Nested b .endOfInput := .map _ (.notAhead _ (.expect _ _))

theorem quotedText (quote escape : Char) (replacement : Char → Option Text) :
    Nested b (.quotedText quote escape replacement) := by
  have hescaped : Nested b (.escapedChar escape replacement) :=
    .after (.expect _ _) (.map _ (.satisfy _ _ _))
  have hplain : Nested b (.plainChar quote escape) := .map _ (.satisfy _ _ _)
  exact .between (.expect _ _) (.map _ (hescaped.orElse hplain).many) (.expect _ _)

end Nested
end Descent
