import Descent.Proofs.Endings
import Descent.Proofs.WholeInput

/-!
# Separated lists

A separated list is an item and a repetition of rounds, each a separator and an item behind it. So
it ends behind an item: a separator that no item follows is left, and so is everything behind it.
The rounds go on as long as they shorten the text; one that does not is kept and is the last.
-/

namespace Descent.ParserT

variable {ω α β : Type}

section
variable (item : ParserT (Eval ω) α) (separator : ParserT (Eval ω) β)

def Round (src : Text) (s : Session ω) (v : α) (rest : Text) (t : Session ω) : Prop :=
  ∃ w mid u, separator.Matches src s w mid u ∧ item.Matches mid u v rest t

def NoRound (src : Text) (s t : Session ω) : Prop :=
  (∃ e, separator.Fails src s e t) ∨
    ∃ w mid u e, separator.Matches src s w mid u ∧ item.Fails mid u e t

def RoundHalts (src : Text) (s : Session ω) (stop : Stop) (t : Session ω) : Prop :=
  separator.Halts src s stop t ∨
    ∃ w mid u, separator.Matches src s w mid u ∧ item.Halts mid u stop t

theorem matches_after : (after separator item).Matches = Round item separator := by
  funext src s v rest t
  exact propext matches_bind_iff

theorem exists_fails_after_iff {src : Text} {s t : Session ω} :
    (∃ e, (after separator item).Fails src s e t) ↔ NoRound item separator src s t := by
  constructor
  · intro ⟨e, h⟩
    rcases fails_bind_iff.1 h with h | ⟨w, mid, u, hw, h⟩
    · exact .inl ⟨e, h⟩
    · exact .inr ⟨w, mid, u, e, hw, h⟩
  · intro h
    rcases h with ⟨e, h⟩ | ⟨w, mid, u, e, hw, h⟩
    · exact ⟨e, fails_bind_iff.2 (.inl h)⟩
    · exact ⟨e, fails_bind_iff.2 (.inr ⟨w, mid, u, hw, h⟩)⟩

theorem halts_after_iff {src : Text} {s t : Session ω} {stop : Stop} :
    (after separator item).Halts src s stop t ↔ RoundHalts item separator src s stop t :=
  halts_bind_iff

end

section
variable {item : ParserT (Eval ω) α} {separator : ParserT (Eval ω) β} {src last e : Text}
  {vs : List α} {s t : Session ω} {stop : Stop}

theorem sepBy1_fails_iff : (sepBy1 item separator).Fails src s e t ↔ item.Fails src s e t := by
  rw [sepBy1_eq_bind]
  constructor
  · intro h
    rcases fails_bind_iff.1 h with hitem | ⟨v, rest, u, -, hmany⟩
    · exact hitem
    · exact absurd (fails_map_iff.1 hmany) not_fails_many
  · exact Fails.bind

theorem sepBy1_matches_iff : (sepBy1 item separator).Matches src s vs last t ↔
    ∃ v rest u ws mid u', item.Matches src s v rest u ∧
      Progress (Round item separator) rest u ws mid u' ∧
      (vs = v :: ws ∧ last = mid ∧ NoRound item separator mid u' t ∨
        ∃ w, vs = v :: (ws ++ [w]) ∧ Round item separator mid u' w last t ∧
          mid.length ≤ last.length) := by
  rw [sepBy1_eq_bind, matches_bind_iff, ← matches_after]
  constructor
  · intro ⟨v, rest, u, hitem, hmany⟩
    obtain ⟨found, rfl, hfound⟩ := hmany.exists_of_map
    obtain ⟨ws, mid, u', hprogress, hend⟩ := many_matches_iff.1 hfound
    refine ⟨v, rest, u, ws, mid, u', hitem, hprogress, ?_⟩
    rcases hend with ⟨rfl, rfl, hfail⟩ | ⟨w, rfl, hw, hle⟩
    · exact .inl ⟨rfl, rfl, (exists_fails_after_iff item separator).1 hfail⟩
    · exact .inr ⟨w, rfl, hw, hle⟩
  · intro ⟨v, rest, u, ws, mid, u', hitem, hprogress, hend⟩
    refine ⟨v, rest, u, hitem, ?_⟩
    rcases hend with ⟨rfl, rfl, hfail⟩ | ⟨w, rfl, hw, hle⟩
    · obtain ⟨e, hfail⟩ := (exists_fails_after_iff item separator).2 hfail
      exact (hprogress.many_of_fails hfail).map
    · exact (hprogress.many_of_matches hw hle).map

theorem sepBy1_halts_iff : (sepBy1 item separator).Halts src s stop t ↔
    item.Halts src s stop t ∨
      ∃ v rest u ws mid u', item.Matches src s v rest u ∧
        Progress (Round item separator) rest u ws mid u' ∧
        RoundHalts item separator mid u' stop t := by
  rw [sepBy1_eq_bind, halts_bind_iff, ← matches_after]
  simp only [halts_map_iff, many_halts_iff, halts_after_iff]
  constructor
  · intro h
    rcases h with hitem | ⟨v, rest, u, hitem, ws, mid, u', hprogress, hstop⟩
    · exact .inl hitem
    · exact .inr ⟨v, rest, u, ws, mid, u', hitem, hprogress, hstop⟩
  · intro h
    rcases h with hitem | ⟨v, rest, u, ws, mid, u', hitem, hprogress, hstop⟩
    · exact .inl hitem
    · exact .inr ⟨v, rest, u, hitem, ws, mid, u', hprogress, hstop⟩

theorem sepBy_matches_iff : (sepBy item separator).Matches src s vs last t ↔
    (sepBy1 item separator).Matches src s vs last t ∨
      vs = [] ∧ last = src ∧ ∃ e, (sepBy1 item separator).Fails src s e t := by
  rw [sepBy, matches_orElse_iff]
  refine or_congr_right ⟨fun h => ?_, fun h => ?_⟩
  · obtain ⟨e, u, hlist, hpure⟩ := h
    cases hpure
    exact ⟨rfl, rfl, e, hlist⟩
  · obtain ⟨rfl, rfl, e, hlist⟩ := h
    exact ⟨e, t, hlist, rfl⟩

theorem not_fails_sepBy : ¬ (sepBy item separator).Fails src s e t := by
  intro h
  obtain ⟨e', u, -, hpure⟩ := fails_orElse_iff.1 h
  cases hpure

theorem sepBy_halts_iff : (sepBy item separator).Halts src s stop t ↔
    (sepBy1 item separator).Halts src s stop t := by
  rw [sepBy, halts_orElse_iff]
  refine or_iff_left fun h => ?_
  obtain ⟨e, u, -, hpure⟩ := h
  cases hpure

theorem alwaysAnswers_iff (p : ParserT (Eval ω) α) :
    p.AlwaysAnswers ↔ ∀ src s stop t, ¬ p.Halts src s stop t := by
  constructor
  · intro h src s stop t hstop
    exact (h src).of_error hstop
  · intro h src s
    rcases hrun : (p src).run s with ⟨outcome, t⟩
    cases outcome with
    | ok r => trivial
    | error stop => exact (h src s stop t hrun).elim

theorem AlwaysAnswers.sepBy1 (hitem : item.AlwaysAnswers) (hseparator : separator.AlwaysAnswers) :
    (sepBy1 item separator).AlwaysAnswers := by
  rw [alwaysAnswers_iff] at hitem hseparator ⊢
  intro src s stop t h
  rcases sepBy1_halts_iff.1 h with h | ⟨_, _, _, _, mid, u', -, -, h | ⟨_, next, u, -, h⟩⟩
  · exact hitem src s stop t h
  · exact hseparator mid u' stop t h
  · exact hitem next u stop t h

theorem AlwaysAnswers.sepBy (hitem : item.AlwaysAnswers) (hseparator : separator.AlwaysAnswers) :
    (sepBy item separator).AlwaysAnswers := by
  have hlist := hitem.sepBy1 hseparator
  rw [alwaysAnswers_iff] at hlist ⊢
  intro src s stop t h
  exact hlist src s stop t (sepBy_halts_iff.1 h)

end

/-- A list with at least one item fails as its first item fails. Otherwise it reads an item and then
round after round, as long as they shorten the text, up to a text on which there is no further round
or with one more round that does not shorten the text; it leaves what its last item has left. A list
that may be empty is the same with an empty list in place of the failure. -/
theorem separated_list_ends_behind_item (item : ParserT (Eval ω) α)
    (separator : ParserT (Eval ω) β) (src : Text) (s : Session ω) :
    (∀ e t, (sepBy1 item separator).Fails src s e t ↔ item.Fails src s e t) ∧
    (∀ vs last t, (sepBy1 item separator).Matches src s vs last t ↔
      ∃ v rest u ws mid u', item.Matches src s v rest u ∧
        Progress (Round item separator) rest u ws mid u' ∧
        (vs = v :: ws ∧ last = mid ∧ NoRound item separator mid u' t ∨
          ∃ w, vs = v :: (ws ++ [w]) ∧ Round item separator mid u' w last t ∧
            mid.length ≤ last.length)) ∧
    (∀ stop t, (sepBy1 item separator).Halts src s stop t ↔
      item.Halts src s stop t ∨
        ∃ v rest u ws mid u', item.Matches src s v rest u ∧
          Progress (Round item separator) rest u ws mid u' ∧
          RoundHalts item separator mid u' stop t) ∧
    (∀ vs last t, (sepBy item separator).Matches src s vs last t ↔
      (sepBy1 item separator).Matches src s vs last t ∨
        vs = [] ∧ last = src ∧ ∃ e, (sepBy1 item separator).Fails src s e t) ∧
    (∀ e t, ¬ (sepBy item separator).Fails src s e t) ∧
    (∀ stop t, (sepBy item separator).Halts src s stop t ↔
      (sepBy1 item separator).Halts src s stop t) ∧
    (item.AlwaysAnswers → separator.AlwaysAnswers →
      (sepBy1 item separator).AlwaysAnswers ∧ (sepBy item separator).AlwaysAnswers) :=
  ⟨fun _ _ => sepBy1_fails_iff, fun _ _ _ => sepBy1_matches_iff, fun _ _ => sepBy1_halts_iff,
    fun _ _ _ => sepBy_matches_iff, fun _ _ => not_fails_sepBy, fun _ _ => sepBy_halts_iff,
    fun hitem hseparator => ⟨hitem.sepBy1 hseparator, hitem.sepBy hseparator⟩⟩

theorem separated_list_ends_behind_item_cases :
    (sepBy1 (char 'a') (char ',')).Matches ['a', ',', 'a', ',', 'b'] {} ['a', 'a'] [',', 'b']
      ({} : Session Unit) ∧
    (sepBy1 (.pure 'a') (.pure ())).Matches ['b'] {} ['a', 'a'] ['b'] ({} : Session Unit) ∧
    (sepBy (char 'a') (char ',')).Matches [',', 'a'] {} [] [',', 'a'] ({} : Session Unit) ∧
    (char 'a' : ParserT (Eval Unit) Char).AlwaysAnswers ∧
    (char ',' : ParserT (Eval Unit) Char).AlwaysAnswers ∧
    (sepBy1 (char 'a') (char ',') : ParserT (Eval Unit) (List Char)).AlwaysAnswers ∧
    (sepBy (char 'a') (char ',') : ParserT (Eval Unit) (List Char)).AlwaysAnswers := by
  have hcharacter (c : Char) : (char c : ParserT (Eval Unit) Char).AlwaysAnswers :=
    (meets_satisfy _ _ _).alwaysAnswers
  obtain ⟨-, hcommas, -, -, -, -, hanswers⟩ := separated_list_ends_behind_item (ω := Unit)
    (char 'a') (char ',') ['a', ',', 'a', ',', 'b'] {}
  obtain ⟨-, hnothing, -⟩ := separated_list_ends_behind_item (ω := Unit) (.pure 'a') (.pure ())
    ['b'] {}
  obtain ⟨hfails, -, -, hempty, -⟩ := separated_list_ends_behind_item (ω := Unit) (char 'a')
    (char ',') [',', 'a'] {}
  have hround : Round (char 'a') (char ',') [',', 'a', ',', 'b'] {} 'a' [',', 'b']
      ({} : Session Unit) := ⟨',', ['a', ',', 'b'], {}, rfl, rfl⟩
  refine ⟨(hcommas _ _ _).2 ?_, (hnothing _ _ _).2 ?_, (hempty _ _ _).2 (.inr ?_), hcharacter _,
    hcharacter _, hanswers (hcharacter _) (hcharacter _)⟩
  · exact ⟨'a', _, {}, ['a'], _, {}, rfl, .step hround (by decide) (.done _ _),
      .inl ⟨rfl, rfl, .inr ⟨',', ['b'], {}, _, rfl, rfl⟩⟩⟩
  · exact ⟨'a', _, {}, [], _, {}, rfl, .done _ _,
      .inr ⟨'a', rfl, ⟨(), _, {}, rfl, rfl⟩, Nat.le_refl _⟩⟩
  · exact ⟨rfl, rfl, _, (hfails _ _).2 rfl⟩

end Descent.ParserT
