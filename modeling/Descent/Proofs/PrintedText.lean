import Mathlib.Algebra.GroupWithZero.Nat
import Mathlib.Tactic.SplitIfs
import Descent.Proofs.Runs

/-!
# Printed texts and numbers

A quoted text shows where it ends and which text it is. This holds whatever characters are taken to
be printable: everything that stands for another character begins with a backslash, and a backslash
stands for itself only behind another one. The decimal writing of a number shows the same where no
digit follows it.
-/

namespace Descent.Text

/-! One spelled character read back. -/

def escapedBy : Char → Char
  | 'n' => '\n'
  | 'r' => '\r'
  | 't' => '\t'
  | c => c

def readEscape (c : Char) (rest : Text) : Char × Text :=
  match Pattern.hexWidth? c with
  | some width => (Char.ofNat (Pattern.readHex (rest.take width)), rest.drop width)
  | none => (escapedBy c, rest)

def readSpelled : Text → Option (Char × Text)
  | [] => none
  | '\\' :: c :: rest => some (readEscape c rest)
  | c :: rest => some (c, rest)

theorem hexValue_hexDigit {d : Nat} (h : d < 16) : Pattern.hexValue (hexDigit d) = d := by
  revert d
  decide

theorem readHex_hex {width n : Nat} (h : n < 16 ^ width) : Pattern.readHex (hex width n) = n := by
  induction width generalizing n with
  | zero =>
    obtain rfl : n = 0 := Nat.lt_one_iff.1 h
    rfl
  | succ width ih =>
    have hfront : Pattern.readHex (hex width (n / 16)) = n / 16 := ih (by omega)
    have hlast : Pattern.hexValue (hexDigit (n % 16)) = n % 16 :=
      hexValue_hexDigit (Nat.mod_lt n (by decide))
    rw [Pattern.readHex] at hfront ⊢
    rw [hex, List.foldl_append, hfront, List.foldl_cons, List.foldl_nil, hlast]
    exact Nat.div_add_mod n 16

theorem readSpelled_hex {letter c : Char} {width : Nat}
    (hwidth : Pattern.hexWidth? letter = some width) (h : c.toNat < 16 ^ width) (rest : Text) :
    readSpelled ('\\' :: letter :: (hex width c.toNat ++ rest)) = some (c, rest) := by
  have hlength := length_hex width c.toNat
  rw [readSpelled, readEscape, hwidth]
  simp only [List.take_left' hlength, List.drop_left' hlength, readHex_hex h, Char.ofNat_toNat]

theorem readSpelled_escapeCode (c : Char) (rest : Text) :
    readSpelled (escapeCode c ++ rest) = some (c, rest) := by
  rw [escapeCode]
  split_ifs with hx hu
  · exact readSpelled_hex rfl hx rest
  · exact readSpelled_hex rfl hu rest
  · have hU : c.toNat < 16 ^ 8 := c.val.toNat_lt
    exact readSpelled_hex rfl hU rest

section
variable {printable : Char → Bool} {mark : Char} (hmark : mark = '\'' ∨ mark = '"')
include hmark

theorem readSpelled_mark (rest : Text) : readSpelled (mark :: rest) = some (mark, rest) := by
  rcases hmark with rfl | rfl <;> rfl

theorem readSpelled_spellCharBy (c : Char) (rest : Text) :
    readSpelled (spellCharBy printable mark c ++ rest) = some (c, rest) := by
  rw [spellCharBy]
  split_ifs with hself hn hr ht hc
  · rcases hself with rfl | rfl
    · rcases hmark with rfl | rfl <;> rfl
    · rfl
  · rw [hn]
    rfl
  · rw [hr]
    rfl
  · rw [ht]
    rfl
  · have hplain : c ≠ '\\' := fun h => hself (.inr h)
    simp [readSpelled, hplain]
  · exact readSpelled_escapeCode c rest

theorem mark_cons_ne_spellCharBy (c : Char) (rest last : Text) :
    mark :: last ≠ spellCharBy printable mark c ++ rest := by
  intro h
  have hread := congrArg readSpelled h
  rw [readSpelled_mark hmark, readSpelled_spellCharBy hmark] at hread
  cases hread
  rw [spellCharBy, if_pos (.inl rfl)] at h
  rcases hmark with rfl | rfl <;> cases h

theorem spelled_append_inj {t u rest last : Text}
    (h : t.flatMap (spellCharBy printable mark) ++ mark :: rest =
      u.flatMap (spellCharBy printable mark) ++ mark :: last) : t = u ∧ rest = last := by
  induction t generalizing u with
  | nil =>
    cases u with
    | nil => exact ⟨rfl, (List.cons.inj h).2⟩
    | cons d u =>
      rw [List.flatMap_cons, List.append_assoc] at h
      exact absurd h (mark_cons_ne_spellCharBy hmark d _ rest)
  | cons c t ih =>
    rw [List.flatMap_cons, List.append_assoc] at h
    cases u with
    | nil => exact absurd h.symm (mark_cons_ne_spellCharBy hmark c _ last)
    | cons d u =>
      rw [List.flatMap_cons, List.append_assoc] at h
      have hread := congrArg readSpelled h
      rw [readSpelled_spellCharBy hmark, readSpelled_spellCharBy hmark] at hread
      obtain ⟨rfl, hmore⟩ := Prod.mk.inj (Option.some.inj hread)
      obtain ⟨rfl, hlast⟩ := ih hmore
      exact ⟨rfl, hlast⟩

end

/-- A way to quote texts: each quotation begins with a mark and shows where it ends and which text
is quoted. -/
structure IsQuoting (quote : Text → Text) : Prop where
  opens : ∀ t, ∃ mark rest, quote t = mark :: rest ∧ (mark = '\'' ∨ mark = '"')
  append_inj : ∀ {t u rest last}, quote t ++ rest = quote u ++ last → t = u ∧ rest = last

theorem isQuoting_quoteBy (printable : Char → Bool) : IsQuoting (quoteBy printable) where
  opens t := ⟨markFor t, _, rfl, markFor_eq t⟩
  append_inj {t u rest last} h := by
    rw [quoteBy, quoteBy, List.cons_append, List.cons_append] at h
    obtain ⟨hmark, hbody⟩ := List.cons.inj h
    rw [← hmark, List.append_assoc, List.append_assoc] at hbody
    exact spelled_append_inj (markFor_eq t) hbody

/-! Numbers. -/

theorem decimal_natCast_append_inj {m n : Nat} {rest last : Text} (hrest : EndsNumber rest)
    (hlast : EndsNumber last) (h : decimal m ++ rest = decimal n ++ last) :
    m = n ∧ rest = last := by
  obtain ⟨htake, hdrop⟩ := span_append (fun _ hc => contains_decimal_of_mem_decimal hc) hrest
  obtain ⟨htake', hdrop'⟩ := span_append (fun _ hc => contains_decimal_of_mem_decimal hc) hlast
  rw [h] at htake hdrop
  have hdigits : decimal m = decimal n := htake.symm.trans htake'
  refine ⟨?_, hdrop.symm.trans hdrop'⟩
  rw [← decimalValue_decimal m, hdigits, decimalValue_decimal]

theorem minus_cons_ne_decimal_natCast (n : Nat) (rest last : Text) :
    '-' :: rest ≠ decimal n ++ last := by
  intro h
  obtain ⟨c, tail, hn⟩ := List.exists_cons_of_ne_nil (decimal_ne_nil n)
  have hc : c ∈ decimal n := hn ▸ List.mem_cons_self
  rw [hn] at h
  obtain ⟨rfl, -⟩ := List.cons.inj h
  exact absurd (contains_decimal_of_mem_decimal hc) (by decide)

theorem decimal_append_inj {m n : Int} {rest last : Text} (hrest : EndsNumber rest)
    (hlast : EndsNumber last) (h : decimal m ++ rest = decimal n ++ last) :
    m = n ∧ rest = last := by
  cases m with
  | ofNat m =>
    cases n with
    | ofNat n =>
      obtain ⟨rfl, hmore⟩ := decimal_natCast_append_inj hrest hlast h
      exact ⟨rfl, hmore⟩
    | negSucc n => exact absurd h.symm (minus_cons_ne_decimal_natCast m _ rest)
  | negSucc m =>
    cases n with
    | ofNat n => exact absurd h (minus_cons_ne_decimal_natCast n _ last)
    | negSucc n =>
      obtain ⟨hmn, hmore⟩ := decimal_natCast_append_inj hrest hlast (List.cons.inj h).2
      cases hmn
      exact ⟨rfl, hmore⟩

end Descent.Text
