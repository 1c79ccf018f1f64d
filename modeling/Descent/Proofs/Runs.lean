import Descent.Proofs.Repetition

/-!
# Runs of characters

A repeated one-character test reads the longest run of characters that pass it. A run of decimal
digits without a leading zero is the decimal writing of its value.
-/

namespace Descent

namespace ParserT

variable {m : Type → Type} [Monad m] (test : Char → Bool) (mismatch : Char → Text) (atEnd : Text)

theorem satisfy_of_test {c : Char} (hc : test c = true) (rest : Text) :
    satisfy (m := m) test mismatch atEnd (c :: rest) = pure (.success c rest) := by
  rw [satisfy_cons, if_pos hc]

theorem satisfy_of_not_test {c : Char} (hc : test c = false) (rest : Text) :
    satisfy (m := m) test mismatch atEnd (c :: rest) = pure (.failure (mismatch c)) := by
  simp [satisfy_cons, hc]

theorem expect_of_test (what : Text) {c : Char} (hc : test c = true) (rest : Text) :
    expect (m := m) what test (c :: rest) = pure (.success c rest) :=
  satisfy_of_test test _ _ hc rest

theorem expect_of_not_test (what : Text) {c : Char} (hc : test c = false) (rest : Text) :
    expect (m := m) what test (c :: rest) = pure (.failure (wanted what (some c))) :=
  satisfy_of_not_test test _ _ hc rest

theorem expect_of_head (what : Text) {src : Text} (h : ∀ c ∈ src.head?, test c = false) :
    expect (m := m) what test src = pure (.failure (wanted what src.head?)) := by
  cases src with
  | nil => rfl
  | cons c rest => exact expect_of_not_test test what (h c rfl) rest

theorem char_self (c : Char) (rest : Text) :
    char (m := m) c (c :: rest) = pure (.success c rest) :=
  expect_of_test (· == c) _ (beq_self_eq_true c) rest

theorem char_of_ne {c d : Char} (h : d ≠ c) (rest : Text) : char (m := m) c (d :: rest) =
    pure (.failure (wanted (Text.quote [c]) (some d))) :=
  expect_of_not_test (· == c) _ (beq_false_of_ne h) rest

theorem char_of_head {c : Char} {src : Text} (h : src.head? ≠ some c) :
    char (m := m) c src = pure (.failure (wanted (Text.quote [c]) src.head?)) :=
  expect_of_head (· == c) _ fun _ hd => beq_false_of_ne fun hdc => h (hdc ▸ hd)

variable [LawfulMonad m]

theorem many_satisfy (src : Text) : many (satisfy (m := m) test mismatch atEnd) src =
    pure (.success (src.takeWhile test) (src.dropWhile test)) := by
  induction src with
  | nil => rw [many_eq, satisfy_nil, pure_bind]; rfl
  | cons c rest ih =>
    rw [many_eq]
    cases hc : test c with
    | false => simp [satisfy_of_not_test, hc]
    | true =>
      rw [satisfy_of_test test mismatch atEnd hc, pure_bind]
      simp [continueMany, ih, hc, Result.map]

theorem many1_satisfy_of_test {c : Char} (hc : test c = true) (rest : Text) :
    many1 (satisfy (m := m) test mismatch atEnd) (c :: rest) =
      pure (.success (c :: rest.takeWhile test) (rest.dropWhile test)) := by
  rw [many1_eq, satisfy_of_test test mismatch atEnd hc, pure_bind]
  simp [continueMany, many_satisfy, Result.map]

theorem many1_of_failure {α : Type} {p : ParserT m α} {src e : Text}
    (h : p src = pure (.failure e)) : many1 p src = pure (.failure e) := by
  rw [many1_eq, h, pure_bind]

end ParserT

namespace Text

theorem span_append {test : Char → Bool} {run rest : Text} (hrun : ∀ c ∈ run, test c = true)
    (hstop : ∀ c ∈ rest.head?, test c = false) :
    (run ++ rest).takeWhile test = run ∧ (run ++ rest).dropWhile test = rest := by
  rw [List.takeWhile_append_of_pos hrun, List.dropWhile_append_of_pos hrun]
  cases rest with
  | nil => simp
  | cons c rest =>
    have hc : test c = false := hstop c rfl
    simp [hc]

theorem contains_decimal_digitChar {n : Nat} (hn : n < 10) :
    Alphabet.decimal.contains n.digitChar = true := by
  revert n
  decide

theorem contains_decimal_of_isDigit {c : Char} (h : c.isDigit = true) :
    Alphabet.decimal.contains c = true := by
  obtain ⟨hlow, hhigh⟩ := Char.isDigit_iff_toNat.1 h
  change 48 ≤ c.toNat at hlow
  change c.toNat ≤ 57 at hhigh
  have hc : c = (c.toNat - 48).digitChar := by
    apply Char.toNat_inj.1
    rw [Nat.toNat_digitChar_of_lt_ten (by omega)]
    omega
  rw [hc]
  exact contains_decimal_digitChar (by omega)

theorem exists_digitChar_of_contains_decimal {c : Char}
    (h : Alphabet.decimal.contains c = true) : ∃ n < 10, c = n.digitChar := by
  have hm : c ∈ (List.range 10).map Nat.digitChar := List.contains_iff_mem.1 h
  obtain ⟨n, hn, rfl⟩ := List.mem_map.1 hm
  exact ⟨n, List.mem_range.1 hn, rfl⟩

theorem contains_decimal_of_mem_decimal {n : Nat} {c : Char} (h : c ∈ decimal n) :
    Alphabet.decimal.contains c = true :=
  contains_decimal_of_isDigit (isDigit_of_mem_decimal h)

theorem toDigits_ofDigitChars {digits : Text} {n : Nat} (hn : 0 < n)
    (hd : ∀ c ∈ digits, Alphabet.decimal.contains c = true) :
    Nat.toDigits 10 (Nat.ofDigitChars 10 digits n) = Nat.toDigits 10 n ++ digits := by
  induction digits generalizing n with
  | nil => simp
  | cons c digits ih =>
    obtain ⟨k, hk, rfl⟩ := exists_digitChar_of_contains_decimal (hd c (by simp))
    rw [Nat.ofDigitChars_cons_digitChar_of_lt_ten hk, ih (by omega) fun c hc => hd c (by simp [hc]),
      ← Nat.toDigits_append_toDigits (by decide) hn hk, Nat.toDigits_of_lt_base hk]
    simp

theorem decimal_decimalValue {c : Char} {digits : Text} (h0 : c ≠ '0')
    (hd : ∀ d ∈ c :: digits, Alphabet.decimal.contains d = true) :
    decimal (decimalValue (c :: digits)) = c :: digits := by
  obtain ⟨k, hk, rfl⟩ := exists_digitChar_of_contains_decimal (hd c (by simp))
  have hpos : 0 < k := by
    rcases Nat.eq_zero_or_pos k with rfl | hpos
    · exact absurd rfl h0
    · exact hpos
  rw [decimal_natCast, decimalValue, Nat.ofDigitChars_cons_digitChar_of_lt_ten hk, Nat.mul_zero,
    Nat.zero_add, toDigits_ofDigitChars hpos fun d h => hd d (by simp [h]),
    Nat.toDigits_of_lt_base hk]
  rfl

theorem exists_decimal_eq_cons {n : Nat} (hn : 0 < n) :
    ∃ c digits, decimal n = c :: digits ∧ c ≠ '0' := by
  induction n using Nat.strongRecOn with
  | ind n ih =>
    rw [decimal_natCast, Nat.toDigits_eq_if (by decide)]
    by_cases h : n < 10
    · refine ⟨n.digitChar, [], if_pos h, ?_⟩
      rw [Ne, Nat.digitChar_eq_zero]
      omega
    · obtain ⟨c, digits, hc, h0⟩ := ih (n / 10) (by omega) (by omega)
      rw [decimal_natCast] at hc
      exact ⟨c, digits ++ [(n % 10).digitChar], by rw [if_neg h, hc, List.cons_append], h0⟩

theorem exists_decimal_head (n : Int) :
    ∃ c tail, decimal n = c :: tail ∧ (c = '-' ∨ Alphabet.decimal.contains c = true) := by
  cases n with
  | negSucc n => exact ⟨'-', _, rfl, .inl rfl⟩
  | ofNat n =>
    obtain ⟨c, tail, hw⟩ := List.exists_cons_of_ne_nil (decimal_ne_nil n)
    have hc : c ∈ decimal n := by simp [hw]
    exact ⟨c, tail, hw, .inr (contains_decimal_of_mem_decimal hc)⟩

def EndsNumber (rest : Text) : Prop := ∀ c ∈ rest.head?, Alphabet.decimal.contains c = false

theorem endsNumber_cons {c : Char} (hc : Alphabet.decimal.contains c = false) (rest : Text) :
    EndsNumber (c :: rest) := by
  rintro _ ⟨⟩
  exact hc

def HasDigitRun (src : Text) (n : Nat) : Prop :=
  ∃ run : Text, run <:+: src ∧ run.length = n ∧ ∀ c ∈ run, Alphabet.decimal.contains c = true

theorem HasDigitRun.of_suffix {rest src : Text} {n : Nat} (hs : rest <:+ src)
    (h : HasDigitRun rest n) : HasDigitRun src n := by
  obtain ⟨run, hr, hn, hd⟩ := h
  exact ⟨run, hr.trans hs.isInfix, hn, hd⟩

theorem HasDigitRun.le_length {src : Text} {n : Nat} (h : HasDigitRun src n) :
    n ≤ src.length := by
  obtain ⟨run, hr, rfl, -⟩ := h
  exact hr.length_le

theorem hasDigitRun_takeWhile (src : Text) :
    HasDigitRun src (src.takeWhile Alphabet.decimal.contains).length :=
  ⟨_, (List.takeWhile_prefix _).isInfix, rfl, List.all_eq_true.1 List.all_takeWhile⟩

end Text
end Descent
