import Descent.Proofs.Recognition

/-!
# Reading integers

`integer` reads a decimal writing back, whatever follows it, as long as a nonzero number is not
followed by a further digit. Conversely what it reads is a decimal writing or a zero with a minus
sign, and the only fault is a run of digits that is too long.
-/

namespace Descent

def Spells (n : Int) (w : Text) : Prop := w = Text.decimal n ∨ n = 0 ∧ w = ['-', '0']

theorem spells_neg_natCast (n : Nat) : Spells (-(n : Int)) ('-' :: Text.decimal n) := by
  cases n with
  | zero => exact .inr ⟨rfl, rfl⟩
  | succ n => exact .inl rfl

namespace ParserT

section
variable {m : Type → Type} [Monad m] [MonadExceptOf Fault m]

theorem readDigits_of_le {digits : Text} (h : digits.length ≤ maxDigits) :
    readDigits (m := m) digits = pure (Text.decimalValue digits) := if_neg (Nat.not_lt.2 h)

variable [LawfulMonad m]

theorem magnitude_zero (rest : Text) : magnitude (m := m) ('0' :: rest) =
    pure (.success 0 rest) := by
  simp [magnitude, orElse, ParserT.map, char_self]

theorem magnitude_of_digit {c : Char} (h0 : c ≠ '0')
    (hc : Alphabet.decimal.contains c = true) (rest : Text) :
    magnitude (m := m) (c :: rest) =
      readDigits (c :: rest.takeWhile Alphabet.decimal.contains) >>= fun n =>
        pure (.success n (rest.dropWhile Alphabet.decimal.contains)) := by
  have hd : many1 (m := m) digit (c :: rest) = pure (.success
      (c :: rest.takeWhile Alphabet.decimal.contains)
      (rest.dropWhile Alphabet.decimal.contains)) :=
    many1_satisfy_of_test _ _ _ hc rest
  simp [magnitude, orElse, ParserT.map, ParserT.mapM, char_of_ne h0, hd]

theorem magnitude_of_not_digit {src : Text}
    (h : ∀ c ∈ src.head?, Alphabet.decimal.contains c = false) :
    magnitude (m := m) src =
      pure (.failure (wanted (Text.ofString "a digit") src.head?)) := by
  cases src with
  | nil => simp [magnitude, orElse, ParserT.map, ParserT.mapM, many1, digit, char, expect, satisfy]
  | cons c rest =>
    have hc : Alphabet.decimal.contains c = false := h c rfl
    have h0 : c ≠ '0' := by
      rintro rfl
      exact absurd hc (by decide)
    have hd : many1 (m := m) digit (c :: rest) =
        pure (.failure (wanted (Text.ofString "a digit") (some c))) :=
      many1_of_failure (expect_of_not_test _ _ hc rest)
    simp [magnitude, orElse, ParserT.map, ParserT.mapM, char_of_ne h0, hd]

theorem integer_minus (rest : Text) : integer (m := m) ('-' :: rest) =
    Result.map (fun n : Nat => -(n : Int)) <$> magnitude rest := by
  simp only [integer, ParserT.map, pair, ParserT.optional, char_self, pure_bind, bind_assoc,
    map_eq_pure_bind]
  refine bind_congr fun r => ?_
  cases r <;> simp [Result.map, withSign]

theorem integer_of_ne {src : Text} (h : ∀ c ∈ src.head?, c ≠ '-') : integer (m := m) src =
    Result.map (fun n : Nat => (n : Int)) <$> magnitude src := by
  have hm : ∃ e, char (m := m) '-' src = pure (.failure e) := by
    cases src with
    | nil => exact ⟨_, rfl⟩
    | cons c rest => exact ⟨_, char_of_ne (h c rfl) rest⟩
  obtain ⟨e, he⟩ := hm
  simp only [integer, ParserT.map, pair, ParserT.optional, he, pure_bind, bind_assoc,
    map_eq_pure_bind]
  refine bind_congr fun r => ?_
  cases r <;> simp [Result.map, withSign]

theorem magnitude_decimal {n : Nat} (hn : (Text.decimal n).length ≤ maxDigits) {rest : Text}
    (hrest : n = 0 ∨ ∀ c ∈ rest.head?, Alphabet.decimal.contains c = false) :
    magnitude (m := m) (Text.decimal n ++ rest) = pure (.success n rest) := by
  rcases Nat.eq_zero_or_pos n with rfl | hpos
  · exact magnitude_zero rest
  · obtain ⟨c, digits, hc, h0⟩ := Text.exists_decimal_eq_cons hpos
    have hd : ∀ d ∈ c :: digits, Alphabet.decimal.contains d = true := by
      intro d h
      exact Text.contains_decimal_of_mem_decimal (hc ▸ h)
    have hstop : ∀ d ∈ rest.head?, Alphabet.decimal.contains d = false :=
      hrest.resolve_left (by omega)
    obtain ⟨htake, hdrop⟩ := Text.span_append (fun d h => hd d (List.mem_cons_of_mem c h)) hstop
    have hvalue : Text.decimalValue (c :: digits) = n := by
      rw [← hc, Text.decimalValue_decimal]
    rw [hc, List.cons_append, magnitude_of_digit h0 (hd c (by simp)), htake, hdrop,
      readDigits_of_le (hc ▸ hn), pure_bind, hvalue]

theorem integer_natCast {n : Nat} (hn : (Text.decimal n).length ≤ maxDigits) {rest : Text}
    (hrest : n = 0 ∨ ∀ c ∈ rest.head?, Alphabet.decimal.contains c = false) :
    integer (m := m) (Text.decimal n ++ rest) = pure (.success (n : Int) rest) := by
  have hne : ∀ c ∈ (Text.decimal n ++ rest).head?, c ≠ '-' := by
    rintro c hc rfl
    cases hd : Text.decimal n with
    | nil => exact Text.decimal_ne_nil n hd
    | cons d digits =>
      have hm : Alphabet.decimal.contains d = true :=
        Text.contains_decimal_of_mem_decimal (n := n) (by simp [hd])
      rw [hd] at hc
      cases hc
      exact absurd hm (by decide)
  rw [integer_of_ne hne, magnitude_decimal hn hrest, map_pure]
  rfl

theorem integer_neg_natCast {n : Nat} (hn : (Text.decimal n).length ≤ maxDigits) {rest : Text}
    (hrest : n = 0 ∨ ∀ c ∈ rest.head?, Alphabet.decimal.contains c = false) :
    integer (m := m) ('-' :: (Text.decimal n ++ rest)) = pure (.success (-(n : Int)) rest) := by
  rw [integer_minus, magnitude_decimal hn hrest, map_pure]
  rfl

theorem integer_of_spells {n : Int} {w rest : Text} (h : Spells n w)
    (hn : (Text.decimal n.natAbs).length ≤ maxDigits)
    (hrest : n = 0 ∨ ∀ c ∈ rest.head?, Alphabet.decimal.contains c = false) :
    integer (m := m) (w ++ rest) = pure (.success n rest) := by
  rcases h with rfl | ⟨rfl, rfl⟩
  · cases n with
    | ofNat n => exact integer_natCast hn (hrest.imp_left Int.ofNat_eq_zero.1)
    | negSucc n => exact integer_neg_natCast hn (.inr (hrest.resolve_left (Int.negSucc_ne_zero n)))
  · exact integer_neg_natCast (n := 0) (by decide) (.inl rfl)

end
end ParserT

/-- The stop of a parse of `src` that came to a run of digits beyond the limit. -/
def Text.IsDigitLimit (src : Text) (stop : Stop) : Prop :=
  ∃ n, maxDigits < n ∧ src.HasDigitRun n ∧ stop = .fault (.tooManyDigits n)

namespace ParserT

variable {ω : Type}

theorem readDigits_settles (digits : Text) : (readDigits digits : Eval ω Nat).Settles
    (· = Text.decimalValue digits)
    fun stop => maxDigits < digits.length ∧ stop = .fault (.tooManyDigits digits.length) := by
  by_cases h : maxDigits < digits.length
  · rw [readDigits, if_pos h]
    exact .throw ⟨h, rfl⟩
  · rw [readDigits, if_neg h]
    exact .pure rfl

theorem magnitude_settles (src : Text) : (magnitude src : Eval ω (Result Nat)).Settles
    (Result.Reads (fun n w => w = Text.decimal n) src) src.IsDigitLimit := by
  cases src with
  | nil =>
    rw [magnitude_of_not_digit (by simp)]
    exact .pure trivial
  | cons c rest =>
    by_cases h0 : c = '0'
    · subst h0
      rw [magnitude_zero]
      exact .pure ⟨['0'], rfl, rfl⟩
    · cases hc : Alphabet.decimal.contains c with
      | false =>
        rw [magnitude_of_not_digit (by rintro _ ⟨⟩; exact hc)]
        exact .pure trivial
      | true =>
        have hrun : c :: rest.takeWhile Alphabet.decimal.contains =
            (c :: rest).takeWhile Alphabet.decimal.contains :=
          (List.takeWhile_cons_of_pos hc).symm
        rw [magnitude_of_digit h0 hc]
        refine Eval.Settles.bind ((readDigits_settles _).mono ?_) ?_
        · rintro stop ⟨hlen, rfl⟩
          exact ⟨_, hlen, hrun ▸ Text.hasDigitRun_takeWhile _, rfl⟩
        · rintro n rfl
          refine .pure ⟨_, rfl, ?_⟩
          rw [Text.decimal_decimalValue h0 (hrun ▸ List.all_eq_true.1 List.all_takeWhile),
            List.cons_append, List.takeWhile_append_dropWhile]

theorem integer_settles (src : Text) : (integer src : Eval ω (Result Int)).Settles
    (Result.Reads Spells src) src.IsDigitLimit := by
  by_cases hm : ∃ rest, src = '-' :: rest
  · obtain ⟨rest, rfl⟩ := hm
    rw [integer_minus, map_eq_pure_bind]
    refine Eval.Settles.bind ((magnitude_settles rest).mono ?_) ?_
    · rintro stop ⟨n, hn, hrun, rfl⟩
      exact ⟨n, hn, hrun.of_suffix (List.suffix_cons _ _), rfl⟩
    · intro r hr
      refine .pure ?_
      cases r with
      | failure e => trivial
      | success n last =>
        obtain ⟨w, rfl, rfl⟩ := hr
        exact ⟨'-' :: Text.decimal n, spells_neg_natCast n, rfl⟩
  · have hne : ∀ c ∈ src.head?, c ≠ '-' := by
      rintro c hc rfl
      exact hm (List.head?_eq_some_iff.1 hc)
    rw [integer_of_ne hne, map_eq_pure_bind]
    refine Eval.Settles.bind (magnitude_settles src) fun r hr => .pure ?_
    cases r with
    | failure e => trivial
    | success n last =>
      obtain ⟨w, rfl, rfl⟩ := hr
      exact ⟨Text.decimal n, .inl rfl, rfl⟩

theorem integer_of_long_run {c : Char} {digits rest : Text} (h0 : c ≠ '0')
    (hd : ∀ d ∈ c :: digits, Alphabet.decimal.contains d = true)
    (hrest : ∀ d ∈ rest.head?, Alphabet.decimal.contains d = false)
    (hlong : maxDigits < (c :: digits).length) :
    (integer (c :: (digits ++ rest)) : Eval ω (Result Int)) =
      throwThe Stop (.fault (.tooManyDigits (c :: digits).length)) := by
  have hc : Alphabet.decimal.contains c = true := hd c (by simp)
  have hne : ∀ d ∈ (c :: (digits ++ rest)).head?, d ≠ '-' := by
    rintro _ ⟨⟩ rfl
    exact absurd hc (by decide)
  obtain ⟨htake, -⟩ := Text.span_append (fun d h => hd d (List.mem_cons_of_mem c h)) hrest
  rw [integer_of_ne hne, magnitude_of_digit h0 hc, htake, readDigits, if_pos hlong]
  rfl

end ParserT

/-! An integer is read from the text behind the sign, by what this text begins with. -/

def Text.unsigned : Text → Text
  | '-' :: rest => rest
  | t => t

def Text.signed (t : Text) (n : Nat) : Int := if t.head? = some '-' then -n else n

theorem Text.drop_length_takeWhile (test : Char → Bool) (t : Text) :
    t.drop (t.takeWhile test).length = t.dropWhile test :=
  calc t.drop (t.takeWhile test).length
      = (t.takeWhile test ++ t.dropWhile test).drop (t.takeWhile test).length := by
        rw [List.takeWhile_append_dropWhile]
    _ = t.dropWhile test := List.drop_left

namespace ParserT

section
variable {m : Type → Type} [Monad m] [MonadExceptOf Fault m] [LawfulMonad m]

theorem integer_eq_map (src : Text) :
    integer (m := m) src = Result.map src.signed <$> magnitude src.unsigned := by
  by_cases h : src.head? = some '-'
  · obtain ⟨rest, rfl⟩ := List.head?_eq_some_iff.1 h
    exact integer_minus rest
  · have hne : ∀ c ∈ src.head?, c ≠ '-' := by
      intro c hc hminus
      exact h (hminus ▸ hc)
    have hunsigned : src.unsigned = src := by
      cases src with
      | nil => rfl
      | cons c rest =>
        have hc : c ≠ '-' := hne c rfl
        simp [Text.unsigned, hc]
    have hsigned : src.signed = fun n : Nat => (n : Int) := by
      funext n
      exact if_neg h
    rw [integer_of_ne hne, hunsigned, hsigned]

theorem integer_of_zero {src rest : Text} (h : src.unsigned = '0' :: rest) :
    integer (m := m) src = pure (.success 0 rest) := by
  have hzero : src.signed 0 = 0 := by simp [Text.signed]
  rw [integer_eq_map, h, magnitude_zero, map_pure, Result.map, hzero]

theorem integer_of_not_digit {src : Text}
    (h : ∀ c ∈ src.unsigned.head?, Alphabet.decimal.contains c = false) :
    integer (m := m) src =
      pure (.failure (wanted (Text.ofString "a digit") src.unsigned.head?)) := by
  rw [integer_eq_map, magnitude_of_not_digit h, map_pure]
  rfl

theorem integer_of_digit {src rest : Text} {c : Char} (h : src.unsigned = c :: rest)
    (h0 : c ≠ '0') (hc : Alphabet.decimal.contains c = true) :
    integer (m := m) src =
      readDigits (src.unsigned.takeWhile Alphabet.decimal.contains) >>= fun n =>
        pure (.success (src.signed n)
          (src.unsigned.drop (src.unsigned.takeWhile Alphabet.decimal.contains).length)) := by
  have htake : (c :: rest).takeWhile Alphabet.decimal.contains =
      c :: rest.takeWhile Alphabet.decimal.contains := List.takeWhile_cons_of_pos hc
  have hdrop : (c :: rest).dropWhile Alphabet.decimal.contains =
      rest.dropWhile Alphabet.decimal.contains := List.dropWhile_cons_of_pos hc
  rw [Text.drop_length_takeWhile, integer_eq_map, h, magnitude_of_digit h0 hc, htake, hdrop,
    map_bind]
  refine bind_congr fun n => ?_
  rw [map_pure]
  rfl

end

/-- What is read is the longest run of digits behind the sign, or a zero if the run begins with one.
So each writing of an integer is read back, and nothing else is read as an integer. -/
theorem integer_reads_writings {ω : Type} :
    (∀ src rest, src.unsigned = '0' :: rest →
      (integer src : Eval ω (Result Int)) = pure (.success 0 rest)) ∧
    (∀ src c rest, src.unsigned = c :: rest → c ≠ '0' → Alphabet.decimal.contains c = true →
      let digits := src.unsigned.takeWhile Alphabet.decimal.contains
      (integer src : Eval ω (Result Int)) =
        if digits.length ≤ maxDigits then
          pure (.success (src.signed (Text.decimalValue digits))
            (src.unsigned.drop digits.length))
        else throwThe Stop (.fault (.tooManyDigits digits.length))) ∧
    (∀ src, (∀ c ∈ src.unsigned.head?, Alphabet.decimal.contains c = false) →
      (integer src : Eval ω (Result Int)) =
        pure (.failure (Text.ofString "Expected a digit but got " ++ shown src.unsigned.head?))) ∧
    (∀ (n : Int) (rest : Text), (Text.decimal n.natAbs).length ≤ maxDigits →
      (n = 0 ∨ ∀ c ∈ rest.head?, Alphabet.decimal.contains c = false) →
      (integer (Text.decimal n ++ rest) : Eval ω (Result Int)) = pure (.success n rest)) ∧
    ∀ (src : Text) (n : Int) (rest : Text),
      (integer src : Eval ω (Result Int)) = pure (.success n rest) →
      src = Text.decimal n ++ rest ∨ n = 0 ∧ src = '-' :: '0' :: rest := by
  refine ⟨fun src rest h => integer_of_zero h, fun src c rest h h0 hc => ?_,
    fun src h => integer_of_not_digit h, fun n rest hn hrest => ?_, fun src n rest h => ?_⟩
  · intro digits
    by_cases hlen : digits.length ≤ maxDigits
    · rw [if_pos hlen, integer_of_digit h h0 hc, readDigits_of_le hlen, pure_bind]
    · rw [if_neg hlen, integer_of_digit h h0 hc, readDigits, if_pos (Nat.not_le.1 hlen)]
      rfl
  · exact integer_of_spells (.inl rfl) hn hrest
  · obtain ⟨r, hr, hreads⟩ | ⟨stop, hstop, -⟩ := integer_settles (ω := ω) src
    · rw [h, Eval.pure_inj] at hr
      subst hr
      obtain ⟨w, rfl | ⟨rfl, rfl⟩, hsrc⟩ := hreads
      · exact .inl hsrc
      · exact .inr ⟨rfl, hsrc⟩
    · have hrun := congrArg (Eval.run · {}) (h.symm.trans hstop)
      cases hrun

theorem integer_reads_writings_signed :
    (integer ['-', '0', '7'] : Eval Unit (Result Int)) = pure (.success 0 ['7']) ∧
    (integer ['-', '4', '2', 'x'] : Eval Unit (Result Int)) = pure (.success (-42) ['x']) ∧
    (integer (List.replicate 4301 '7') : Eval Unit (Result Int)) =
      throwThe Stop (.fault (.tooManyDigits 4301)) ∧
    (integer ['-'] : Eval Unit (Result Int)) =
      pure (.failure (Text.ofString "Expected a digit but got end of input")) ∧
    (integer (Text.decimal (-10) ++ ['-']) : Eval Unit (Result Int)) =
      pure (.success (-10) ['-']) ∧
    (['-', '0'] = Text.decimal 0 ++ [] ∨ (0 : Int) = 0 ∧ ['-', '0'] = '-' :: '0' :: []) := by
  obtain ⟨hzero, hdigit, hnone, hread, hconverse⟩ := integer_reads_writings (ω := Unit)
  have hlong : (integer (List.replicate 4301 '7') : Eval Unit (Result Int)) =
      throwThe Stop (.fault (.tooManyDigits 4301)) := by
    have hseven : ∀ c ∈ List.replicate 4301 '7', Alphabet.decimal.contains c = true := by
      intro c hc
      rw [List.eq_of_mem_replicate hc]
      decide
    have htake : (List.replicate 4301 '7').takeWhile Alphabet.decimal.contains =
        List.replicate 4301 '7' := by
      have hstop : ∀ c ∈ ([] : Text).head?, Alphabet.decimal.contains c = false := by simp
      have hspan := (Text.span_append hseven hstop).1
      rwa [List.append_nil] at hspan
    have hlen : ¬ (List.replicate 4301 '7').length ≤ maxDigits := by
      rw [List.length_replicate]
      decide
    have hunsigned : Text.unsigned (List.replicate 4301 '7') = List.replicate 4301 '7' := rfl
    have h := hdigit (List.replicate 4301 '7') '7' (List.replicate 4300 '7') rfl (by decide)
      (by decide)
    rw [hunsigned, htake] at h
    dsimp only at h
    rwa [if_neg hlen, List.length_replicate] at h
  refine ⟨hzero _ _ rfl, hdigit ['-', '4', '2', 'x'] '4' ['2', 'x'] rfl (by decide) (by decide),
    hlong, hnone ['-'] (by simp [Text.unsigned]), hread (-10) ['-'] (by decide) (.inr ?_),
    hconverse ['-', '0'] 0 [] (hzero _ _ rfl)⟩
  intro c hc
  cases hc
  decide

end ParserT
end Descent
