import Descent.Proofs.Outcome
import Descent.Proofs.Runs

/-!
# Sets of characters

A character of a set is read by the members of the set alone: their order and how often each is
given leave no trace. In the messages the set is named by its distinct members in lexicographic
order, which is the only way to list them in this order without repetition. Members that are not
single characters are named with the others and match nothing.
-/

namespace Descent

namespace Text

def IsBelow : Text → Text → Prop := List.Lex fun c d => c.toNat < d.toNat

theorem IsBelow.trans {r s t : Text} (hrs : IsBelow r s) (hst : IsBelow s t) : IsBelow r t :=
  List.lex_trans Nat.lt_trans hrs hst

theorem IsBelow.asymm {s t : Text} (h : IsBelow s t) : ¬ IsBelow t s :=
  List.lex_asymm Nat.lt_asymm h

theorem IsBelow.ne {s t : Text} (h : IsBelow s t) : s ≠ t := by
  rintro rfl
  exact h.asymm h

theorem precedes_iff {s t : Text} : precedes s t = true ↔ s = t ∨ IsBelow s t := by
  induction s generalizing t with
  | nil =>
    cases t with
    | nil => exact ⟨fun _ => .inl rfl, fun _ => rfl⟩
    | cons d t => exact ⟨fun _ => .inr .nil, fun _ => rfl⟩
  | cons c s ih =>
    cases t with
    | nil => exact ⟨nofun, nofun⟩
    | cons d t =>
      rw [precedes, IsBelow, List.cons_lex_cons_iff, Bool.or_eq_true, Bool.and_eq_true,
        decide_eq_true_eq, beq_iff_eq, ih, List.cons_eq_cons, and_or_left, or_left_comm]
      exact Iff.rfl

theorem precedes_trans (r s t : Text) (hrs : precedes r s = true) (hst : precedes s t = true) :
    precedes r t = true := by
  rcases precedes_iff.1 hrs with rfl | hrs
  · exact hst
  · rcases precedes_iff.1 hst with rfl | hst
    · exact precedes_iff.2 (.inr hrs)
    · exact precedes_iff.2 (.inr (hrs.trans hst))

theorem nodup_eraseDups (members : List Text) : members.eraseDups.Nodup := by
  induction members using shorter_induction with
  | shorter members ih =>
    cases members with
    | nil => exact .nil
    | cons t members =>
      have hlength := List.length_filter_le (fun s => !s == t) members
      rw [List.eraseDups_cons, List.nodup_cons, List.mem_eraseDups]
      exact ⟨by simp, ih _ (Nat.lt_succ_of_le hlength)⟩

/-- The list `names` holds the same texts as `members`, in order and without repetition. -/
structure ListsInOrder (names members : List Text) : Prop where
  mem_iff : ∀ t, t ∈ names ↔ t ∈ members
  ascending : names.Pairwise IsBelow

theorem ListsInOrder.unique {names others members : List Text} (h : ListsInOrder names members)
    (h' : ListsInOrder others members) : names = others := by
  have hperm : names.Perm others := by
    refine (List.perm_ext_iff_of_nodup ?_ ?_).2 fun t => (h.mem_iff t).trans (h'.mem_iff t).symm
    · exact h.ascending.imp IsBelow.ne
    · exact h'.ascending.imp IsBelow.ne
  refine hperm.eq_of_pairwise (fun s t _ _ hst hts => ?_) h.ascending h'.ascending
  exact absurd hts hst.asymm

theorem sortedDistinct_listsInOrder (members : List Text) :
    ListsInOrder (sortedDistinct members) members := by
  have hperm := List.mergeSort_perm members.eraseDups precedes
  constructor
  · intro t
    rw [sortedDistinct, hperm.mem_iff, List.mem_eraseDups]
  · have hsorted := List.pairwise_mergeSort precedes_trans precedes_total members.eraseDups
    have hdistinct := hperm.nodup_iff.2 (nodup_eraseDups members)
    refine (hsorted.and hdistinct).imp fun h => ?_
    exact (precedes_iff.1 h.1).resolve_left h.2

theorem sortedDistinct_congr {xs ys : List Text} (h : ∀ t, t ∈ xs ↔ t ∈ ys) :
    sortedDistinct xs = sortedDistinct ys := by
  have hxs := sortedDistinct_listsInOrder xs
  exact ListsInOrder.unique ⟨fun t => (hxs.mem_iff t).trans (h t), hxs.ascending⟩
    (sortedDistinct_listsInOrder ys)

end Text

namespace ParserT

section
variable {m : Type → Type} [Monad m]

theorem oneOf_congr {xs ys : List Text} (h : ∀ t, t ∈ xs ↔ t ∈ ys) :
    oneOf (m := m) xs = oneOf ys := by
  have htest : (fun c => xs.contains [c]) = fun c => ys.contains [c] := by
    funext c
    rw [Bool.eq_iff_iff, List.contains_iff_mem, List.contains_iff_mem, h]
  rw [oneOf, oneOf, Text.sortedDistinct_congr h, htest]

theorem oneOf_of_mem {members : List Text} {c : Char} (h : [c] ∈ members) (rest : Text) :
    oneOf (m := m) members (c :: rest) = pure (.success c rest) :=
  expect_of_test (fun c => members.contains [c]) _ (List.contains_iff_mem.2 h) rest

theorem oneOf_of_not_mem {members : List Text} {src : Text} (h : ∀ c ∈ src.head?, [c] ∉ members) :
    oneOf (m := m) members src = pure (.failure
      (wanted (Text.ofString "one of " ++ Text.quote (Text.sortedDistinct members).flatten)
        src.head?)) := by
  refine expect_of_head (fun c => members.contains [c]) _ fun c hc => ?_
  rw [Bool.eq_false_iff, ne_eq, List.contains_iff_mem]
  exact h c hc

end

variable {ω : Type}

theorem oneOf_eq_success_iff {members : List Text} {src rest : Text} {c : Char} :
    (oneOf members src : Eval ω (Result Char)) = pure (.success c rest) ↔
      src = c :: rest ∧ [c] ∈ members := by
  constructor
  · intro h
    by_cases hhead : ∀ d ∈ src.head?, [d] ∉ members
    · rw [oneOf_of_not_mem hhead, Eval.pure_inj] at h
      cases h
    · cases src with
      | nil => exact absurd nofun hhead
      | cons d tail =>
        have hd : [d] ∈ members := by simpa using hhead
        rw [oneOf_of_mem hd, Eval.pure_inj] at h
        cases h
        exact ⟨rfl, hd⟩
  · rintro ⟨rfl, h⟩
    exact oneOf_of_mem h rest

/-- Sets with the same members are the same parser, messages included. What matches is one character
that is a member on its own, so that members of another length add nothing to what is read; but they
are named. There is one list of the members in lexicographic order without repetition, and a message
names the texts of this list, one behind the other. -/
theorem oneOf_depends_on_members :
    (∀ xs ys : List Text, (∀ t, t ∈ xs ↔ t ∈ ys) →
      (oneOf xs : ParserT (Eval ω) Char) = oneOf ys) ∧
    ∀ members : List Text,
      (∀ src c rest, (oneOf members src : Eval ω (Result Char)) = pure (.success c rest) ↔
        src = c :: rest ∧ [c] ∈ members) ∧
      (∀ others : List Text, (∀ t ∈ others, t.length ≠ 1) → ∀ src c rest,
        (oneOf (members ++ others) src : Eval ω (Result Char)) = pure (.success c rest) ↔
          (oneOf members src : Eval ω (Result Char)) = pure (.success c rest)) ∧
      ∃ names : List Text, Text.ListsInOrder names members ∧
        (∀ names', Text.ListsInOrder names' members → names' = names) ∧
        (∀ t ∈ members, t <:+: names.flatten) ∧
        ∀ src : Text, (∀ c ∈ src.head?, [c] ∉ members) →
          (oneOf members src : Eval ω (Result Char)) = pure (.failure
            (wanted (Text.ofString "one of " ++ Text.quote names.flatten) src.head?)) := by
  refine ⟨fun xs ys => oneOf_congr, fun members => ⟨fun src c rest => oneOf_eq_success_iff,
    fun others hothers src c rest => ?_, Text.sortedDistinct members, ?_⟩⟩
  · rw [oneOf_eq_success_iff, oneOf_eq_success_iff, List.mem_append]
    have hc : [c] ∉ others := fun h => hothers [c] h rfl
    rw [or_iff_left hc]
  · have hnames := Text.sortedDistinct_listsInOrder members
    refine ⟨hnames, fun names' h => h.unique hnames, fun t ht => ?_,
      fun src h => oneOf_of_not_mem h⟩
    exact List.infix_of_mem_flatten ((hnames.mem_iff t).2 ht)

theorem oneOf_depends_on_members_named :
    (∀ t : Text, t ∈ [['b'], ['a', 'b'], [], ['a'], ['b']] ↔ t ∈ [[], ['a'], ['a', 'b'], ['b']]) ∧
    (oneOf [['b'], ['a', 'b'], [], ['a'], ['b']] : ParserT (Eval Unit) Char) =
      oneOf [[], ['a'], ['a', 'b'], ['b']] ∧
    (oneOf [[], ['a'], ['a', 'b'], ['b']] ['b', 'c'] : Eval Unit (Result Char)) =
      pure (.success 'b' ['c']) ∧
    ((oneOf ([['a']] ++ [['a', 'b'], []]) ['a', 'b'] : Eval Unit (Result Char)) =
        pure (.success 'a' ['b']) ↔
      (oneOf [['a']] ['a', 'b'] : Eval Unit (Result Char)) = pure (.success 'a' ['b'])) ∧
    ['a', 'b'] <:+: ['a', 'a', 'b', 'b'] ∧
    (oneOf [[], ['a'], ['a', 'b'], ['b']] ['c'] : Eval Unit (Result Char)) =
      pure (.failure (Text.ofString "Expected one of 'aabb' but got 'c'")) := by
  have hsame : ∀ t : Text,
      t ∈ [['b'], ['a', 'b'], [], ['a'], ['b']] ↔ t ∈ [[], ['a'], ['a', 'b'], ['b']] := by
    intro t
    simp only [List.mem_cons, List.not_mem_nil, or_false]
    grind
  have hlist : Text.ListsInOrder [[], ['a'], ['a', 'b'], ['b']] [[], ['a'], ['a', 'b'], ['b']] :=
    ⟨fun _ => Iff.rfl, by unfold Text.IsBelow; decide⟩
  obtain ⟨hcongr, hmembers⟩ := @oneOf_depends_on_members Unit
  obtain ⟨-, hothers, -⟩ := hmembers [['a']]
  obtain ⟨hread, -, names, -, hunique, hinfix, hfail⟩ := hmembers [[], ['a'], ['a', 'b'], ['b']]
  obtain rfl := hunique _ hlist
  refine ⟨hsame, hcongr _ _ hsame, (hread _ _ _).2 ⟨rfl, by simp⟩,
    hothers _ (by simp) ['a', 'b'] 'a' ['b'], hinfix ['a', 'b'] (by simp), ?_⟩
  exact hfail ['c'] (by simp)

end ParserT
end Descent
