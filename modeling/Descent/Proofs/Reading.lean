import Descent.Proofs.Coupling
import Descent.Proofs.Recognition

/-!
# What a match has read

A parser reads its values as they are written if each match stands behind a writing of its value,
at the beginning of the text. The combinators put such writings together: a repetition reads the
writings of its values one behind the other, also where its last match has read nothing.
-/

namespace Descent

variable {ω α β : Type}

inductive Row (writes : α → Text → Prop) : List α → Text → Prop
  | nil : Row writes [] []
  | cons {v : α} {w : Text} {vs : List α} {ws : Text} (hv : writes v w) (h : Row writes vs ws) :
      Row writes (v :: vs) (w ++ ws)

namespace Result

variable {writes : α → Text → Prop}

theorem Reads.cons {v : α} {w rest : Text} (hv : writes v w) {r : Result (List α)}
    (h : r.Reads (Row writes) rest) : (r.map (v :: ·)).Reads (Row writes) (w ++ rest) := by
  cases r with
  | success vs last =>
    obtain ⟨ws, hws, rfl⟩ := h
    exact ⟨w ++ ws, .cons hv hws, (List.append_assoc w ws last).symm⟩
  | failure e => trivial

end Result

namespace ParserT

/-- Every match has read a writing of its value. -/
def ReadsAs (writes : α → Text → Prop) (p : ParserT (Eval ω) α) : Prop :=
  ∀ src, (p src).Ends (Result.Reads writes src) fun _ => True

def ReadsNothing (p : ParserT (Eval ω) α) : Prop := p.ReadsAs fun _ w => w = []

variable {writes : α → Text → Prop} {writes' : β → Text → Prop} {p : ParserT (Eval ω) α}
  {q : ParserT (Eval ω) β}

theorem reads_success {v : α} {w rest : Text} (h : writes v w) :
    (pure (.success v rest) : Eval ω (Result α)).Ends (Result.Reads writes (w ++ rest))
      fun _ => True := .pure ⟨w, h, rfl⟩

theorem reads_failure (src e : Text) :
    (pure (.failure e) : Eval ω (Result α)).Ends (Result.Reads writes src) fun _ => True :=
  .pure trivial

theorem ReadsAs.andThen (hp : p.ReadsAs writes) {start : Text} {good : β → Prop}
    {k : Result α → Eval ω β}
    (hsuccess : ∀ v w rest, writes v w → start = w ++ rest →
      (k (.success v rest)).Ends good fun _ => True)
    (hfailure : ∀ e, (k (.failure e)).Ends good fun _ => True) :
    (p start >>= k).Ends good fun _ => True := by
  refine (hp start).bind fun r hr _ => ?_
  cases r with
  | success v rest =>
    obtain ⟨w, hw, hstart⟩ := hr
    exact hsuccess v w rest hw hstart
  | failure e => exact hfailure e

theorem ReadsAs.mono {writes' : α → Text → Prop} (hp : p.ReadsAs writes)
    (h : ∀ v w, writes v w → writes' v w) : p.ReadsAs writes' := by
  refine fun src => (hp src).mono (fun r hr => ?_) fun _ h => h
  cases r with
  | success v rest =>
    obtain ⟨w, hw, hsrc⟩ := hr
    exact ⟨w, h v w hw, hsrc⟩
  | failure e => trivial

theorem readsAs_pure {v : α} (h : writes v []) :
    (ParserT.pure v : ParserT (Eval ω) α).ReadsAs writes := fun _ => reads_success h

theorem readsAs_tooDeep : (tooDeep : ParserT (Eval ω) α).ReadsAs writes := fun _ =>
  .throw trivial

theorem readsAs_satisfy (test : Char → Bool) (mismatch : Char → Text) (atEnd : Text) :
    (satisfy test mismatch atEnd : ParserT (Eval ω) Char).ReadsAs fun c w => w = [c] := by
  intro src
  cases src with
  | nil => exact reads_failure [] atEnd
  | cons c rest =>
    cases hc : test c with
    | true =>
      rw [satisfy_of_test test mismatch atEnd hc]
      exact reads_success (w := [c]) rfl
    | false =>
      rw [satisfy_of_not_test test mismatch atEnd hc]
      exact reads_failure _ _

theorem readsAs_matching (pattern : Pattern) :
    (matching pattern : ParserT (Eval ω) Text).ReadsAs fun v w => w = v := by
  intro src
  rw [ParserT.matching]
  cases h : pattern.split? src with
  | none => exact reads_failure _ _
  | some parts =>
    rw [← pattern.append_of_split? h]
    exact reads_success rfl

theorem ReadsAs.map {f : α → β} (hp : p.ReadsAs writes)
    (hf : ∀ v w, writes v w → writes' (f v) w) : (ParserT.map f p).ReadsAs writes' := fun src =>
  hp.andThen (fun _ _ _ hw hsrc => hsrc ▸ reads_success (hf _ _ hw)) (reads_failure src)

theorem ReadsAs.mapM {f : α → Eval ω β} (hp : p.ReadsAs writes)
    (hf : ∀ v w, writes v w → (f v).Ends (writes' · w) fun _ => True) :
    (ParserT.mapM f p).ReadsAs writes' := fun src =>
  hp.andThen (fun v w _ hw hsrc => (hf v w hw).bind fun _ hv _ => hsrc ▸ reads_success hv)
    (reads_failure src)

theorem ReadsAs.before (hp : p.ReadsAs writes) (hq : q.ReadsNothing) :
    (ParserT.before p q).ReadsAs writes := by
  refine fun src => hp.andThen (fun v w rest hw hsrc => ?_) (reads_failure src)
  refine hq.andThen (fun _ u last hu hrest => ?_) (reads_failure src)
  subst hu
  rw [hsrc, hrest]
  exact reads_success hw

theorem ReadsAs.orElse {q : ParserT (Eval ω) α} (hp : p.ReadsAs writes) (hq : q.ReadsAs writes) :
    (ParserT.orElse p q).ReadsAs writes := fun src =>
  hp.andThen (fun _ _ _ hw hsrc => hsrc ▸ reads_success hw) fun _ => hq src

theorem ReadsAs.guarded (gate : ParserT (Eval ω) β) (hp : p.ReadsAs writes) :
    (ParserT.guarded gate p).ReadsAs writes := by
  intro src
  -- Nothing is asked of the gate: what it reads is given back.
  have hgate : (gate src).Ends (fun _ => True) fun _ => True := by
    intro s
    cases ((gate src).run s).1 <;> trivial
  refine hgate.bind fun r _ _ => ?_
  cases r with
  | success v rest => exact hp src
  | failure e => exact reads_failure src e

theorem ReadsAs.withDefault {default : α} (hp : p.ReadsAs writes) (hdefault : writes default []) :
    (ParserT.withDefault default p).ReadsAs writes := fun _ =>
  hp.andThen (fun _ _ _ hw hsrc => hsrc ▸ reads_success hw) fun _ => reads_success hdefault

theorem readsNothing_lookahead (hp : p.ReadsAs writes) : (ParserT.lookahead p).ReadsNothing :=
  fun src => hp.andThen (fun _ _ _ _ _ => reads_success (w := []) rfl) (reads_failure src)

theorem readsNothing_notAhead (message : α → Text) (hp : p.ReadsAs writes) :
    (ParserT.notAhead message p).ReadsNothing := fun src =>
  hp.andThen (fun v _ _ _ _ => reads_failure src (message v)) fun _ =>
    reads_success (w := []) rfl

theorem ends_continueMany_reads {src rest : Text} {v : α} {w : Text} (hv : writes v w)
    (hsrc : src = w ++ rest)
    (hmany : rest.length < src.length →
      (ParserT.many p rest).Ends (Result.Reads (Row writes) rest) fun _ => True) :
    (continueMany p src v rest).Ends (Result.Reads (Row writes) src) fun _ => True := by
  by_cases hlt : rest.length < src.length
  · rw [continueMany, if_pos hlt]
    exact Eval.Ends.map ((hmany hlt).mono (fun _ h => hsrc ▸ h.cons hv) fun _ h => h)
  · -- The match has read nothing, and is the last one.
    have hrow : Row writes [v] w := List.append_nil w ▸ .cons hv .nil
    rw [continueMany, if_neg hlt, hsrc]
    exact reads_success hrow

theorem ReadsAs.many (hp : p.ReadsAs writes) : (ParserT.many p).ReadsAs (Row writes) := by
  intro src
  induction src using shorter_induction with
  | shorter src ih =>
    rw [many_eq]
    exact hp.andThen (fun v w rest hw hsrc => ends_continueMany_reads hw hsrc (ih rest))
      fun _ => reads_success (w := []) .nil

theorem ReadsAs.many1 (hp : p.ReadsAs writes) : (ParserT.many1 p).ReadsAs (Row writes) := by
  intro src
  rw [many1_eq]
  exact hp.andThen (fun v w rest hw hsrc =>
    ends_continueMany_reads hw hsrc fun _ => hp.many rest) (reads_failure src)

def Adds (writes : α → Text → Prop) (found : Array α) (vs : List α) (w : Text) : Prop :=
  ∃ more, vs = found.toList ++ more ∧ Row writes more w

theorem reads_of_push {found : Array α} {v : α} {w rest : Text} (hv : writes v w)
    {r : Result (List α)} (h : r.Reads (Adds writes (found.push v)) rest) :
    r.Reads (Adds writes found) (w ++ rest) := by
  cases r with
  | success vs last =>
    obtain ⟨ws, ⟨more, rfl, hmore⟩, rfl⟩ := h
    exact ⟨w ++ ws, ⟨v :: more, by simp, .cons hv hmore⟩, (List.append_assoc w ws last).symm⟩
  | failure e => trivial

theorem collect_reads {ps : List (ParserT (Eval ω) α)} (h : ∀ p ∈ ps, ReadsAs writes p)
    (found : Array α) (src : Text) :
    (collect found ps src).Ends (Result.Reads (Adds writes found) src) fun _ => True := by
  induction ps generalizing found src with
  | nil => exact reads_success (w := []) ⟨[], by simp, .nil⟩
  | cons p ps ih =>
    refine (h p (by simp)).andThen (fun v w rest hw hsrc => ?_) (reads_failure src)
    rw [hsrc]
    exact (ih (fun q hq => h q (by simp [hq])) (found.push v) rest).mono
      (fun _ => reads_of_push hw) fun _ h => h

theorem ReadsAs.collectTimes (hp : p.ReadsAs writes) (n : Nat) (found : Array α) (src : Text) :
    (ParserT.collectTimes p found n src).Ends (Result.Reads (Adds writes found) src)
      fun _ => True := by
  induction n generalizing found src with
  | zero => exact reads_success (w := []) ⟨[], by simp, .nil⟩
  | succ n ih =>
    refine hp.andThen (fun v w rest hw hsrc => ?_) (reads_failure src)
    rw [hsrc]
    exact (ih (found.push v) rest).mono (fun _ => reads_of_push hw) fun _ h => h

theorem reads_of_adds_empty {src : Text} {r : Result (List α)}
    (h : r.Reads (Adds writes #[]) src) : r.Reads (Row writes) src := by
  cases r with
  | success vs rest =>
    obtain ⟨w, ⟨more, rfl, hmore⟩, hsrc⟩ := h
    exact ⟨w, hmore, hsrc⟩
  | failure e => trivial

theorem ReadsAs.sequence {ps : List (ParserT (Eval ω) α)} (h : ∀ p ∈ ps, ReadsAs writes p) :
    (ParserT.sequence ps).ReadsAs (Row writes) := fun src =>
  (collect_reads h #[] src).mono (fun _ => reads_of_adds_empty) fun _ h => h

theorem ReadsAs.sequence_map {β : Type} {f : β → ParserT (Eval ω) α}
    (hf : ∀ v, ReadsAs writes (f v)) (vs : List β) :
    (ParserT.sequence (vs.map f)).ReadsAs (Row writes) :=
  .sequence (List.forall_mem_map.2 fun v _ => hf v)

theorem ReadsAs.times (n : Nat) (hp : p.ReadsAs writes) :
    (ParserT.times n p).ReadsAs (Row writes) := fun src =>
  (hp.collectTimes n #[] src).mono (fun _ => reads_of_adds_empty) fun _ h => h

theorem ReadsAs.delayed (address : Address) (label : Option Text)
    {factory : Nat → Except Fault (ParserT (Eval ω) α)}
    (h : ∀ call p, factory call = .ok p → ReadsAs writes p) :
    (ParserT.delayed address label factory).ReadsAs writes := by
  intro src s
  obtain ⟨call, t, -, hrun⟩ := exists_run_delayed address label factory src s
  rw [hrun]
  cases hf : factory call with
  | ok p => exact h call p hf src t
  | error f => trivial

end ParserT
end Descent
