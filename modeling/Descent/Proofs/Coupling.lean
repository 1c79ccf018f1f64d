import Mathlib.Data.List.Forall2
import Descent.Proofs.Nesting
import Descent.Proofs.Repetition

/-!
# Two runs side by side

Two computations are coupled if from related sessions they come to related answers, or stop for the
same reason, and leave related sessions. Two parsers agree if they are coupled on every text: they
match with the same value and rest, or both fail, with messages that are related as well. Each
combinator makes parsers that agree out of parsers that agree. Where a combinator throws a message
away, that message may be any other one.
-/

namespace Descent

inductive SameOutcome {ε α β : Type} (good : α → β → Prop) : Except ε α → Except ε β → Prop
  | ok {v : α} {w : β} (h : good v w) : SameOutcome good (.ok v) (.ok w)
  | error (e : ε) : SameOutcome good (.error e) (.error e)

namespace SameOutcome

variable {ε α β γ δ : Type} {good : α → β → Prop} {x : Except ε α} {y : Except ε β}

theorem of_ok (h : SameOutcome good x y) {v : α} {w : β} (hx : x = .ok v) (hy : y = .ok w) :
    good v w := by
  cases h with
  | ok h =>
    cases hx
    cases hy
    exact h
  | error e => cases hx

theorem error_iff (h : SameOutcome good x y) (e : ε) : x = .error e ↔ y = .error e := by
  cases h with
  | ok h => exact ⟨nofun, nofun⟩
  | error d => exact ⟨fun h => by cases h; rfl, fun h => by cases h; rfl⟩

theorem of_iff (hok : ∀ v w, x = .ok v → y = .ok w → good v w)
    (herror : ∀ e, x = .error e ↔ y = .error e) : SameOutcome good x y := by
  cases x with
  | ok v =>
    cases y with
    | ok w => exact .ok (hok v w rfl rfl)
    | error e => cases (herror e).2 rfl
  | error e =>
    cases (herror e).1 rfl
    exact .error e

theorem mono {good' : α → β → Prop} (h : SameOutcome good x y)
    (hgood : ∀ v w, good v w → good' v w) : SameOutcome good' x y := by
  cases h with
  | ok h => exact .ok (hgood _ _ h)
  | error e => exact .error e

theorem bind {next : γ → δ → Prop} {f : α → Except ε γ} {g : β → Except ε δ}
    (h : SameOutcome good x y) (hf : ∀ v w, good v w → SameOutcome next (f v) (g w)) :
    SameOutcome next (x >>= f) (y >>= g) := by
  cases h with
  | ok h => exact hf _ _ h
  | error e => exact .error e

theorem map {next : γ → δ → Prop} {f : α → γ} {g : β → δ} (h : SameOutcome good x y)
    (hf : ∀ v w, good v w → next (f v) (g w)) : SameOutcome next (x.map f) (y.map g) := by
  cases h with
  | ok h => exact .ok (hf _ _ h)
  | error e => exact .error e

theorem bind_same {next : γ → δ → Prop} (z : Except ε α) {f : α → Except ε γ}
    {g : α → Except ε δ} (hf : ∀ v, SameOutcome next (f v) (g v)) :
    SameOutcome next (z >>= f) (z >>= g) := by
  cases z with
  | ok v => exact hf v
  | error e => exact .error e

theorem map_same {next : γ → δ → Prop} (z : Except ε α) {f : α → γ} {g : α → δ}
    (hf : ∀ v, next (f v) (g v)) : SameOutcome next (z.map f) (z.map g) := by
  cases z with
  | ok v => exact .ok (hf v)
  | error e => exact .error e

theorem mapM {f : γ → Except ε α} {g : γ → Except ε β} (hf : ∀ v, SameOutcome good (f v) (g v))
    (vs : List γ) : SameOutcome (List.Forall₂ good) (vs.mapM f) (vs.mapM g) := by
  induction vs with
  | nil => exact .ok .nil
  | cons v vs ih =>
    rw [List.mapM_cons, List.mapM_cons]
    exact (hf v).bind fun _ _ hv => ih.bind fun _ _ hvs => .ok (.cons hv hvs)

end SameOutcome

variable {ω α β γ δ : Type} {rel : Session ω → Session ω → Prop}

namespace Eval

/-- From sessions related by `rel`, the two come to answers related by `good`, or stop for the same
reason, and the sessions that they leave are related again. -/
def Coupled (rel : Session ω → Session ω → Prop) (good : α → β → Prop) (x : Eval ω α)
    (y : Eval ω β) : Prop :=
  ∀ s t, rel s t → SameOutcome good (x.run s).1 (y.run t).1 ∧ rel (x.run s).2 (y.run t).2

def Settled (x : Eval ω α) : Prop := x.Settles (fun _ => True) fun _ => True

variable {x : Eval ω α} {y : Eval ω β} {good : α → β → Prop} {f : α → Eval ω γ}
  {g : β → Eval ω δ} {next : γ → δ → Prop}

theorem Coupled.pure {v : α} {w : β} (h : good v w) :
    Coupled rel good (Pure.pure v : Eval ω α) (Pure.pure w) := fun _ _ hst => ⟨.ok h, hst⟩

theorem Coupled.throw (stop : Stop) :
    Coupled rel good (throwThe Stop stop : Eval ω α) (throwThe Stop stop : Eval ω β) :=
  fun _ _ hst => ⟨.error stop, hst⟩

theorem Coupled.mono {good' : α → β → Prop} (h : Coupled rel good x y)
    (hgood : ∀ v w, good v w → good' v w) : Coupled rel good' x y := fun s t hst =>
  ⟨(h s t hst).1.mono hgood, (h s t hst).2⟩

theorem Coupled.bind (h : Coupled rel good x y)
    (hf : ∀ v w, good v w → x.CanAnswer v → Coupled rel next (f v) (g w)) :
    Coupled rel next (x >>= f) (y >>= g) := by
  intro s t hst
  obtain ⟨hout, hsessions⟩ := h s t hst
  rw [run_bind, run_bind]
  cases hx : x.run s with
  | mk outcome s' =>
    cases hy : y.run t with
    | mk outcome' t' =>
      rw [hx, hy] at hout hsessions
      cases hout with
      | ok hvw => exact hf _ _ hvw ⟨s, s', hx⟩ s' t' hsessions
      | error stop => exact ⟨.error stop, hsessions⟩

theorem Coupled.map {u : α → γ} {v : β → δ} (h : Coupled rel good x y)
    (hu : ∀ a b, good a b → next (u a) (v b)) : Coupled rel next (u <$> x) (v <$> y) := by
  rw [map_eq_pure_bind, map_eq_pure_bind]
  exact h.bind fun a b hab _ => .pure (hu a b hab)

theorem Settled.pure (v : α) : (Pure.pure v : Eval ω α).Settled := Settles.pure trivial

theorem Settled.throw (stop : Stop) : (throwThe Stop stop : Eval ω α).Settled :=
  Settles.throw trivial

theorem Settled.bind (hx : x.Settled) (hf : ∀ v, (f v).Settled) : (x >>= f).Settled :=
  Settles.bind hx fun v _ => hf v

theorem settled_ofExcept (r : Except Fault α) : (ofExcept r : Eval ω α).Settled := by
  cases r with
  | ok v => exact .pure v
  | error f => exact .throw (.fault f)

theorem Settles.settled {wanted : α → Prop} {bad : Stop → Prop} (h : x.Settles wanted bad) :
    x.Settled := by
  rcases h with ⟨v, rfl, -⟩ | ⟨stop, rfl, -⟩
  · exact .pure v
  · exact .throw stop

theorem Settled.coupled {good : α → α → Prop} (h : x.Settled) (hgood : ∀ v, good v v) :
    Coupled rel good x x := by
  rcases h with ⟨v, rfl, -⟩ | ⟨stop, rfl, -⟩
  · exact .pure (hgood v)
  · exact .throw stop

end Eval

inductive Result.Alike (same : Text → Text → Prop) : Result α → Result α → Prop
  | success (v : α) (rest : Text) : Alike same (.success v rest) (.success v rest)
  | failure {e e' : Text} (h : same e e') : Alike same (.failure e) (.failure e')

theorem Result.Alike.refl {same : Text → Text → Prop} (h : ∀ e, same e e) (r : Result α) :
    r.Alike same r := by
  cases r with
  | success v rest => exact .success v rest
  | failure e => exact .failure (h e)

theorem Result.Alike.map {same : Text → Text → Prop} (f : α → β) {r r' : Result α}
    (h : r.Alike same r') : (r.map f).Alike same (r'.map f) := by
  cases h with
  | success v rest => exact .success (f v) rest
  | failure h => exact .failure h

theorem Result.alike_eq_iff {r r' : Result α} : r.Alike (· = ·) r' ↔ r = r' := by
  constructor
  · rintro (⟨v, rest⟩ | rfl) <;> rfl
  · rintro rfl
    exact .refl (fun _ => rfl) r

theorem sameOutcome_alike_iff {ε : Type} {x y : Except ε (Result α)} :
    SameOutcome (Result.Alike (· = ·)) x y ↔ x = y := by
  constructor
  · intro h
    cases h with
    | ok h => rw [Result.alike_eq_iff.1 h]
    | error e => rfl
  · rintro rfl
    cases x with
    | ok r => exact .ok (.refl (fun _ => rfl) r)
    | error e => exact .error e

/-- On every text the two are coupled, their messages being compared by `same`. -/
def ParserT.Agree (rel : Session ω → Session ω → Prop) (same : Text → Text → Prop)
    (p q : ParserT (Eval ω) α) : Prop :=
  ∀ src, (p src).Coupled rel (Result.Alike same) (q src)

def ParserT.Settled (p : ParserT (Eval ω) α) : Prop := ∀ src, (p src).Settled

/-- `t` is `s` with any memory and, perhaps, the record of a call of a factory. -/
inductive Session.Prepares (s : Session ω) : Session ω → Prop
  | memory (memory : Memory) : Prepares s { s with memory }
  | built (memory : Memory) (name : Text) :
      Prepares s { memory, trace := s.trace.push (.built name) }

theorem Session.prepares_called (s : Session ω) (address : Address) (label : Option Text)
    (slot : Slot) : s.Prepares (s.called address label slot) := by
  cases label with
  | none => exact .memory _
  | some name => exact .built _ name

/-- What the relations on sessions and on messages have to allow: every message is compared with
itself, the calls of factories go unnoticed and what a probe records is compared like a result. -/
structure KeptByParsing (rel : Session ω → Session ω → Prop) (same : Text → Text → Prop) :
    Prop where
  refl : ∀ e, same e e
  prepared : ∀ {s t s' t'}, rel s t → s.Prepares s' → t.Prepares t' → rel s' t'
  entered : ∀ {s t} (name src : Text), rel s t →
    rel { s with trace := s.trace.push (.entered name src) }
      { t with trace := t.trace.push (.entered name src) }
  left : ∀ {s t} {r r' : Result ω} (name : Text), rel s t → r.Alike same r' →
    rel { s with trace := s.trace.push (.left name r) }
      { t with trace := t.trace.push (.left name r') }

namespace ParserT

variable {same other : Text → Text → Prop} {p p' : ParserT (Eval ω) α}
  {q q' : ParserT (Eval ω) β}

theorem Settled.agree (hp : p.Settled) (hsame : ∀ e, same e e) : Agree rel same p p :=
  fun src => (hp src).coupled (Result.Alike.refl hsame)

theorem coupled_success (v : α) (rest : Text) :
    (pure (.success v rest) : Eval ω (Result α)).Coupled rel (Result.Alike same)
      (pure (.success v rest)) := .pure (.success v rest)

theorem coupled_failure {e e' : Text} (h : same e e') :
    (pure (.failure e) : Eval ω (Result α)).Coupled rel (Result.Alike same)
      (pure (.failure e')) := .pure (.failure h)

theorem Agree.andThen (hp : Agree rel same p p') (src : Text) {good : β → γ → Prop}
    {k : Result α → Eval ω β} {k' : Result α → Eval ω γ}
    (hsuccess : ∀ v rest, p.Produces v →
      (k (.success v rest)).Coupled rel good (k' (.success v rest)))
    (hfailure : ∀ e e', same e e' → (k (.failure e)).Coupled rel good (k' (.failure e'))) :
    (p src >>= k).Coupled rel good (p' src >>= k') := by
  refine (hp src).bind fun r r' h hcan => ?_
  cases h with
  | success v rest => exact hsuccess v rest ⟨src, rest, hcan⟩
  | failure h => exact hfailure _ _ h

theorem Agree.bind {next next' : α → ParserT (Eval ω) β} (hp : Agree rel same p p')
    (hnext : ∀ v, p.Produces v → Agree rel same (next v) (next' v)) :
    Agree rel same (.bind p next) (.bind p' next') := fun src =>
  hp.andThen src (fun v rest hv => hnext v hv rest) fun _ _ => coupled_failure

theorem Agree.ofExcept {x x' : Except Fault (ParserT (Eval ω) α)}
    (h : SameOutcome (Agree rel same) x x') : Agree rel same (.ofExcept x) (.ofExcept x') := by
  intro src
  cases h with
  | ok h => exact h src
  | error f => exact .throw (.fault f)

theorem Agree.map (f : α → β) (hp : Agree rel same p p') :
    Agree rel same (.map f p) (.map f p') := fun src =>
  hp.andThen src (fun v rest _ => coupled_success (f v) rest) fun _ _ => coupled_failure

theorem Agree.mapM {f : α → Eval ω β} (hp : Agree rel same p p')
    (hf : ∀ v, p.Produces v → (f v).Settled) : Agree rel same (.mapM f p) (.mapM f p') := by
  intro src
  refine hp.andThen src (fun v rest hv => ?_) fun _ _ => coupled_failure
  have hfv : (f v).Coupled rel (· = ·) (f v) := (hf v hv).coupled fun _ => rfl
  exact hfv.bind fun w w' hw _ => hw ▸ coupled_success w rest

theorem Agree.after (hp : Agree rel same p p') (hq : Agree rel same q q') :
    Agree rel same (.after p q) (.after p' q') := fun src =>
  hp.andThen src (fun _ rest _ => hq rest) fun _ _ => coupled_failure

theorem Agree.before (hp : Agree rel same p p') (hq : Agree rel same q q') :
    Agree rel same (.before p q) (.before p' q') := fun src =>
  hp.andThen src
    (fun v rest _ => hq.andThen rest (fun _ last _ => coupled_success v last)
      fun _ _ => coupled_failure)
    fun _ _ => coupled_failure

theorem Agree.pair (hp : Agree rel same p p') (hq : Agree rel same q q') :
    Agree rel same (.pair p q) (.pair p' q') := fun src =>
  hp.andThen src
    (fun v rest _ => hq.andThen rest (fun w last _ => coupled_success (v, w) last)
      fun _ _ => coupled_failure)
    fun _ _ => coupled_failure

theorem Agree.apply {f f' : ParserT (Eval ω) (α → Eval ω β)} (hf : Agree rel same f f')
    (hp : Agree rel same p p')
    (hcall : ∀ g v, f.Produces g → p.Produces v → (g v).Settled) :
    Agree rel same (.apply f p) (.apply f' p') :=
  (hf.pair hp).mapM fun gv h => hcall gv.1 gv.2 (produces_of_pair h).1 (produces_of_pair h).2

theorem Agree.orElse {q q' : ParserT (Eval ω) α} (hp : Agree rel other p p')
    (hq : Agree rel same q q') : Agree rel same (.orElse p q) (.orElse p' q') := fun src =>
  hp.andThen src (fun v rest _ => coupled_success v rest) fun _ _ _ => hq src

theorem Agree.guarded (hp : Agree rel same p p') (hq : Agree rel same q q') :
    Agree rel same (.guarded p q) (.guarded p' q') := fun src =>
  hp.andThen src (fun _ _ _ => hq src) fun _ _ => coupled_failure

theorem Agree.notAhead (message : α → Text) (hsame : ∀ e, same e e) (hp : Agree rel other p p') :
    Agree rel same (.notAhead message p) (.notAhead message p') := fun src =>
  hp.andThen src (fun v _ _ => coupled_failure (hsame (message v))) fun _ _ _ =>
    coupled_success () src

theorem Agree.notAheadM {message : α → Eval ω Text} (hsame : ∀ e, same e e)
    (hp : Agree rel other p p') (hm : ∀ v, p.Produces v → (message v).Settled) :
    Agree rel same (.notAheadM message p) (.notAheadM message p') := by
  intro src
  refine hp.andThen src (fun v rest hv => ?_) fun _ _ _ => coupled_success () src
  have hmessage : (message v).Coupled rel (· = ·) (message v) := (hm v hv).coupled fun _ => rfl
  exact hmessage.bind fun e e' he _ => coupled_failure (he ▸ hsame e)

theorem Agree.lookahead (hp : Agree rel same p p') :
    Agree rel same (.lookahead p) (.lookahead p') := fun src =>
  hp.andThen src (fun v _ _ => coupled_success v src) fun _ _ => coupled_failure

theorem Agree.optional (hp : Agree rel other p p') :
    Agree rel same (.optional p) (.optional p') := fun src =>
  hp.andThen src (fun v rest _ => coupled_success (some v) rest) fun _ _ _ =>
    coupled_success none src

theorem Agree.withDefault (default : α) (hp : Agree rel other p p') :
    Agree rel same (.withDefault default p) (.withDefault default p') := fun src =>
  hp.andThen src (fun v rest _ => coupled_success v rest) fun _ _ _ => coupled_success default src

theorem coupled_continueMany {src rest : Text} (v : α)
    (hmany : rest.length < src.length →
      (many p rest).Coupled rel (Result.Alike same) (many p' rest)) :
    (continueMany p src v rest).Coupled rel (Result.Alike same) (continueMany p' src v rest) := by
  by_cases hlt : rest.length < src.length
  · rw [continueMany, continueMany, if_pos hlt, if_pos hlt]
    exact (hmany hlt).map fun _ _ h => h.map _
  · rw [continueMany, continueMany, if_neg hlt, if_neg hlt]
    exact coupled_success [v] rest

theorem Agree.many (hp : Agree rel other p p') : Agree rel same (.many p) (.many p') := by
  intro src
  -- The two loops go on together: they come to the same texts, and each is shorter than the last.
  induction src using shorter_induction with
  | shorter src ih =>
    rw [many_eq, many_eq]
    refine hp.andThen src (fun v rest _ => ?_) fun _ _ _ => coupled_success [] src
    exact coupled_continueMany v (ih rest)

theorem Agree.many1 (hp : Agree rel same p p') : Agree rel same (.many1 p) (.many1 p') := by
  intro src
  rw [many1_eq, many1_eq]
  refine hp.andThen src (fun v rest _ => ?_) fun _ _ => coupled_failure
  exact coupled_continueMany v fun _ => hp.many rest

theorem coupled_collect {ps ps' : List (ParserT (Eval ω) α)}
    (h : List.Forall₂ (Agree rel same) ps ps') (found : Array α) (src : Text) :
    (collect found ps src).Coupled rel (Result.Alike same) (collect found ps' src) := by
  induction h generalizing found src with
  | nil => exact coupled_success found.toList src
  | cons hp _ ih =>
    exact hp.andThen src (fun v rest _ => ih (found.push v) rest) fun _ _ => coupled_failure

theorem Agree.sequence {ps ps' : List (ParserT (Eval ω) α)}
    (h : List.Forall₂ (Agree rel same) ps ps') : Agree rel same (.sequence ps) (.sequence ps') :=
  coupled_collect h #[]

theorem coupled_collectTimes (hp : Agree rel same p p') (n : Nat) (found : Array α) (src : Text) :
    (collectTimes p found n src).Coupled rel (Result.Alike same) (collectTimes p' found n src) := by
  induction n generalizing found src with
  | zero => exact coupled_success found.toList src
  | succ n ih =>
    exact hp.andThen src (fun v rest _ => ih (found.push v) rest) fun _ _ => coupled_failure

theorem Agree.times (n : Nat) (hp : Agree rel same p p') :
    Agree rel same (.times n p) (.times n p') := coupled_collectTimes hp n #[]

theorem Agree.sepBy1 (hp : Agree rel same p p') (hq : Agree rel other q q')
    (hitem : Agree rel other p p') : Agree rel same (.sepBy1 p q) (.sepBy1 p' q') :=
  (hp.pair (hq.after hitem).many).map _

theorem Agree.sepBy (hp : Agree rel other p p') (hq : Agree rel other q q')
    (hsame : ∀ e, same e e) : Agree rel same (.sepBy p q) (.sepBy p' q') :=
  (hp.sepBy1 hq hp).orElse (Settled.agree (fun _ => .pure _) hsame)

theorem Agree.foldl_orElse {ps ps' : List (ParserT (Eval ω) α)}
    (h : List.Forall₂ (Agree rel same) ps ps') (hp : Agree rel same p p') :
    Agree rel same (ps.foldl .orElse p) (ps'.foldl .orElse p') :=
  List.rel_foldl (fun _ _ hp _ _ hq => hp.orElse hq) hp h

theorem Agree.choose_concat {ps ps' : List (ParserT (Eval ω) α)} {last last' : ParserT (Eval ω) α}
    (h : List.Forall₂ (Agree rel other) ps ps') (hlast : Agree rel same last last') :
    SameOutcome (Agree rel same) (choose (ps ++ [last])) (choose (ps' ++ [last'])) := by
  cases h with
  | nil => exact .ok hlast
  | cons hp h =>
    rw [List.cons_append, List.cons_append, choose, choose, List.foldl_append, List.foldl_append]
    exact .ok ((Agree.foldl_orElse h hp).orElse hlast)

theorem exists_run_delayed (address : Address) (label : Option Text)
    (factory : Nat → Except Fault (ParserT (Eval ω) α)) (src : Text) (s : Session ω) :
    ∃ call s', s.Prepares s' ∧ (delayed address label factory src).run s =
      (ofExcept (factory call) src).run s' := by
  rw [run_delayed]
  cases s.memory.get address with
  | ready call => exact ⟨call, s, .memory s.memory, rfl⟩
  | pending failed =>
    cases hf : factory failed with
    | ok p =>
      refine ⟨failed, _, s.prepares_called address label (.ready failed), ?_⟩
      simp only [hf]
      rfl
    | error f =>
      refine ⟨failed, _, s.prepares_called address label (.pending (failed + 1)), ?_⟩
      simp only [hf]
      rfl

theorem Agree.delayed (hk : KeptByParsing rel same) (address address' : Address)
    (label label' : Option Text) {factory factory' : Nat → Except Fault (ParserT (Eval ω) α)}
    (h : ∀ call call', SameOutcome (Agree rel same) (factory call) (factory' call')) :
    Agree rel same (.delayed address label factory) (.delayed address' label' factory') := by
  intro src s t hst
  -- The calls may differ in number: the factories build parsers that agree at every call.
  obtain ⟨call, s', hs, hrun⟩ := exists_run_delayed address label factory src s
  obtain ⟨call', t', ht, hrun'⟩ := exists_run_delayed address' label' factory' src t
  rw [hrun, hrun']
  exact Agree.ofExcept (h call call') src s' t' (hk.prepared hst hs ht)

theorem Agree.probe (hk : KeptByParsing rel same) (name : Text) (view : α → ω)
    (hp : Agree rel same p p') : Agree rel same (.probe name view p) (.probe name view p') := by
  intro src
  have hentered : (Eval.record (.entered name src)).Coupled rel (fun _ _ => True)
      (Eval.record (.entered name src)) :=
    fun s t hst => ⟨.ok trivial, hk.entered name src hst⟩
  refine hentered.bind fun _ _ _ _ => (hp src).bind fun r r' hr _ => ?_
  have hleft : (Eval.record (.left name (r.map view))).Coupled rel (fun _ _ => True)
      (Eval.record (.left name (r'.map view))) :=
    fun s t hst => ⟨.ok trivial, hk.left name hst (hr.map view)⟩
  exact hleft.bind fun _ _ _ _ => .pure hr

end ParserT
end Descent
