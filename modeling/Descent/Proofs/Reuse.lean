import Descent.Proofs.Rebuilding

/-!
# A grammar serves for any number of parses

What a session remembers is how often factories were called, and no parse goes by that: a parser
answers every text as a copy of it would that has just been built, whatever was parsed before and
however that ended. A session shows a difference only in the records of factory calls.
-/

namespace Descent

variable {ω α : Type}

def Event.isBuilt : Event ω → Bool
  | .built _ => true
  | _ => false

def Session.calls (s : Session ω) : List (Event ω) := s.trace.toList.filter fun e => !e.isBuilt

theorem Session.Prepares.calls_eq {s t : Session ω} (h : s.Prepares t) : t.calls = s.calls := by
  cases h with
  | memory memory => rfl
  | built memory name => simp [Session.calls, Event.isBuilt]

theorem keptByParsing_calls :
    KeptByParsing (fun s t : Session ω => s.calls = t.calls) (· = ·) where
  refl _ := rfl
  prepared h hs ht := by rw [hs.calls_eq, ht.calls_eq, h]
  entered name src h := by
    simp only [Session.calls, Array.toList_push, List.filter_append] at h ⊢
    rw [h]
  left name h hr := by
    rw [Result.alike_eq_iff.1 hr]
    simp only [Session.calls, Array.toList_push, List.filter_append] at h ⊢
    rw [h]

namespace ParserT

/-- How the parse of a text ends, and what is recorded meanwhile, the calls of factories apart. -/
def answer (p : ParserT (Eval ω) α) (src : Text) (s : Session ω) :
    Except Stop (Result α) × List (Event ω) :=
  let (outcome, events, _) := (p src).observe s
  (outcome, events.toList.filter fun e => !e.isBuilt)

def answers (p : ParserT (Eval ω) α) :
    List Text → Session ω → List (Except Stop (Result α) × List (Event ω))
  | [], _ => []
  | src :: more, s => p.answer src s :: p.answers more ((p src).observe s).2.2

variable {p copy : ParserT (Eval ω) α}

theorem answer_eq (h : Agree (fun s t => s.calls = t.calls) (· = ·) p copy) (src : Text)
    (s t : Session ω) : p.answer src s = copy.answer src t := by
  obtain ⟨hout, hcalls⟩ := h src { s with trace := #[] } { t with trace := #[] } rfl
  exact Prod.ext (sameOutcome_alike_iff.1 hout) hcalls

theorem answers_eq_map (h : Agree (fun s t => s.calls = t.calls) (· = ·) p copy)
    (srcs : List Text) (s t : Session ω) :
    p.answers srcs s = srcs.map fun src => copy.answer src t := by
  induction srcs generalizing s with
  | nil => rfl
  | cons src srcs ih => rw [answers, ih, List.map_cons, answer_eq h src s t]

/-- Built in the same way, with delayed parsers of its own at addresses of its own. -/
def Copies (p copy : ParserT (Eval ω) α) : Prop := BuiltAlike (fun _ _ _ => False) p copy

theorem Copies.agree (h : Copies p copy) :
    Agree (fun s t => s.calls = t.calls) (· = ·) p copy :=
  BuiltAlike.agree keptByParsing_calls (fun _ _ _ h => h.elim) h

end ParserT

/-- One parser for any sequence of texts, in a session with any past, does what copies of it do that
are built for one text each. For a grammar that is given as data the copy may be built at any
address, and is refused for the same reason as the grammar. -/
theorem answers_eq_fresh :
    (∀ (ω α : Type) (p copy : ParserT (Eval ω) α), ParserT.Copies p copy →
      ∀ (srcs : List Text) (s : Session ω),
        p.answers srcs s = srcs.map fun src => copy.answer src {}) ∧
    ∀ (g : Grammar) (rules : Rules) (depth : Nat) (a : Address),
      SameOutcome (fun p copy : ValueParser => ∀ (srcs : List Text) (s : Session Value),
          p.answers srcs s = srcs.map fun src => copy.answer src {})
        (g.parser rules depth) (g.build (rules.resolve depth) a) := by
  refine ⟨fun _ _ p copy h srcs s => ParserT.answers_eq_map h.agree srcs s {},
    fun g rules depth a => ?_⟩
  have hbuild : SameOutcome ParserT.Copies (g.parser rules depth)
      (g.build (rules.resolve depth) a) :=
    g.build_alike (rules.resolve_alike depth) [] a
  exact hbuild.mono fun p copy h srcs s => ParserT.answers_eq_map h.agree srcs s {}

def fussy : ParserT (Eval Char) Char :=
  .orElse (.before .digit (.char '/')) (.after (.char '!') (.raise (.raised [])))

theorem answers_eq_fresh_fussy :
    ParserT.Copies (.delayed [] (some ['f']) fun _ => .ok (.probe ['p'] id fussy))
      (.delayed [7] (some ['g']) fun _ => .ok (.probe ['p'] id fussy)) ∧
    (ParserT.answers (.delayed [] (some ['f']) fun _ => .ok (.probe ['p'] id fussy))
      [['1', '/'], ['!'], ['?'], ['1', '/']] {}).map Prod.fst =
      [.ok (.success '1' []), .error (.fault (.raised [])),
        .ok (.failure (ParserT.wanted (Text.quote ['!']) (some '?'))),
        .ok (.success '1' [])] := by
  have hfussy : BuiltAlike (fun _ _ _ => False) fussy fussy :=
    .orElse (.before (.expect _ _) (.expect _ _))
      (.after (.expect _ _) (.settled fun _ => .throw _))
  have hcopies : ParserT.Copies (.delayed [] (some ['f']) fun _ => .ok (.probe ['p'] id fussy))
      (.delayed [7] (some ['g']) fun _ => .ok (.probe ['p'] id fussy)) :=
    .delayed_of_sameOutcome _ _ _ _ fun _ _ => .ok (.probe ['p'] id hfussy)
  refine ⟨hcopies, ?_⟩
  -- In a fresh session the slot of the copy is pending, so that its factory is called.
  have hfresh (src : Text) := ParserT.run_delayed [7] (some ['g'])
    (fun _ => .ok (.probe ['p'] id fussy)) src ({} : Session Char)
  simp only [Memory.get_empty] at hfresh
  rw [answers_eq_fresh.1 _ _ _ _ hcopies]
  simp only [List.map_cons, List.map_nil, ParserT.answer, Eval.observe, hfresh]
  rfl

end Descent
