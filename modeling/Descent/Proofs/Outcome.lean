import Descent.Session

/-!
# How a run in a session may end

`Ends` is a statement about all sessions: the answers that are allowed and the reasons to stop that
are allowed. It is composed along `bind`, where the second part only has to deal with answers that
the first part can really give.
-/

namespace Descent.Eval

variable {ω α β : Type}

/-- Whatever the session, `x` answers with a value in `good` or stops for a reason in `bad`. -/
def Ends (x : Eval ω α) (good : α → Prop) (bad : Stop → Prop) : Prop :=
  ∀ s, match (x.run s).1 with
    | .ok v => good v
    | .error stop => bad stop

def EndsWithin (kept : Session ω → Prop) (x : Eval ω α) (good : α → Prop) (bad : Stop → Prop) :
    Prop :=
  ∀ s, kept s → kept (x.run s).2 ∧ match (x.run s).1 with
    | .ok v => good v
    | .error stop => bad stop

def Answers (x : Eval ω α) (v : α) : Prop := x.Ends (· = v) fun _ => False

def Settles (x : Eval ω α) (good : α → Prop) (bad : Stop → Prop) : Prop :=
  (∃ v, x = pure v ∧ good v) ∨ ∃ stop, x = throwThe Stop stop ∧ bad stop

def CanAnswer (x : Eval ω α) (v : α) : Prop := ∃ s t, x.run s = (.ok v, t)

def RaisesOnly (may : Fault → Prop) (x : Eval ω α) : Prop :=
  ∀ s f t, x.run s = (.error (.fault f), t) → may f

variable {x : Eval ω α} {f : α → Eval ω β} {v : α} {good mid : α → Prop} {bad : Stop → Prop}
  {kept : Session ω → Prop}

theorem EndsWithin.mono {good' : α → Prop} {bad' : Stop → Prop} (h : x.EndsWithin kept good bad)
    (hgood : ∀ v, good v → good' v) (hbad : ∀ stop, bad stop → bad' stop) :
    x.EndsWithin kept good' bad' := by
  intro s hs
  obtain ⟨ht, hend⟩ := h s hs
  refine ⟨ht, ?_⟩
  cases hr : (x.run s).1 with
  | ok v => rw [hr] at hend; exact hgood v hend
  | error stop => rw [hr] at hend; exact hbad stop hend

theorem EndsWithin.pure (h : good v) : (Pure.pure v : Eval ω α).EndsWithin kept good bad :=
  fun _ hs => ⟨hs, h⟩

theorem EndsWithin.throw {stop : Stop} (h : bad stop) :
    (throwThe Stop stop : Eval ω α).EndsWithin kept good bad := fun _ hs => ⟨hs, h⟩

theorem EndsWithin.bind {good : β → Prop} (hx : x.EndsWithin kept mid bad)
    (hf : ∀ v, mid v → x.CanAnswer v → (f v).EndsWithin kept good bad) :
    (x >>= f).EndsWithin kept good bad := by
  intro s hs
  obtain ⟨ht, hend⟩ := hx s hs
  rw [run_bind]
  cases hr : x.run s with
  | mk outcome t =>
    rw [hr] at ht hend
    cases outcome with
    | ok v => exact hf v hend ⟨s, t, hr⟩ t ht
    | error stop => exact ⟨ht, hend⟩

theorem EndsWithin.map {good : β → Prop} {g : α → β}
    (hx : x.EndsWithin kept (fun v => good (g v)) bad) : (g <$> x).EndsWithin kept good bad := by
  rw [map_eq_pure_bind]
  exact hx.bind fun _ hv _ => .pure hv

theorem endsWithin_true_iff : x.EndsWithin (fun _ => True) good bad ↔ x.Ends good bad :=
  ⟨fun h s => (h s trivial).2, fun h s _ => ⟨trivial, h s⟩⟩

theorem Ends.mono {good' : α → Prop} {bad' : Stop → Prop} (h : x.Ends good bad)
    (hgood : ∀ v, good v → good' v) (hbad : ∀ stop, bad stop → bad' stop) :
    x.Ends good' bad' :=
  endsWithin_true_iff.1 ((endsWithin_true_iff.2 h).mono hgood hbad)

theorem Ends.pure (h : good v) : (Pure.pure v : Eval ω α).Ends good bad := fun _ => h

theorem Ends.throw {stop : Stop} (h : bad stop) :
    (throwThe Stop stop : Eval ω α).Ends good bad := fun _ => h

theorem Ends.bind {good : β → Prop} (hx : x.Ends mid bad)
    (hf : ∀ v, mid v → x.CanAnswer v → (f v).Ends good bad) : (x >>= f).Ends good bad :=
  endsWithin_true_iff.1 <| (endsWithin_true_iff.2 hx).bind fun v hv hcan =>
    endsWithin_true_iff.2 (hf v hv hcan)

theorem Ends.map {good : β → Prop} {g : α → β} (hx : x.Ends (fun v => good (g v)) bad) :
    (g <$> x).Ends good bad :=
  endsWithin_true_iff.1 (endsWithin_true_iff.2 hx).map

theorem Ends.of_ok {s t : Session ω} (h : x.Ends good bad) (hr : x.run s = (.ok v, t)) :
    good v := by
  have hs := h s
  rw [hr] at hs
  exact hs

theorem Ends.of_error {s t : Session ω} {stop : Stop} (h : x.Ends good bad)
    (hr : x.run s = (.error stop, t)) : bad stop := by
  have hs := h s
  rw [hr] at hs
  exact hs

theorem Ends.exists_ok (h : x.Ends good fun _ => False) (s : Session ω) :
    ∃ v t, x.run s = (.ok v, t) ∧ good v := by
  cases hr : x.run s with
  | mk outcome t =>
    cases outcome with
    | ok v => exact ⟨v, t, rfl, h.of_ok hr⟩
    | error stop => exact (h.of_error hr).elim

theorem Answers.bind {w : β} (hx : x.Answers v) (hf : (f v).Answers w) : (x >>= f).Answers w :=
  Ends.bind hx fun _ hv _ => hv ▸ hf

theorem Answers.pure (v : α) : (Pure.pure v : Eval ω α).Answers v := Ends.pure rfl

theorem Answers.map (g : α → β) (hx : x.Answers v) : (g <$> x).Answers (g v) :=
  Ends.map (hx.mono (fun _ h => congrArg g h) fun _ h => h)

theorem Answers.unique {w : α} (hv : x.Answers v) (hw : x.Answers w) : v = w := by
  obtain ⟨u, t, hr, rfl⟩ := hv.exists_ok {}
  exact hw.of_ok hr

theorem Settles.pure (h : good v) : (Pure.pure v : Eval ω α).Settles good bad := .inl ⟨v, rfl, h⟩

theorem Settles.throw {stop : Stop} (h : bad stop) :
    (throwThe Stop stop : Eval ω α).Settles good bad := .inr ⟨stop, rfl, h⟩

theorem Settles.mono {bad' : Stop → Prop} (h : x.Settles good bad)
    (hbad : ∀ stop, bad stop → bad' stop) : x.Settles good bad' := by
  rcases h with ⟨v, rfl, hv⟩ | ⟨stop, rfl, hs⟩
  · exact .pure hv
  · exact .throw (hbad stop hs)

theorem Settles.bind {good : β → Prop} (hx : x.Settles mid bad)
    (hf : ∀ v, mid v → (f v).Settles good bad) : (x >>= f).Settles good bad := by
  rcases hx with ⟨v, rfl, hv⟩ | ⟨stop, rfl, hs⟩
  · rw [pure_bind]
    exact hf v hv
  · exact .throw hs

theorem pure_inj {w : α} : (Pure.pure v : Eval ω α) = Pure.pure w ↔ v = w := by
  refine ⟨fun h => ?_, fun h => h ▸ rfl⟩
  have hrun : ((.ok v, {}) : Except Stop α × Session ω) = (.ok w, {}) := congrArg (run · {}) h
  exact Except.ok.inj (Prod.mk.inj hrun).1

theorem RaisesOnly.ends {may : Fault → Prop} (h : x.RaisesOnly may)
    (hfault : ∀ f, may f → bad (.fault f)) (hdeep : bad .tooDeep) :
    x.Ends (fun _ => True) bad := by
  intro s
  cases hr : x.run s with
  | mk outcome t =>
    cases outcome with
    | ok v => trivial
    | error stop =>
      cases stop with
      | fault f => exact hfault f (h s f t hr)
      | tooDeep => exact hdeep

theorem RaisesOnly.pure {may : Fault → Prop} (v : α) :
    RaisesOnly may (Pure.pure v : Eval ω α) := by
  rintro s f t ⟨⟩

theorem CanAnswer.eq_of_pure {w : α} (h : (Pure.pure v : Eval ω α).CanAnswer w) : w = v := by
  obtain ⟨s, t, hr⟩ := h
  rw [run_pure] at hr
  cases hr
  rfl

theorem CanAnswer.exists_of_bind {w : β} (h : (x >>= f).CanAnswer w) :
    ∃ v, x.CanAnswer v ∧ (f v).CanAnswer w := by
  obtain ⟨s, t, hr⟩ := h
  rw [run_bind] at hr
  cases hx : x.run s with
  | mk outcome u =>
    rw [hx] at hr
    cases outcome with
    | ok v => exact ⟨v, ⟨s, u, hx⟩, u, t, hr⟩
    | error stop => cases hr

end Descent.Eval
