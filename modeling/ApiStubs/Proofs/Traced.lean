import ApiStubs.Traced

/-! Work after work: what the first has reported and changed stays, however it ends. -/

namespace ApiStubs.Traced

variable {σ ε α β : Type} {x : Traced σ ε α} {s s' : σ} {reports : List Diagnostic}

theorem bind_run_ok {a : α} (f : α → Traced σ ε β) (h : x.run s = ⟨.ok a, reports, s'⟩) :
    (x >>= f).run s =
      ⟨((f a).run s').result, reports ++ ((f a).run s').reports, ((f a).run s').state⟩ := by
  change Traced.bind x f s = _
  rw [Traced.bind, show x s = _ from h]
  rfl

theorem bind_run_error {e : ε} (f : α → Traced σ ε β) (h : x.run s = ⟨.error e, reports, s'⟩) :
    (x >>= f).run s = ⟨.error e, reports, s'⟩ := by
  change Traced.bind x f s = _
  rw [Traced.bind, show x s = _ from h]

theorem exists_of_bind_ok {f : α → Traced σ ε β} {b : β} (h : ((x >>= f).run s).result = .ok b) :
    ∃ a, (x.run s).result = .ok a ∧ ((f a).run (x.run s).state).result = .ok b := by
  rcases hrun : x.run s with ⟨e | a, reports, s'⟩
  · rw [bind_run_error f hrun] at h
    cases h
  · rw [bind_run_ok f hrun] at h
    exact ⟨a, rfl, h⟩

theorem bind_state_of_ok {a : α} (f : α → Traced σ ε β) (h : (x.run s).result = .ok a) :
    ((x >>= f).run s).state = ((f a).run (x.run s).state).state := by
  rcases hrun : x.run s with ⟨e | a', reports, s'⟩
  · rw [hrun] at h
    cases h
  · rw [hrun] at h
    cases h
    rw [bind_run_ok f hrun]

theorem bind_reports_of_ok {a : α} (f : α → Traced σ ε β) (h : (x.run s).result = .ok a) :
    ((x >>= f).run s).reports = (x.run s).reports ++ ((f a).run (x.run s).state).reports := by
  rcases hrun : x.run s with ⟨e | a', reports, s'⟩
  · rw [hrun] at h
    cases h
  · rw [hrun] at h
    cases h
    rw [bind_run_ok f hrun]

theorem bind_pure_run (x : Traced σ ε α) (g : α → β) (s : σ) :
    (x >>= fun a => pure (g a)).run s =
      ⟨(x.run s).result.map g, (x.run s).reports, (x.run s).state⟩ := by
  cases hrun : x.run s with
  | mk result reports state =>
    cases result with
    | error e => exact bind_run_error _ hrun
    | ok a =>
      rw [bind_run_ok _ hrun]
      exact congrArg (Trace.mk _ · _) (List.append_nil reports)

theorem map_run (g : α → β) (x : Traced σ ε α) (s : σ) :
    (g <$> x).run s = ⟨(x.run s).result.map g, (x.run s).reports, (x.run s).state⟩ :=
  bind_pure_run x g s

def Ensures (I : σ → Prop) (P : α → Prop) (x : Traced σ ε α) : Prop :=
  ∀ s, I s → I (x.run s).state ∧ ∀ a, (x.run s).result = .ok a → P a

theorem Ensures.pure {I : σ → Prop} {P : α → Prop} {a : α} (h : P a) :
    Ensures I P (Pure.pure a : Traced σ ε α) :=
  fun _ hs => ⟨hs, fun _ ha => Except.ok.inj ha ▸ h⟩

theorem Ensures.report {I : σ → Prop} (d : Diagnostic) :
    Ensures I (fun _ => True) (Traced.report d : Traced σ ε Unit) :=
  fun _ hs => ⟨hs, fun _ _ => trivial⟩

theorem Ensures.fail {I : σ → Prop} {P : α → Prop} (e : ε) :
    Ensures I P (Traced.fail e : Traced σ ε α) :=
  fun _ hs => ⟨hs, nofun⟩

theorem Ensures.bind {I : σ → Prop} {P : α → Prop} {Q : β → Prop} {f : α → Traced σ ε β}
    (hx : Ensures I P x) (hf : ∀ a, P a → Ensures I Q (f a)) : Ensures I Q (x >>= f) := by
  intro s hs
  obtain ⟨hstate, hresult⟩ := hx s hs
  rcases hrun : x.run s with ⟨e | a, reports, s'⟩
  · rw [hrun] at hstate
    rw [bind_run_error f hrun]
    exact ⟨hstate, nofun⟩
  · rw [hrun] at hstate hresult
    rw [bind_run_ok f hrun]
    exact hf a (hresult a rfl) s' hstate

/-- From a state with `I` the two do the same. -/
structure Alike (I : σ → Prop) (P : α → Prop) (x y : Traced σ ε α) : Prop where
  ensures : Ensures I P x
  run_eq : ∀ s, I s → x.run s = y.run s

theorem Ensures.alike {I : σ → Prop} {P : α → Prop} (h : Ensures I P x) : Alike I P x x :=
  ⟨h, fun _ _ => rfl⟩

theorem Alike.bind {I : σ → Prop} {P : α → Prop} {Q : β → Prop} {y : Traced σ ε α}
    {f g : α → Traced σ ε β} (hxy : Alike I P x y) (hfg : ∀ a, P a → Alike I Q (f a) (g a)) :
    Alike I Q (x >>= f) (y >>= g) := by
  refine ⟨hxy.ensures.bind fun a ha => (hfg a ha).ensures, fun s hs => ?_⟩
  obtain ⟨hstate, hresult⟩ := hxy.ensures s hs
  have hrun := hxy.run_eq s hs
  rcases hx : x.run s with ⟨e | a, reports, s'⟩
  · rw [hx] at hrun
    rw [bind_run_error f hx, bind_run_error g hrun.symm]
  · rw [hx] at hrun hstate hresult
    rw [bind_run_ok f hx, bind_run_ok g hrun.symm, (hfg a (hresult a rfl)).run_eq s' hstate]

def Reports (P : Diagnostic → Prop) (x : Traced σ ε α) : Prop :=
  ∀ s, ∀ d ∈ (x.run s).reports, P d

namespace Reports

variable {P : Diagnostic → Prop}

theorem pure {a : α} : Reports P (Pure.pure a : Traced σ ε α) := fun _ _ => nofun

theorem report {d : Diagnostic} (h : P d) : Reports P (Traced.report d : Traced σ ε Unit) :=
  fun _ _ hd => List.mem_singleton.1 hd ▸ h

theorem ofExcept {δ : Type} (wrap : δ → ε) (result : Except δ α) :
    Reports P (Traced.ofExcept wrap result : Traced σ ε α) := by
  cases result <;> exact fun _ _ => nofun

theorem onState {δ : Type} (wrap : δ → ε) (f : σ → Except δ α × σ) :
    Reports P (Traced.onState wrap f) := fun _ _ => nofun

theorem bind {f : α → Traced σ ε β} (hx : Reports P x) (hf : ∀ a, Reports P (f a)) :
    Reports P (x >>= f) := by
  intro s d hd
  have hreports := hx s
  rcases hrun : x.run s with ⟨e | a, reports, s'⟩
  · rw [hrun] at hreports
    rw [bind_run_error f hrun] at hd
    exact hreports d hd
  · rw [hrun] at hreports
    rw [bind_run_ok f hrun] at hd
    rcases List.mem_append.1 hd with hd | hd
    · exact hreports d hd
    · exact hf a s' d hd

end Reports

end ApiStubs.Traced
