import ApiStubs.Diagnostic

/-! Work that reports diagnostics on its way: it changes a state, and what it has reported and
changed stays when it fails. -/

namespace ApiStubs

structure Trace (σ ε α : Type) where
  result : Except ε α
  reports : List Diagnostic
  state : σ

def Traced (σ ε α : Type) : Type := σ → Trace σ ε α

namespace Traced
variable {σ ε α β : Type}

def run (x : Traced σ ε α) (state : σ) : Trace σ ε α := x state

def bind (x : Traced σ ε α) (f : α → Traced σ ε β) : Traced σ ε β := fun state =>
  match x state with
  | ⟨.ok a, reports, state⟩ =>
      let rest := f a state
      ⟨rest.result, reports ++ rest.reports, rest.state⟩
  | ⟨.error e, reports, state⟩ => ⟨.error e, reports, state⟩

instance : Monad (Traced σ ε) where
  pure a := fun state => ⟨.ok a, [], state⟩
  bind := bind

def report (d : Diagnostic) : Traced σ ε Unit := fun state => ⟨.ok (), [d], state⟩

def fail (e : ε) : Traced σ ε α := fun state => ⟨.error e, [], state⟩

def ofExcept {δ : Type} (wrap : δ → ε) : Except δ α → Traced σ ε α
  | .ok a => pure a
  | .error e => fail (wrap e)

def onState {δ : Type} (wrap : δ → ε) (f : σ → Except δ α × σ) : Traced σ ε α := fun state =>
  let (result, state) := f state
  ⟨result.mapError wrap, [], state⟩

end Traced
end ApiStubs
