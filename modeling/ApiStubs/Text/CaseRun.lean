import ApiStubs.Text.Basic

/-! Letter-case tables as runs of code points that map by one common shift. -/

namespace ApiStubs.Text

/-- The code points from `first` to `last` in steps of `stride`; `first` goes to `target`. -/
structure CaseRun where
  first : Nat
  last : Nat
  stride : Nat
  target : Nat

def CaseRun.covers (run : CaseRun) (n : Nat) : Bool :=
  run.first ≤ n && n ≤ run.last && (n - run.first) % run.stride == 0

def CaseRun.find? : List CaseRun → CodePoint → Option CodePoint
  | [], _ => none
  | run :: rest, c =>
      if c.toNat < run.first then none
      else if run.covers c.toNat then some (.ofNat (run.target + (c.toNat - run.first)))
      else find? rest c

end ApiStubs.Text
