import ApiStubs.Member.Method

/-! Pairing of methods by signature. Two parameters agree when the base names of their types do, so
generic arguments and parameter names never count. -/

namespace ApiStubs

namespace Param

def agreePairwise (qualified : Bool) : List Param → List Param → Except Fault Bool
  | a :: as, b :: bs => do
      if (← a.type).sameBase qualified (← b.type) then agreePairwise qualified as bs
      else return false
  | _, _ => return true

def agree (qualified : Bool) (as bs : List Param) : Except Fault Bool :=
  if as.length = bs.length then agreePairwise qualified as bs else return false

end Param

namespace Method

def agrees (qualified : Bool) (a b : Method) : Except Fault Bool :=
  if a.name = b.name then Param.agree qualified a.params b.params else return false

def firstMatch? (qualified : Bool) (wanted : Method) : List Method → Except Fault (Option Nat)
  | [] => return none
  | m :: rest => do
      if ← m.agrees qualified wanted then return some 0
      else return (← firstMatch? qualified wanted rest).map (· + 1)

def findMatch? (qualified : Bool) (wanted : Method) (bucket : List Method) :
    Except Fault (Option Method) := do
  return (← firstMatch? qualified wanted bucket).bind (bucket[·]?)

end Method
end ApiStubs
