import ApiStubs.Lua.Naming
import ApiStubs.Lua.Qualifier
import ApiStubs.Validation.Scalar

/-! Type expressions: a base name and, unless erased, the types it is applied to. -/

namespace ApiStubs

structure TypeExpr where
  name : Text
  arguments : List TypeExpr

namespace TypeExpr

mutual
def decEq : (a b : TypeExpr) → Decidable (a = b)
  | ⟨n, as⟩, ⟨m, bs⟩ =>
      match instDecidableEqList n m, decEqs as bs with
      | isTrue hn, isTrue hs => isTrue (by rw [hn, hs])
      | isFalse hn, _ => isFalse fun h => hn (congrArg name h)
      | _, isFalse hs => isFalse fun h => hs (congrArg arguments h)

def decEqs : (as bs : List TypeExpr) → Decidable (as = bs)
  | [], [] => isTrue rfl
  | [], _ :: _ => isFalse nofun
  | _ :: _, [] => isFalse nofun
  | a :: as, b :: bs =>
      match decEq a b, decEqs as bs with
      | isTrue ha, isTrue hs => isTrue (by rw [ha, hs])
      | isFalse ha, _ => isFalse fun h => ha (List.cons.inj h).1
      | _, isFalse hs => isFalse fun h => hs (List.cons.inj h).2
end

instance : DecidableEq TypeExpr := decEq

def checkName (text : Text) : Checked Text := Json.checkNonEmpty (Lua.typeName text)

/-- The only way to a type: its name is made safe and must not be blank. -/
def make (name : Text) (arguments : List TypeExpr) : Except Fault TypeExpr :=
  Checked.result "TypeRef"
    (TypeExpr.mk <$> (checkName name).under (.key "name") <*> pure arguments)

def isApplied (t : TypeExpr) : Bool := !t.arguments.isEmpty

def shortName (t : TypeExpr) : Text := Lua.shorten t.name

def baseName (qualified : Bool) (t : TypeExpr) : Text :=
  if qualified then t.name else t.shortName

def erased (t : TypeExpr) : Except Fault TypeExpr := make t.name []

mutual
def shortened : TypeExpr → Except Fault TypeExpr
  | ⟨name, arguments⟩ => do make (Lua.shorten name) (← shortenedAll arguments)

def shortenedAll : List TypeExpr → Except Fault (List TypeExpr)
  | [] => return []
  | t :: rest => return (← shortened t) :: (← shortenedAll rest)
end

/-- Arguments never count, for one side of a comparison is usually erased. -/
def sameBase (qualified : Bool) (a b : TypeExpr) : Bool :=
  a.baseName qualified == b.baseName qualified

end TypeExpr
end ApiStubs
