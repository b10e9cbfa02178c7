import ApiStubs.TypeExpr.Basic

/-! Type expressions as JSON records. Whatever stands for the name is taken as its text, and only so
many types may lie in each other. -/

namespace ApiStubs.TypeExpr

mutual
def toJson : TypeExpr → Json
  | ⟨name, arguments⟩ => .obj [("name", .str name), ("arguments", .arr (toJsons arguments))]

def toJsons : List TypeExpr → List Json
  | [] => []
  | t :: rest => t.toJson :: toJsons rest
end

mutual
/-- How many types lie in each other on the longest way in, this one counted. -/
def depth : TypeExpr → Nat
  | ⟨_, arguments⟩ => depthOfAll arguments + 1

def depthOfAll : List TypeExpr → Nat
  | [] => 0
  | t :: rest => max t.depth (depthOfAll rest)
end

/-- How many types may lie in each other in a record, whether it is read or written. -/
def recordDepth : Nat := 255

/-- A type is a part of its member, which counts as one level. -/
def memberDepth : Nat := recordDepth - 1

def checkNameText (value : Json) : Checked Text := checkName value.display

mutual
def checkWithin (levels : Nat) : Json → Checked TypeExpr
  | .obj members =>
      if levels = 0 then .refuse .tooDeep (.obj members)
      else
        TypeExpr.mk <$> checkMember members "name" checkNameText
          <*> checkArguments (levels - 1) members
  | value => .refuse (if levels = 0 then .tooDeep else .notModel "TypeRef") value

def checkArguments (levels : Nat) : List (Text × Json) → Checked (List TypeExpr)
  | [] => .ok []
  | (key, value) :: rest =>
      if key = "arguments" then (checkTuple levels value).under (.key key)
      else checkArguments levels rest

def checkTuple (levels : Nat) : Json → Checked (List TypeExpr)
  | .arr items => checkEach levels 0 items
  | value => .refuse .notTuple value

def checkEach (levels index : Nat) : List Json → Checked (List TypeExpr)
  | [] => .ok []
  | value :: rest =>
      List.cons <$> (checkWithin levels value).under (.index index)
        <*> checkEach levels (index + 1) rest
end

def check (value : Json) : Checked TypeExpr := checkWithin recordDepth value

def checkOfMember (value : Json) : Checked TypeExpr := checkWithin memberDepth value

end ApiStubs.TypeExpr
