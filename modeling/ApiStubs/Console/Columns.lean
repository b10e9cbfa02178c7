import ApiStubs.Text.Width

/-! Columns of a text: a joiner hides the character behind it, and an emoji selector widens the last
visible character in front of it. -/

namespace ApiStubs.Columns

def isJoiner (c : CodePoint) : Bool := c.toNat == 0x200D

def isSelector (c : CodePoint) : Bool := c.toNat == 0xFE0F

structure Cluster where
  text : Text
  columns : Nat

/-- What has been cut into clusters so far, the last cluster first, and the visible character that a
selector would widen. -/
structure Cutting where
  clusters : List Cluster
  visible : Option CodePoint

namespace Cutting

def start : Cutting := ⟨[], none⟩

def join (k : Cutting) (text : Text) (more : Nat) : Cutting :=
  match k.clusters with
  | [] => { k with clusters := [⟨text, more⟩] }
  | last :: before => { k with clusters := ⟨last.text ++ text, last.columns + more⟩ :: before }

def isWidening (k : Cutting) : Bool := (k.visible.map Text.isWidened).getD false

/-- A selector widens only once, and only behind something. -/
def select (k : Cutting) (c : CodePoint) : Cutting :=
  if k.clusters.isEmpty then k.join [c] 0
  else if k.isWidening then { k.join [c] 1 with visible := none }
  else k.join [c] 0

def add (k : Cutting) (c : CodePoint) : Cutting :=
  if Text.width c = 0 then k.join [c] 0
  else ⟨⟨[c], Text.width c⟩ :: k.clusters, some c⟩

/-- A joiner takes the next character along, unless nothing stands before it. -/
def run : Cutting → Text → Cutting
  | k, [] => k
  | k, c :: rest =>
      if isJoiner c && !k.clusters.isEmpty then
        match rest with
        | next :: rest => (k.join [c, next] 0).run rest
        | [] => k.join [c] 0
      else if isSelector c then (k.select c).run rest
      else (k.add c).run rest

end Cutting

def clusters (text : Text) : List Cluster := (Cutting.start.run text).clusters.reverse

def countBehind : Option CodePoint → Text → Nat
  | _, [] => 0
  | visible, c :: rest =>
      if isJoiner c then
        match rest with
        | _ :: rest => countBehind visible rest
        | [] => 0
      else if isSelector c then
        (if (visible.map Text.isWidened).getD false then 1 else 0) + countBehind none rest
      else if Text.width c = 0 then countBehind visible rest
      else Text.width c + countBehind (some c) rest

def count (text : Text) : Nat := countBehind none text

end ApiStubs.Columns
