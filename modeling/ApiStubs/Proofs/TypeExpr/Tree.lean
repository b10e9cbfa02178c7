import ApiStubs.Proofs.TypeExpr.Parsing

/-! Types as trees: induction over the arguments, what holds of every name in a tree, and trees that
differ in their names alone. -/

namespace ApiStubs.TypeExpr

theorem tree_induction {motive : TypeExpr → Prop}
    (node : ∀ name arguments, (∀ t ∈ arguments, motive t) → motive ⟨name, arguments⟩)
    (t : TypeExpr) : motive t := by
  refine @TypeExpr.rec motive (fun arguments => ∀ t ∈ arguments, motive t) ?_ ?_ ?_ t
  · exact node
  · exact nofun
  · intro first rest hfirst hrest t ht
    rcases List.mem_cons.1 ht with rfl | ht
    · exact hfirst
    · exact hrest t ht

mutual
/-- The tree with `[]` for every name. -/
def shape : TypeExpr → TypeExpr
  | ⟨_, arguments⟩ => ⟨[], shapes arguments⟩

def shapes : List TypeExpr → List TypeExpr
  | [] => []
  | t :: rest => t.shape :: shapes rest
end

theorem shapes_eq_map (arguments : List TypeExpr) : shapes arguments = arguments.map shape := by
  induction arguments with
  | nil => rfl
  | cons t rest ih => rw [shapes, ih, List.map_cons]

theorem shape_eq (name : Text) (arguments : List TypeExpr) :
    shape ⟨name, arguments⟩ = ⟨[], arguments.map shape⟩ := by
  rw [shape, shapes_eq_map]

theorem shortenedAll_eq_mapM (arguments : List TypeExpr) :
    shortenedAll arguments = arguments.mapM shortened := by
  induction arguments with
  | nil => rfl
  | cons t rest ih => rw [shortenedAll, List.mapM_cons, ih]

theorem shortened_eq_ok_iff {name : Text} {arguments : List TypeExpr} {u : TypeExpr} :
    shortened ⟨name, arguments⟩ = .ok u ↔
      ∃ short, List.Forall₂ (fun t s => t.shortened = .ok s) arguments short ∧
        make (Lua.shorten name) short = .ok u := by
  rw [shortened, shortenedAll_eq_mapM, bind_eq_ok_iff]
  simp only [mapM_eq_ok_iff]

theorem shape_of_shortened {t u : TypeExpr} (h : t.shortened = .ok u) : u.shape = t.shape := by
  induction t using tree_induction generalizing u with
  | node name arguments ih =>
    obtain ⟨short, hshort, hmake⟩ := shortened_eq_ok_iff.1 h
    obtain ⟨-, -, rfl⟩ := make_eq_ok_iff.1 hmake
    have hshapes : short.map shape = arguments.map shape := by
      clear h hmake
      induction hshort with
      | nil => rfl
      | cons hfirst _ hrest =>
        rw [List.map_cons, List.map_cons, ih _ List.mem_cons_self hfirst,
          hrest fun t ht => ih t (List.mem_cons_of_mem _ ht)]
    rw [shape_eq, shape_eq, hshapes]

section Names

variable {p q : Text → Prop} {name : Text} {arguments : List TypeExpr} {t : TypeExpr}

inductive EveryName (p : Text → Prop) : TypeExpr → Prop
  | node {name : Text} {arguments : List TypeExpr} (hname : p name)
      (harguments : ∀ t ∈ arguments, EveryName p t) : EveryName p ⟨name, arguments⟩

theorem everyName_iff :
    EveryName p ⟨name, arguments⟩ ↔ p name ∧ ∀ t ∈ arguments, EveryName p t :=
  ⟨fun | .node hname harguments => ⟨hname, harguments⟩, fun h => .node h.1 h.2⟩

mutual
def decEveryName [DecidablePred p] : (t : TypeExpr) → Decidable (t.EveryName p)
  | ⟨name, arguments⟩ =>
      match inferInstanceAs (Decidable (p name)), decEveryNames arguments with
      | isTrue hname, isTrue harguments => isTrue (.node hname harguments)
      | isFalse hname, _ => isFalse fun h => hname (everyName_iff.1 h).1
      | _, isFalse harguments => isFalse fun h => harguments (everyName_iff.1 h).2

def decEveryNames [DecidablePred p] :
    (arguments : List TypeExpr) → Decidable (∀ t ∈ arguments, t.EveryName p)
  | [] => isTrue (List.forall_mem_nil _)
  | t :: rest =>
      match decEveryName t, decEveryNames rest with
      | isTrue ht, isTrue hrest => isTrue (List.forall_mem_cons.2 ⟨ht, hrest⟩)
      | isFalse ht, _ => isFalse fun h => ht (h t List.mem_cons_self)
      | _, isFalse hrest => isFalse fun h => hrest (List.forall_mem_cons.1 h).2
end

instance [DecidablePred p] (t : TypeExpr) : Decidable (t.EveryName p) := decEveryName t

theorem EveryName.imp (h : t.EveryName p) (hpq : ∀ name, p name → q name) : t.EveryName q := by
  induction h with
  | node hname _ ih => exact .node (hpq _ hname) ih

theorem EveryName.and (hp : t.EveryName p) (hq : t.EveryName q) :
    t.EveryName fun name => p name ∧ q name := by
  induction hp with
  | node hname _ ih =>
    obtain ⟨hname', harguments'⟩ := everyName_iff.1 hq
    exact .node ⟨hname, hname'⟩ fun t ht => ih t ht (harguments' t ht)

mutual
def renamed (f : Text → Text) : TypeExpr → TypeExpr
  | ⟨name, arguments⟩ => ⟨f name, renamedAll f arguments⟩

def renamedAll (f : Text → Text) : List TypeExpr → List TypeExpr
  | [] => []
  | t :: rest => renamed f t :: renamedAll f rest
end

theorem renamed_eq (f : Text → Text) (name : Text) (arguments : List TypeExpr) :
    renamed f ⟨name, arguments⟩ = ⟨f name, arguments.map (renamed f)⟩ := by
  have hall : renamedAll f arguments = arguments.map (renamed f) := by
    induction arguments with
    | nil => rfl
    | cons t rest ih => rw [renamedAll, ih, List.map_cons]
  rw [renamed, hall]

theorem EveryName.renamed_eq_self {f : Text → Text} (h : t.EveryName fun name => f name = name) :
    t.renamed f = t := by
  induction h with
  | node hname _ ih => rw [renamed_eq, hname, List.map_congr_left ih, List.map_id']

end Names

end ApiStubs.TypeExpr
