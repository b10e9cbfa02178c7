import ApiStubs.Documented.PagePath
import ApiStubs.Proofs.Files.Path
import Mathlib.Data.List.Chain
import Mathlib.Tactic.SplitIfs

/-! The path of the page of a class. It never goes up, since no two dots in it stand side by side.
It starts at the top for names that begin with a slash or that have an empty package. -/

namespace ApiStubs

variable {text simple package pagePath className : Text}

structure IsSimple (simple : Text) : Prop where
  noDot : CodePoint.char '.' ∉ simple
  named : ∀ segment ∈ simple.splitOn (.char '$'), isAnonymous segment = false

def simplePage (simple : Text) : Text := pageName (simple.splitOn (.char '$'))

def packageFolder (package : Text) : Text :=
  package.map fun c : CodePoint => if c = '.' then .char '/' else c

/-- A trimmed name and the path it gives, for a name without dots, for one with a dot only at its
start, and for one with a package. -/
inductive HasPath : Text → Text → Prop
  | alone {simple : Text} (h : IsSimple simple) : HasPath simple (simplePage simple)
  | unnamed {simple : Text} (h : IsSimple simple) :
      HasPath (.char '.' :: simple) (simplePage simple)
  | packaged {package simple : Text} (hne : package ≠ []) (h : IsSimple simple) :
      HasPath (package ++ .char '.' :: simple)
        (packageFolder package ++ .char '/' :: simplePage simple)

def pathOf (package simple : Text) : Text :=
  if package.isEmpty then simplePage simple
  else packageFolder package ++ .char '/' :: simplePage simple

def pathOf? (package simple : Text) : Option Text :=
  if (simple.splitOn (.char '$')).any isAnonymous then none else some (pathOf package simple)

theorem pagePath?_eq (className : Text) :
    pagePath? className = Function.uncurry pathOf?
      ((Text.cutAtLast? '.' (Text.trim className)).getD ([], Text.trim className)) := by
  rw [pagePath?]
  dsimp only
  rw [Text.splitWhen_eq_splitOn]
  simp only [List.append_assoc]
  rfl

theorem pathOf?_eq_some_iff (hdot : CodePoint.char '.' ∉ simple) :
    pathOf? package simple = some pagePath ↔
      IsSimple simple ∧ pagePath = pathOf package simple := by
  have hsimple : IsSimple simple ↔ ¬(simple.splitOn (.char '$')).any isAnonymous = true := by
    rw [List.any_eq_true]
    push Not
    simp only [Bool.not_eq_true]
    exact ⟨IsSimple.named, IsSimple.mk hdot⟩
  rw [hsimple, pathOf?]
  by_cases hany : (simple.splitOn (.char '$')).any isAnonymous = true
  · rw [if_pos hany]
    exact iff_of_false nofun fun h => h.1 hany
  · rw [if_neg hany, Option.some.injEq]
    exact ⟨fun h => ⟨hany, h.symm⟩, fun h => h.2.symm⟩

theorem pagePath?_eq_some_iff :
    pagePath? className = some pagePath ↔ HasPath (Text.trim className) pagePath := by
  rw [pagePath?_eq]
  generalize Text.trim className = text
  constructor
  · intro h
    by_cases hdot : CodePoint.char '.' ∈ text
    · obtain ⟨package, simple, rfl, hlast⟩ := Text.exists_append_of_mem hdot
      rw [Text.cutAtLast?_append _ hlast] at h
      change pathOf? package simple = some pagePath at h
      obtain ⟨hsimple, rfl⟩ := (pathOf?_eq_some_iff hlast).1 h
      rw [pathOf]
      split_ifs with hpackage
      · rw [List.isEmpty_iff.1 hpackage]
        exact .unnamed hsimple
      · exact .packaged (fun hnil => hpackage (List.isEmpty_iff.2 hnil)) hsimple
    · rw [Text.cutAtLast?_of_not_mem hdot] at h
      obtain ⟨hsimple, rfl⟩ := (pathOf?_eq_some_iff hdot).1 h
      exact .alone hsimple
  · intro h
    cases h with
    | alone h =>
      rw [Text.cutAtLast?_of_not_mem h.noDot]
      exact (pathOf?_eq_some_iff h.noDot).2 ⟨h, rfl⟩
    | @unnamed simple h =>
      rw [show CodePoint.char '.' :: simple = [] ++ .char '.' :: simple from rfl,
        Text.cutAtLast?_append _ h.noDot]
      exact (pathOf?_eq_some_iff h.noDot).2 ⟨h, rfl⟩
    | packaged hne h =>
      rw [Text.cutAtLast?_append _ h.noDot]
      exact (pathOf?_eq_some_iff h.noDot).2
        ⟨h, (if_neg (mt List.isEmpty_iff.1 hne)).symm⟩

section Dots

def NoDoubledDot (text : Text) : Prop :=
  text.IsChain fun a b => ¬(a = .char '.' ∧ b = .char '.')

theorem noDoubledDot_of_not_mem (h : CodePoint.char '.' ∉ text) : NoDoubledDot text := by
  refine List.Pairwise.isChain (List.pairwise_of_forall_mem_list ?_)
  rintro a ha b - ⟨rfl, -⟩
  exact h ha

theorem NoDoubledDot.append {a b : Text} (ha : NoDoubledDot a) (hb : NoDoubledDot b)
    (h : a.getLast? ≠ some (.char '.') ∨ b.head? ≠ some (.char '.')) : NoDoubledDot (a ++ b) := by
  refine List.isChain_append.2 ⟨ha, hb, ?_⟩
  rintro c hc d hd ⟨rfl, rfl⟩
  exact h.elim (· hc) (· hd)

theorem noDoubledDot_join {pieces : List Text}
    (h : ∀ piece ∈ pieces, piece ≠ [] ∧ CodePoint.char '.' ∉ piece) :
    NoDoubledDot (Text.join "." pieces) := by
  induction pieces with
  | nil => exact .nil
  | cons first rest ih =>
    obtain ⟨hfirst, hrest⟩ := List.forall_mem_cons.1 h
    by_cases hnil : rest = []
    · rw [hnil, Text.join_singleton]
      exact noDoubledDot_of_not_mem hfirst.2
    · obtain ⟨second, more, rfl⟩ := List.exists_cons_of_ne_nil hnil
      obtain ⟨hsecond, -⟩ := List.forall_mem_cons.1 hrest
      rw [Text.join_cons _ _ hnil]
      refine (noDoubledDot_of_not_mem hfirst.2).append ?_ (.inl ?_)
      · refine NoDoubledDot.append (.singleton _) (ih hrest) (.inr ?_)
        rw [Text.head?_join _ _ hsecond.1]
        exact fun hhead => hsecond.2 (List.mem_of_mem_head? hhead)
      · exact fun hlast => hfirst.2 (List.mem_of_mem_getLast? hlast)

theorem IsSimple.pieces (h : IsSimple simple) :
    ∀ piece ∈ simple.splitOn (.char '$'), piece ≠ [] ∧ CodePoint.char '.' ∉ piece := by
  refine fun piece hpiece => ⟨?_, fun hdot => ?_⟩
  · rintro rfl
    cases h.named [] hpiece
  · exact h.noDot ((Text.infix_of_mem_splitOn hpiece).subset hdot)

theorem IsSimple.noDoubledDot (h : IsSimple simple) : NoDoubledDot (simplePage simple) := by
  have hpage : simplePage simple =
      Text.join "." (simple.splitOn (.char '$') ++ [Text.ofString "html"]) := by
    rw [Text.join_concat _ _ (List.splitOn_ne_nil _ _)]
    rfl
  rw [hpage]
  refine noDoubledDot_join fun piece hpiece => ?_
  rcases List.mem_append.1 hpiece with hpiece | hpiece
  · exact h.pieces piece hpiece
  · rw [List.mem_singleton.1 hpiece]
    decide

theorem packageFolder_noDot (package : Text) : CodePoint.char '.' ∉ packageFolder package := by
  intro h
  obtain ⟨c, -, hc⟩ := List.mem_map.1 h
  split_ifs at hc with hdot
  · cases hc
  · exact hdot hc

theorem HasPath.noDoubledDot (h : HasPath text pagePath) : NoDoubledDot pagePath := by
  cases h with
  | alone h => exact h.noDoubledDot
  | unnamed h => exact h.noDoubledDot
  | @packaged package simple _ h =>
    have hfolder := noDoubledDot_of_not_mem (packageFolder_noDot package)
    refine hfolder.append ?_ (.inr (by simp))
    exact NoDoubledDot.append (a := [CodePoint.char '/']) (.singleton _) h.noDoubledDot
      (.inl (by simp))

theorem NoDoubledDot.not_mem_segments (h : NoDoubledDot text) :
    Text.ofString ".." ∉ (Path.ofText text).segments := by
  intro hmem
  obtain ⟨hpiece, -⟩ := Path.mem_segments_ofText.1 hmem
  have hchain := List.IsChain.infix h (Text.infix_of_mem_splitOn hpiece)
  exact absurd hchain (by decide)

theorem not_mem_segments_of_pagePath? (hpath : pagePath? className = some pagePath) :
    Text.ofString ".." ∉ (Path.ofText pagePath).segments :=
  (pagePath?_eq_some_iff.1 hpath).noDoubledDot.not_mem_segments

end Dots

section Start

theorem IsSimple.head?_page (h : IsSimple simple) :
    (simplePage simple).head? = simple.head? := by
  obtain ⟨first, rest, hsplit⟩ := List.exists_cons_of_ne_nil
    (List.splitOn_ne_nil (CodePoint.char '$') simple)
  have hfirst : first ≠ [] := (h.pieces first (hsplit ▸ List.mem_cons_self)).1
  have hjoin (separator : Text) :
      (Text.join separator (simple.splitOn (.char '$'))).head? = first.head? := by
    rw [hsplit, Text.head?_join _ _ hfirst]
  have hsimple := hjoin [.char '$']
  rw [Text.join, List.intercalate_splitOn] at hsimple
  obtain ⟨c, more, rfl⟩ := List.exists_cons_of_ne_nil hfirst
  rw [simplePage, pageName, List.head?_append, hjoin, hsimple]
  rfl

/-- A slash at the start, perhaps behind one dot, or a dot there and another one later. -/
def startsOutside : Text → Bool
  | [] => false
  | c :: rest =>
      c == .char '/' || c == .char '.' && (rest.head? == some (.char '/') || rest.contains '.')

def leadsOutside (className : Text) : Bool := startsOutside (Text.trim className)

theorem HasPath.startsOutside_iff (h : HasPath text pagePath) :
    startsOutside text = true ↔ pagePath.head? = some (.char '/') := by
  cases h with
  | alone h =>
    rw [h.head?_page]
    have hdot := h.noDot
    cases text with
    | nil => simp [startsOutside]
    | cons c rest =>
      have hc : c ≠ .char '.' := fun hc => hdot (hc ▸ List.mem_cons_self)
      simp [startsOutside, hc]
  | @unnamed simple h =>
    rw [h.head?_page]
    simp [startsOutside, h.noDot]
  | @packaged package simple hne h =>
    obtain ⟨c, rest, rfl⟩ := List.exists_cons_of_ne_nil hne
    by_cases hc : c = .char '.' <;> simp [startsOutside, packageFolder, hc]

theorem slashes_eq_zero_iff_of_pagePath? (hpath : pagePath? className = some pagePath) :
    (Path.ofText pagePath).slashes = 0 ↔ leadsOutside className = false := by
  rw [Path.slashes_ofText_eq_zero_iff, Ne,
    ← (pagePath?_eq_some_iff.1 hpath).startsOutside_iff, Bool.not_eq_true, leadsOutside]

end Start

end ApiStubs
