import ApiStubs.Proofs.Files.Tree

/-! Directories that are made, and files that are written: what is elsewhere stays, and every path
that led somewhere still leads there. -/

namespace ApiStubs.FileTree

variable {t t' t'' : FileTree} {p : Path} {place goal target : Place} {node : Node}

theorem node?_put_self (h : target.down ≠ []) : (t.put target node).node? target = some node := by
  rw [node?, if_neg h, put, List.lookup_cons_self]

theorem down_ne_nil (h : t.node? place ≠ some .directory) : place.down ≠ [] := by
  intro hnil
  rw [node?, if_pos hnil] at h
  exact h rfl

def Grows (P : Place → Prop) (t t' : FileTree) : Prop :=
  ∀ place, t'.node? place = t.node? place ∨
    t.node? place = none ∧ t'.node? place = some .directory ∧ P place

def KeepsDirectories (t t' : FileTree) : Prop :=
  ∀ place, t.node? place = some .directory → t'.node? place = some .directory

namespace Grows

variable {P Q : Place → Prop}

theorem refl (t : FileTree) : Grows P t t := fun _ => .inl rfl

theorem mono (h : Grows P t t') (hPQ : ∀ place, P place → Q place) : Grows Q t t' := fun place =>
  (h place).imp_right fun hmade => ⟨hmade.1, hmade.2.1, hPQ place hmade.2.2⟩

theorem trans (h : Grows P t t') (h' : Grows P t' t'') : Grows P t t'' := by
  intro place
  rcases h place with hsame | ⟨hnone, hmade, hP⟩
  · rcases h' place with hsame' | ⟨hnone', hmade', hP⟩
    · exact .inl (hsame'.trans hsame)
    · exact .inr ⟨hsame ▸ hnone', hmade', hP⟩
  · rcases h' place with hsame' | ⟨hnone', -, -⟩
    · exact .inr ⟨hnone, hsame'.trans hmade, hP⟩
    · rw [hmade] at hnone'
      cases hnone'

theorem keepsDirectories (h : Grows P t t') : KeepsDirectories t t' := by
  intro place hplace
  rcases h place with hsame | ⟨hnone, -, -⟩
  · exact hsame.trans hplace
  · rw [hplace] at hnone
    cases hnone

end Grows

theorem keepsDirectories_put (h : t.node? target ≠ some .directory) (node : Node) :
    KeepsDirectories t (t.put target node) := by
  intro place hplace
  have hne : place ≠ target := fun heq => h (heq ▸ hplace)
  rw [node?_put_of_ne hne, hplace]

theorem KeepsDirectories.walk (h : KeepsDirectories t t') {names : List (List UInt8)}
    (hwalk : t.walk place names = .ok goal) : t'.walk place names = .ok goal := by
  induction names generalizing place with
  | nil => exact hwalk
  | cons name rest ih =>
    rw [FileTree.walk] at hwalk ⊢
    split at hwalk
    · cases hwalk
    · cases hwalk
    · rename_i hnode
      rw [h place hnode]
      dsimp only
      split_ifs at hwalk ⊢ <;> exact ih hwalk

theorem KeepsDirectories.locate (h : KeepsDirectories t t') (hlocate : t.locate p = .ok place) :
    t'.locate p = .ok place := by
  obtain ⟨octets, hoctets, hrest⟩ := bind_eq_ok_iff.1 hlocate
  obtain ⟨names, hnames, hwalk⟩ := bind_eq_ok_iff.1 hrest
  refine bind_eq_ok_iff.2 ⟨octets, hoctets, bind_eq_ok_iff.2 ⟨names, hnames, ?_⟩⟩
  split_ifs at hwalk ⊢
  rw [h.walk (mapError_eq_ok hwalk)]
  rfl

theorem makeDirectory_eq_ok (h : t.makeDirectory p = .ok t') :
    ∃ place, t.locate p = .ok place ∧ t.node? place = none ∧ t' = t.put place .directory := by
  obtain ⟨place, hlocate, hmake⟩ := bind_eq_ok_iff.1 h
  cases hnode : t.node? place with
  | some node =>
    rw [hnode] at hmake
    cases hmake
  | none =>
    rw [hnode] at hmake
    cases hmake
    exact ⟨place, hlocate, hnode, rfl⟩

theorem write_eq_ok {octets : List UInt8} (h : t.write p octets = .ok t') :
    ∃ place, t.locate p = .ok place ∧ t.node? place ≠ some .directory ∧
      t' = t.put place (.file octets) := by
  obtain ⟨place, hlocate, hwrite⟩ := bind_eq_ok_iff.1 h
  split_ifs at hwrite with hdirectory
  cases hwrite
  exact ⟨place, hlocate, hdirectory, rfl⟩

theorem grows_makeDirectory (h : t.makeDirectory p = .ok t') :
    Grows (fun place => t'.locate p = .ok place) t t' := by
  obtain ⟨target, hlocate, hnone, rfl⟩ := makeDirectory_eq_ok h
  have hnot : t.node? target ≠ some .directory := by simp [hnone]
  intro place
  by_cases heq : place = target
  · subst heq
    exact .inr ⟨hnone, node?_put_self (down_ne_nil hnot),
      (keepsDirectories_put hnot .directory).locate hlocate⟩
  · exact .inl (node?_put_of_ne heq)

/-- A path with these slashes and the first of these segments leads to the place. -/
def LeadsTo (t : FileTree) (slashes : Nat) (segments : List Text) (place : Place) : Prop :=
  ∃ upper, upper <+: segments ∧ t.locate ⟨slashes, upper⟩ = .ok place

theorem grows_makeAll (slashes : Nat) (segments : List Text) (t : FileTree) :
    Grows ((makeAll slashes segments t).1.LeadsTo slashes segments.reverse) t
      (makeAll slashes segments t).1 := by
  induction segments generalizing t with
  | nil => exact .refl t
  | cons segment above ih =>
    have hprefix : above.reverse <+: (segment :: above).reverse := by
      rw [List.reverse_cons]
      exact List.prefix_append _ _
    have hself {t t' : FileTree}
        (h : t.makeDirectory ⟨slashes, (segment :: above).reverse⟩ = .ok t') :
        Grows (t'.LeadsTo slashes (segment :: above).reverse) t t' :=
      (grows_makeDirectory h).mono fun place hplace => ⟨_, List.prefix_refl _, hplace⟩
    have habove {t' : FileTree} {place : Place} (h : t'.LeadsTo slashes above.reverse place) :
        t'.LeadsTo slashes (segment :: above).reverse place := by
      obtain ⟨upper, hupper, hlocate⟩ := h
      exact ⟨upper, hupper.trans hprefix, hlocate⟩
    rw [makeAll]
    split
    · exact hself ‹_›
    · have hgrown := ih t
      split
      · rename_i t₁ fault hrec
        rw [hrec] at hgrown
        exact hgrown.mono fun place => habove
      · rename_i t₁ hrec
        rw [hrec] at hgrown
        split
        · rename_i t₂ hmake
          have hlast := hself hmake
          refine Grows.trans (hgrown.mono fun place hplace => ?_) hlast
          obtain ⟨upper, hupper, hlocate⟩ := habove hplace
          exact ⟨upper, hupper, hlast.keepsDirectories.locate hlocate⟩
        · exact hgrown.mono fun place => habove
        · exact hgrown.mono fun place => habove
    · exact .refl t

/-- Nothing is written but one file, nor anything made but directories on the way to it. -/
structure OnlySaves (path : Path) (octets : List UInt8) (t t' : FileTree) : Prop where
  saved : t'.read path = .ok octets
  others : ∀ place, t'.locate path ≠ .ok place → t'.node? place = t.node? place ∨
    t.node? place = none ∧ t'.node? place = some .directory ∧
      t'.LeadsTo path.parent.slashes path.parent.segments place

theorem onlySaves_write {octets : List UInt8} (hmade : t.makeDirectories p.parent = (t', none))
    (hwrite : t'.write p octets = .ok t'') : OnlySaves p octets t t'' := by
  have hgrown := grows_makeAll p.parent.slashes p.parent.segments.reverse t
  rw [show makeAll p.parent.slashes p.parent.segments.reverse t = (t', none) from hmade,
    List.reverse_reverse] at hgrown
  obtain ⟨target, hlocate, hnot, rfl⟩ := write_eq_ok hwrite
  have hkeeps := keepsDirectories_put hnot (.file octets)
  have hlocated := hkeeps.locate hlocate
  refine ⟨?_, fun place hplace => ?_⟩
  · have hnode : (t'.put target (.file octets)).nodeAt p = .ok (.file octets) :=
      bind_eq_ok_iff.2 ⟨target, hlocated, by rw [node?_put_self (down_ne_nil hnot)]⟩
    exact bind_eq_ok_iff.2 ⟨_, hnode, rfl⟩
  · have hne : place ≠ target := fun heq => hplace (heq ▸ hlocated)
    rw [node?_put_of_ne hne]
    refine (hgrown place).imp_right fun ⟨hnone, hdirectory, upper, hupper, hleads⟩ => ?_
    exact ⟨hnone, hdirectory, upper, hupper, hkeeps.locate hleads⟩

end ApiStubs.FileTree
