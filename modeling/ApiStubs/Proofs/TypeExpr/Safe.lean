import ApiStubs.Proofs.TypeExpr.Tree
import ApiStubs.TypeExpr.Record

/-! Types all of whose names are safe, as every type is that comes from a name, from text or from a
record. Such a type is read back from its record. -/

namespace ApiStubs.TypeExpr

/-- Every name in the tree stays what it is when it is made safe, and can be written. -/
inductive Safe : TypeExpr → Prop
  | node {name : Text} {arguments : List TypeExpr} (hname : Lua.typeName name = name)
      (hne : name ≠ []) (htorn : name.isTorn = false) (harguments : ∀ t ∈ arguments, Safe t) :
      Safe ⟨name, arguments⟩

theorem safe_typeName {name : Text} {arguments : List TypeExpr} (hne : Text.trim name ≠ [])
    (htorn : (Lua.typeName name).isTorn = false) (harguments : ∀ t ∈ arguments, t.Safe) :
    Safe ⟨Lua.typeName name, arguments⟩ :=
  .node (Lua.typeName_typeName name) (fun hnil => hne (Lua.typeName_eq_nil_iff.1 hnil)) htorn
    harguments

theorem safe_of_make {name : Text} {arguments : List TypeExpr} {t : TypeExpr}
    (h : make name arguments = .ok t) (harguments : ∀ a ∈ arguments, a.Safe) : t.Safe := by
  obtain ⟨htorn, hne, rfl⟩ := make_eq_ok_iff.1 h
  exact .node (Lua.typeName_typeName name) hne htorn harguments

theorem safe_of_parse {text : Text} {t : TypeExpr} (h : parse text = .ok t) : t.Safe := by
  refine parse_induction (motive := fun _ t => t.Safe) ?_ ?_ h
  · intro text hne _ htorn
    exact safe_typeName hne htorn nofun
  · intro text name inner arguments _ _ hne htorn hpieces
    refine safe_typeName hne htorn fun t ht => ?_
    obtain ⟨piece, -, -, hsafe⟩ := exists_of_mem_forall₂ hpieces ht
    exact hsafe

theorem Safe.erased_eq {t : TypeExpr} (h : t.Safe) : t.erased = .ok ⟨t.name, []⟩ := by
  cases h with
  | node hname hne htorn _ =>
    rw [erased, make_eq_ok_iff, hname]
    exact ⟨htorn, hne, rfl⟩

theorem Safe.everyName {t : TypeExpr} (h : t.Safe) : t.EveryName fun name =>
    Lua.typeName name = name ∧ name ≠ [] ∧ name.isTorn = false := by
  induction h with
  | node hname hne htorn _ ih => exact .node ⟨hname, hne, htorn⟩ ih

section Record

theorem checkEach_eq (levels index : Nat) (items : List Json) :
    checkEach levels index items = Checked.eachFrom (checkWithin levels) index items := by
  induction items generalizing index with
  | nil => rw [checkEach, Checked.eachFrom]
  | cons value rest ih => rw [checkEach, Checked.eachFrom, ih]

theorem checkArguments_eq (levels : Nat) (members : List (Text × Json)) :
    checkArguments levels members =
      checkMemberOr [] members "arguments" (Json.checkTuple (checkWithin levels)) := by
  have htuple : checkTuple levels = Json.checkTuple (checkWithin levels) := by
    funext value
    cases value <;> simp only [checkTuple, Json.checkTuple, checkEach_eq, Checked.each]
  induction members with
  | nil => rw [checkArguments, checkMemberOr, List.lookup_nil]
  | cons member rest ih =>
    obtain ⟨key, value⟩ := member
    rw [checkArguments, ih, htuple, checkMemberOr, checkMemberOr, List.lookup_cons]
    split_ifs with hkey
    · subst hkey
      simp
    · have hne : ((Text.ofString "arguments" : Text) == key) = false := by
        simpa using fun h => hkey h.symm
      rw [hne]

theorem checkWithin_eq_ok_iff {levels : Nat} {value : Json} {t : TypeExpr} :
    checkWithin levels value = .ok t ↔
      ∃ members rest, value = .obj members ∧ levels = rest + 1 ∧
        checkMember members "name" checkNameText = .ok t.name ∧
        checkMemberOr [] members "arguments" (Json.checkTuple (checkWithin rest)) =
          .ok t.arguments := by
  constructor
  · intro h
    cases value with
    | obj members =>
      rw [checkWithin] at h
      split_ifs at h with hzero
      · exact absurd h Checked.refuse_ne_ok
      · obtain ⟨g, arguments, hg, harguments, rfl⟩ := Checked.seq_eq_ok_iff.1 h
        obtain ⟨name, hname, rfl⟩ := Checked.map_eq_ok_iff.1 hg
        rw [checkArguments_eq] at harguments
        exact ⟨members, levels - 1, rfl, by omega, hname, harguments⟩
    | _ =>
      rw [checkWithin] at h
      · exact absurd h Checked.refuse_ne_ok
      · exact nofun
  · rintro ⟨members, rest, rfl, rfl, hname, harguments⟩
    rw [checkWithin, if_neg (Nat.succ_ne_zero rest), checkArguments_eq, Nat.add_sub_cancel]
    cases t
    exact Checked.seq_eq_ok (Checked.map_eq_ok hname) harguments

theorem depth_le_iff {name : Text} {arguments : List TypeExpr} {levels : Nat} :
    depth ⟨name, arguments⟩ ≤ levels ↔
      ∃ rest, levels = rest + 1 ∧ ∀ t ∈ arguments, t.depth ≤ rest := by
  have hall : ∀ rest, depthOfAll arguments ≤ rest ↔ ∀ t ∈ arguments, t.depth ≤ rest := by
    intro rest
    induction arguments with
    | nil => simp [depthOfAll]
    | cons t more ih => rw [depthOfAll, Nat.max_le, ih, List.forall_mem_cons]
  rw [depth]
  constructor
  · exact fun h => ⟨levels - 1, by omega, (hall _).1 (by omega)⟩
  · rintro ⟨rest, rfl, h⟩
    exact Nat.succ_le_succ ((hall rest).2 h)

theorem safe_of_checkWithin {levels : Nat} {value : Json} {t : TypeExpr}
    (h : checkWithin levels value = .ok t) : t.Safe ∧ t.depth ≤ levels := by
  induction levels generalizing value t with
  | zero =>
    obtain ⟨_, _, _, hlevels, _⟩ := checkWithin_eq_ok_iff.1 h
    cases hlevels
  | succ levels ih =>
    obtain ⟨members, rest, -, hlevels, hname, harguments⟩ := checkWithin_eq_ok_iff.1 h
    cases hlevels
    obtain ⟨name, hname⟩ := Json.checkMember_eq_ok hname
    obtain ⟨htorn, hne, heq⟩ := Json.checkNonEmpty_eq_ok_iff.1 hname
    have hall : ∀ a ∈ t.arguments, a.Safe ∧ a.depth ≤ levels := by
      rcases Json.checkMemberOr_eq_ok harguments with hnil | ⟨items, hitems⟩
      · simp [hnil]
      · intro a ha
        obtain ⟨item, hitem⟩ := Json.checkTuple_eq_ok hitems ha
        exact ih hitem
    cases t with
    | mk name arguments =>
      subst heq
      exact ⟨.node (Lua.typeName_typeName _) hne htorn fun a ha => (hall a ha).1,
        depth_le_iff.2 ⟨levels, rfl, fun a ha => (hall a ha).2⟩⟩

theorem toJsons_eq_map (arguments : List TypeExpr) :
    toJsons arguments = arguments.map toJson := by
  induction arguments with
  | nil => rfl
  | cons t rest ih => rw [toJsons, ih, List.map_cons]

theorem Safe.checkWithin_toJson {t : TypeExpr} (h : t.Safe) {levels : Nat}
    (hdepth : t.depth ≤ levels) : checkWithin levels t.toJson = .ok t := by
  induction h generalizing levels with
  | @node name arguments hname hne htorn _ ih =>
    obtain ⟨rest, rfl, hall⟩ := depth_le_iff.1 hdepth
    have harguments : Json.checkTuple (checkWithin rest) (.arr (arguments.map toJson)) =
        .ok arguments :=
      Json.checkTuple_map fun t ht => ih t ht (hall t ht)
    rw [checkWithin_eq_ok_iff, toJson, toJsons_eq_map]
    refine ⟨_, rest, rfl, rfl, Json.checkMember_eq_ok_of_lookup rfl ?_,
      Json.checkMemberOr_eq_ok_of_lookup rfl harguments⟩
    change Json.checkNonEmpty (Lua.typeName name) = .ok name
    exact Json.checkNonEmpty_eq_ok_iff.2 ⟨by rwa [hname], by rwa [hname], hname.symm⟩

end Record

inductive Constructed : TypeExpr → Prop
  | made {name : Text} {arguments : List TypeExpr} {t : TypeExpr}
      (harguments : ∀ a ∈ arguments, Constructed a) (h : make name arguments = .ok t) :
      Constructed t
  | checked {levels : Nat} {value : Json} {t : TypeExpr} (h : checkWithin levels value = .ok t) :
      Constructed t

theorem Constructed.safe {t : TypeExpr} (h : t.Constructed) : t.Safe := by
  induction h with
  | made _ h ih => exact safe_of_make h ih
  | checked h => exact (safe_of_checkWithin h).1

theorem Safe.constructed {t : TypeExpr} (h : t.Safe) : t.Constructed := by
  induction h with
  | node hname hne htorn _ ih =>
    exact .made ih (make_eq_ok_iff.2 ⟨by rwa [hname], by rwa [hname], by rw [hname]⟩)

end ApiStubs.TypeExpr
