import ApiStubs.Proofs.TypeExpr.Reparse
import ApiStubs.Proofs.TypeExpr.Safe

/-! The layouts of a type: all the texts that show a tree of names, with blanks wherever they may
stand and with blank arguments among the others. Reading any of them gives the tree back with safe
names, unless a name is torn. -/

namespace ApiStubs

namespace TypeExpr
open Lua (isMark)

structure IsBase (name : Text) : Prop where
  ne_nil : Text.trim name ≠ []
  plain : ∀ c ∈ name, isMark c = false

instance (name : Text) : Decidable (IsBase name) :=
  decidable_of_iff (Text.trim name ≠ [] ∧ ∀ c ∈ name, isMark c = false)
    ⟨fun h => ⟨h.1, h.2⟩, fun h => ⟨h.ne_nil, h.plain⟩⟩

mutual
/-- A name between blanks; behind it come brackets around the arguments, or none if there is no
argument. -/
inductive Layout : TypeExpr → Text → Prop
  | bare {name before after : Text} (hbefore : before.IsBlank) (hafter : after.IsBlank) :
      Layout ⟨name, []⟩ (before ++ (name ++ after))
  | applied {name before middle inner after : Text} {arguments : List TypeExpr}
      (hbefore : before.IsBlank) (hmiddle : middle.IsBlank) (hinner : LayoutAll arguments inner)
      (hafter : after.IsBlank) :
      Layout ⟨name, arguments⟩
        (before ++ ((name ++ (middle ++ .char '<' :: (inner ++ [.char '>']))) ++ after))

inductive LayoutAll : List TypeExpr → Text → Prop
  | blank {piece : Text} (h : piece.IsBlank) : LayoutAll [] piece
  | one {t : TypeExpr} {piece : Text} (h : Layout t piece) : LayoutAll [t] piece
  | skip {arguments : List TypeExpr} {piece rest : Text} (h : piece.IsBlank)
      (hrest : LayoutAll arguments rest) : LayoutAll arguments (piece ++ .char ',' :: rest)
  | more {t : TypeExpr} {arguments : List TypeExpr} {piece rest : Text} (h : Layout t piece)
      (hrest : LayoutAll arguments rest) : LayoutAll (t :: arguments) (piece ++ .char ',' :: rest)
end

section Balanced

/-- Every bracket that is opened is closed, and no comma stands less deep than `least`. -/
structure Balanced (least : Int) (text : Text) : Prop where
  depth : depthThrough 0 text = 0
  commas : ∀ k ∈ commaDepths 0 text, least ≤ k

variable {least : Int} {a b : Text}

theorem Balanced.of_plain (h : ∀ c ∈ a, isMark c = false) : Balanced least a :=
  ⟨depthThrough_plain h 0, by simp [commaDepths_plain h]⟩

theorem Balanced.of_isBlank (h : a.IsBlank) : Balanced least a :=
  .of_plain fun c hc => not_isMark_of_isBlank (h c hc)

theorem Balanced.append (ha : Balanced least a) (hb : Balanced least b) :
    Balanced least (a ++ b) := by
  refine ⟨by rw [depthThrough_append, ha.depth, hb.depth], fun k hk => ?_⟩
  rw [commaDepths_append, ha.depth, List.mem_append] at hk
  exact hk.elim (ha.commas k) (hb.commas k)

theorem Balanced.append_comma (ha : Balanced 1 a) (hb : Balanced 0 b) :
    Balanced 0 (a ++ .char ',' :: b) := by
  refine ⟨?_, fun k hk => ?_⟩
  · rw [depthThrough_append, ha.depth, depthThrough_cons, depthAfter_comma, hb.depth]
  · have hk : k ∈ commaDepths 0 a ∨ k = 0 ∨ k ∈ commaDepths 0 b := by
      simpa [commaDepths, ha.depth] using hk
    rcases hk with hk | rfl | hk
    · exact Int.le_trans (by decide) (ha.commas k hk)
    · exact Int.le_refl 0
    · exact hb.commas k hk

theorem Balanced.enclose (h : Balanced 0 a) : Balanced 1 (.char '<' :: (a ++ [.char '>'])) := by
  have hdepth : depthThrough 1 a = 1 := by rw [depthThrough_eq_add, h.depth, Int.zero_add]
  refine ⟨?_, fun k hk => ?_⟩
  · simp [hdepth]
  · have hk : k ∈ commaDepths 1 a := by simpa [commaDepths, hdepth] using hk
    have hle := h.commas _ (mem_commaDepths_iff.1 hk)
    omega

theorem Balanced.not_mem (h : Balanced 1 a) : 0 ∉ commaDepths 0 a :=
  fun hzero => absurd (h.commas 0 hzero) (by decide)

end Balanced

structure ReadsAs (t : TypeExpr) (text : Text) : Prop where
  balanced : Balanced 1 text
  ne_nil : Text.trim text ≠ []
  parse_eq_ok_iff : ∀ u, parse text = .ok u ↔
    t.EveryName (fun name => name.isTorn = false) ∧ u = t.renamed Lua.typeName

structure ReadsAsAll (arguments : List TypeExpr) (inner : Text) : Prop where
  balanced : Balanced 0 inner
  mapM_parse : ∀ us, (cutArguments inner).mapM parse = .ok us ↔
    (∀ t ∈ arguments, t.EveryName fun name => name.isTorn = false) ∧
      us = arguments.map (renamed Lua.typeName)

section Reading

variable {t u : TypeExpr} {name before middle inner after text piece rest : Text}
  {arguments us : List TypeExpr}

theorem cutArguments_of_isBlank (h : piece.IsBlank) : cutArguments piece = [] := by
  have hbalanced : Balanced 1 piece := .of_isBlank h
  rw [cutArguments_of_not_mem hbalanced.not_mem, if_pos h.trim_eq]

theorem ReadsAs.cutArguments_eq (h : ReadsAs t piece) : cutArguments piece = [Text.trim piece] := by
  rw [cutArguments_of_not_mem h.balanced.not_mem, if_neg h.ne_nil]

theorem ReadsAs.mapM_cons (h : ReadsAs t piece) (pieces : List Text) :
    (Text.trim piece :: pieces).mapM parse = .ok us ↔
      t.EveryName (fun name => name.isTorn = false) ∧
        ∃ others, pieces.mapM parse = .ok others ∧ us = t.renamed Lua.typeName :: others := by
  rw [List.mapM_cons, parse_trim, bind_eq_ok_iff]
  constructor
  · rintro ⟨u, hu, hrest⟩
    obtain ⟨others, hothers, hreturn⟩ := bind_eq_ok_iff.1 hrest
    obtain ⟨hwhole, rfl⟩ := (h.parse_eq_ok_iff u).1 hu
    cases hreturn
    exact ⟨hwhole, others, hothers, rfl⟩
  · rintro ⟨hwhole, others, hothers, rfl⟩
    exact ⟨_, (h.parse_eq_ok_iff _).2 ⟨hwhole, rfl⟩, bind_eq_ok_iff.2 ⟨others, hothers, rfl⟩⟩

theorem readsAsAll_blank (h : piece.IsBlank) : ReadsAsAll [] piece := by
  refine ⟨.of_isBlank h, fun us => ?_⟩
  rw [cutArguments_of_isBlank h, mapM_eq_ok_iff, List.forall₂_nil_left_iff]
  simp

theorem ReadsAs.one (h : ReadsAs t piece) : ReadsAsAll [t] piece := by
  refine ⟨⟨h.balanced.depth, fun k hk => Int.le_trans (by decide) (h.balanced.commas k hk)⟩,
    fun us => ?_⟩
  rw [h.cutArguments_eq, h.mapM_cons]
  simp [pure, Except.pure]

theorem ReadsAsAll.skip (h : piece.IsBlank) (hrest : ReadsAsAll arguments rest) :
    ReadsAsAll arguments (piece ++ .char ',' :: rest) := by
  have hpiece : Balanced 1 piece := .of_isBlank h
  refine ⟨hpiece.append_comma hrest.balanced, fun us => ?_⟩
  rw [cutArguments_append_comma hpiece.depth, cutArguments_of_isBlank h,
    List.nil_append]
  exact hrest.mapM_parse us

theorem ReadsAs.more (h : ReadsAs t piece) (hrest : ReadsAsAll arguments rest) :
    ReadsAsAll (t :: arguments) (piece ++ .char ',' :: rest) := by
  refine ⟨h.balanced.append_comma hrest.balanced, fun us => ?_⟩
  rw [cutArguments_append_comma h.balanced.depth, h.cutArguments_eq,
    List.singleton_append, h.mapM_cons, List.forall_mem_cons, List.map_cons, and_assoc]
  refine and_congr_right fun _ => ?_
  constructor
  · rintro ⟨others, hothers, rfl⟩
    obtain ⟨hwhole, rfl⟩ := (hrest.mapM_parse others).1 hothers
    exact ⟨hwhole, rfl⟩
  · rintro ⟨hwhole, rfl⟩
    exact ⟨_, (hrest.mapM_parse _).2 ⟨hwhole, rfl⟩, rfl⟩

theorem IsBase.make_eq_ok_iff (hname : IsBase name) :
    make (Text.trim name) us = .ok u ↔ name.isTorn = false ∧ u = ⟨Lua.typeName name, us⟩ := by
  have hne : Lua.typeName name ≠ [] := fun hnil => hname.ne_nil (Lua.typeName_eq_nil_iff.1 hnil)
  rw [TypeExpr.make_eq_ok_iff, Lua.typeName_trim, Lua.isTorn_typeName]
  simp [hne]

theorem IsBase.not_opening (hname : IsBase name) : ∀ c ∈ name, c ≠ '<' := by
  rintro c hc rfl
  exact absurd (hname.plain _ hc) (by decide)

theorem readsAs_bare (hname : IsBase name) (hbefore : before.IsBlank) (hafter : after.IsBlank) :
    ReadsAs ⟨name, []⟩ (before ++ (name ++ after)) := by
  have htrim := Text.trim_between hbefore hafter name
  have hcut : cutBrackets? (Text.trim name) = none :=
    cutBrackets?_eq_none_of_not_mem fun c hc => hname.not_opening c (Text.mem_of_mem_trim hc)
  refine ⟨.append (.of_isBlank hbefore) (.append (.of_plain hname.plain) (.of_isBlank hafter)),
    htrim ▸ hname.ne_nil, fun u => ?_⟩
  rw [parse_eq, htrim, hcut, if_neg (by simpa using hname.ne_nil), everyName_iff, renamed_eq]
  dsimp only
  rw [hname.make_eq_ok_iff]
  simp

theorem exists_cut (hname : IsBase name) (hmiddle : middle.IsBlank) (inner : Text) :
    ∃ left, Text.trim (name ++ (middle ++ .char '<' :: (inner ++ [.char '>']))) =
        left ++ (.char '<' :: (inner ++ [.char '>'])) ∧
      (∀ c ∈ left, c ≠ CodePoint.char '<') ∧ Text.trim left = Text.trim name := by
  obtain ⟨before, after, heq, hbefore, hafter⟩ := Text.eq_append_trim_append name
  have hblank : Text.IsBlank (after ++ middle) := Text.IsBlank.append hafter hmiddle
  have hnone : Text.IsBlank [] := List.forall_mem_nil _
  -- the blanks behind the name stay in front of the bracket and go with the name's own
  refine ⟨Text.trim name ++ (after ++ middle), ?_, fun c hc => ?_, ?_⟩
  · have htrim := Text.isTrimmed_append_singleton (Text.isTrimmed_trim name) hname.ne_nil
      (after ++ middle ++ .char '<' :: inner) (show Text.isBlank (.char '>') = false by decide)
    have hwhole := Text.trim_eq_of_append hbefore hnone htrim
    conv_lhs => rw [heq]
    simpa only [List.append_assoc, List.cons_append, List.append_nil] using hwhole
  · rcases List.mem_append.1 hc with hc | hc
    · exact hname.not_opening c (Text.mem_of_mem_trim hc)
    · rintro rfl
      exact absurd (hblank _ hc) (by decide)
  · have htrim := Text.trim_between hnone hblank (Text.trim name)
    rwa [List.nil_append, Text.trim_trim] at htrim

theorem readsAs_applied (hname : IsBase name) (hbefore : before.IsBlank) (hmiddle : middle.IsBlank)
    (hafter : after.IsBlank) (hinner : ReadsAsAll arguments inner) :
    ReadsAs ⟨name, arguments⟩
      (before ++ ((name ++ (middle ++ .char '<' :: (inner ++ [.char '>']))) ++ after)) := by
  obtain ⟨left, hleft, hopening, hsame⟩ := exists_cut hname hmiddle inner
  have htrim := (Text.trim_between hbefore hafter _).trans hleft
  have hcut := @cutBrackets?_eq_some_iff _ left inner |>.2 ⟨rfl, hopening⟩
  have hbalanced : Balanced 1 (name ++ (middle ++ .char '<' :: (inner ++ [.char '>']))) :=
    .append (.of_plain hname.plain) (.append (.of_isBlank hmiddle) hinner.balanced.enclose)
  refine ⟨.append (.of_isBlank hbefore) (.append hbalanced (.of_isBlank hafter)),
    htrim ▸ List.append_ne_nil_of_right_ne_nil _ (List.cons_ne_nil _ _), fun u => ?_⟩
  rw [parse_eq, htrim, hcut, if_neg (by simp), everyName_iff, renamed_eq]
  dsimp only
  rw [hsame, if_neg (by simpa using hname.ne_nil), bind_eq_ok_iff]
  constructor
  · rintro ⟨us, hus, hmake⟩
    obtain ⟨hwholes, rfl⟩ := (hinner.mapM_parse us).1 hus
    obtain ⟨hwhole, rfl⟩ := hname.make_eq_ok_iff.1 hmake
    exact ⟨⟨hwhole, hwholes⟩, rfl⟩
  · rintro ⟨⟨hwhole, hwholes⟩, rfl⟩
    exact ⟨_, (hinner.mapM_parse _).2 ⟨hwholes, rfl⟩, hname.make_eq_ok_iff.2 ⟨hwhole, rfl⟩⟩

mutual
theorem Layout.readsAs {t : TypeExpr} {text : Text} (h : Layout t text)
    (hbase : t.EveryName IsBase) : ReadsAs t text :=
  match h with
  | .bare hbefore hafter => readsAs_bare (everyName_iff.1 hbase).1 hbefore hafter
  | .applied hbefore hmiddle hinner hafter =>
      readsAs_applied (everyName_iff.1 hbase).1 hbefore hmiddle hafter
        (hinner.readsAsAll (everyName_iff.1 hbase).2)

theorem LayoutAll.readsAsAll {arguments : List TypeExpr} {inner : Text}
    (h : LayoutAll arguments inner) (hbase : ∀ t ∈ arguments, t.EveryName IsBase) :
    ReadsAsAll arguments inner :=
  match h with
  | .blank hpiece => readsAsAll_blank hpiece
  | .one hpiece => (hpiece.readsAs (hbase _ List.mem_cons_self)).one
  | .skip hpiece hrest => (hrest.readsAsAll hbase).skip hpiece
  | .more hpiece hrest => (hpiece.readsAs (hbase _ List.mem_cons_self)).more
      (hrest.readsAsAll fun t ht => hbase t (List.mem_cons_of_mem _ ht))
end

end Reading

section Render

variable {t : TypeExpr} {text : Text} {arguments : List TypeExpr}

theorem Layout.cons_blank {c : CodePoint} (hc : Text.isBlank c = true) (h : Layout t text) :
    Layout t (c :: text) := by
  cases h with
  | bare hbefore hafter => exact .bare (List.forall_mem_cons.2 ⟨hc, hbefore⟩) hafter
  | applied hbefore hmiddle hinner hafter =>
    exact .applied (List.forall_mem_cons.2 ⟨hc, hbefore⟩) hmiddle hinner hafter

theorem LayoutAll.cons_blank {c : CodePoint} (hc : Text.isBlank c = true)
    (h : LayoutAll arguments text) : LayoutAll arguments (c :: text) := by
  cases h with
  | blank h => exact .blank (List.forall_mem_cons.2 ⟨hc, h⟩)
  | one h => exact .one (h.cons_blank hc)
  | skip h hrest => exact .skip (List.forall_mem_cons.2 ⟨hc, h⟩) hrest
  | more h hrest => exact .more (h.cons_blank hc) hrest

theorem layoutAll_renderAll (h : ∀ t ∈ arguments, Layout t t.render) (hne : arguments ≠ []) :
    LayoutAll arguments (renderAll arguments) := by
  induction arguments with
  | nil => exact absurd rfl hne
  | cons t rest ih =>
    have ht := h t List.mem_cons_self
    by_cases hlast : rest = []
    · subst hlast
      rw [renderAll]
      exact .one ht
    · rw [renderAll_cons t hlast]
      have hrest := ih (fun u hu => h u (List.mem_cons_of_mem _ hu)) hlast
      exact .more ht (hrest.cons_blank (by decide))

theorem layout_render (t : TypeExpr) : Layout t t.render := by
  have hnone : Text.IsBlank [] := List.forall_mem_nil _
  induction t using tree_induction with
  | node name arguments ih =>
    rw [render_eq]
    split_ifs with hargs
    · subst hargs
      simpa using @Layout.bare name [] [] hnone hnone
    · simpa using @Layout.applied name [] [] _ [] arguments hnone hnone
        (layoutAll_renderAll ih hargs) hnone

end Render

end TypeExpr

/-- A tree of base names is read from any of its layouts, every name of it made safe, unless a name
is torn: then none of the layouts is read. So a type without brackets and commas in its names is
read from what it is written as. -/
theorem layouts_are_read :
    (∀ t text, t.EveryName TypeExpr.IsBase → TypeExpr.Layout t text →
      (t.EveryName (fun name => name.isTorn = false) →
        TypeExpr.parse text = .ok (t.renamed Lua.typeName)) ∧
      (¬t.EveryName (fun name => name.isTorn = false) →
        ∃ fault, TypeExpr.parse text = .error fault)) ∧
    ∀ t, TypeExpr.Constructed t → (t.EveryName fun name => ∀ c ∈ name, Lua.isMark c = false) →
      TypeExpr.parse t.render = .ok t := by
  refine ⟨fun t text hbase hlayout => ⟨fun hwhole => ?_, fun htorn => ?_⟩, fun t ht hplain => ?_⟩
  · exact ((hlayout.readsAs hbase).parse_eq_ok_iff _).2 ⟨hwhole, rfl⟩
  · cases hparse : TypeExpr.parse text with
    | error fault => exact ⟨fault, rfl⟩
    | ok u => exact absurd (((hlayout.readsAs hbase).parse_eq_ok_iff u).1 hparse).1 htorn
  · have hsafe := ht.safe.everyName
    have hbase : t.EveryName TypeExpr.IsBase := by
      refine (hsafe.and hplain).imp fun name h => ⟨fun hnil => h.1.2.1 ?_, h.2⟩
      rw [← h.1.1, Lua.typeName_eq_nil_iff.2 hnil]
    have hread := ((t.layout_render.readsAs hbase).parse_eq_ok_iff _).2
      ⟨hsafe.imp fun name h => h.2.2, rfl⟩
    rwa [(hsafe.imp fun name h => h.1).renamed_eq_self] at hread

/-- Blanks around everything, a wildcard, blank arguments first, last and in between, and empty
brackets. -/
theorem layouts_are_read_blank_arguments :
    let t : TypeExpr :=
      ⟨"STRING", [⟨"Map", [⟨"Any", []⟩, ⟨"? extends T", []⟩]⟩, ⟨"c ", []⟩]⟩
    let text : Text := " STRING\t<, Map< Any ,,? extends T > ,\nc <> ,  >"
    let u : TypeExpr :=
      ⟨"string", [⟨"Map", [⟨"any", []⟩, ⟨"? extends T", []⟩]⟩, ⟨"c", []⟩]⟩
    t.EveryName TypeExpr.IsBase ∧ TypeExpr.Layout t text ∧
      t.EveryName (fun name => name.isTorn = false) ∧ TypeExpr.parse text = .ok u ∧
      u.Constructed ∧ (u.EveryName fun name => ∀ c ∈ name, Lua.isMark c = false) ∧
      TypeExpr.parse u.render = .ok u := by
  intro t text u
  have hbase : t.EveryName TypeExpr.IsBase := by decide +kernel
  have hwhole : t.EveryName fun name => name.isTorn = false := by decide +kernel
  have hplain : u.EveryName fun name => ∀ c ∈ name, Lua.isMark c = false := by decide +kernel
  have hlayout : TypeExpr.Layout t text := by
    have hnone : Text.IsBlank [] := by decide
    have hspace : Text.IsBlank " " := by decide
    have hany := @TypeExpr.Layout.bare "Any" " " " " hspace hspace
    have hwildcard := @TypeExpr.Layout.bare "? extends T" [] " " hnone hspace
    have hmap := @TypeExpr.Layout.applied "Map" " " [] _ " " _ hspace hnone
      (.more hany (.skip hnone (.one hwildcard))) hspace
    have hlast := @TypeExpr.Layout.applied "c " "\n" [] _ " " _ (by decide) hnone (.blank hnone)
      hspace
    have hblanks : Text.IsBlank "  " := by decide
    have htree := @TypeExpr.Layout.applied "STRING" " " "\t" _ [] _ hspace (by decide)
      (.skip hnone (.more hmap (.more hlast (.blank hblanks)))) hnone
    exact cast (congrArg (TypeExpr.Layout t) (by decide +kernel)) htree
  obtain ⟨hread, hagain⟩ := layouts_are_read
  have hparse := (hread t text hbase hlayout).1 hwhole
  have hrenamed : t.renamed Lua.typeName = u := by decide +kernel
  rw [hrenamed] at hparse
  have hmade : u.Constructed := (TypeExpr.safe_of_parse hparse).constructed
  exact ⟨hbase, hlayout, hwhole, hparse, hmade, hplain, hagain u hmade hplain⟩

/-- A base name that holds half of a surrogate pair is not read, although nothing but this name
stands in the text. -/
theorem torn_name_is_not_read :
    let t : TypeExpr := ⟨[.surrogate 0], []⟩
    t.EveryName TypeExpr.IsBase ∧ TypeExpr.Layout t [.surrogate 0] ∧
      ∀ u, TypeExpr.parse [.surrogate 0] ≠ .ok u := by
  intro t
  refine ⟨by decide +kernel, @TypeExpr.Layout.bare [.surrogate 0] [] [] nofun nofun, ?_⟩
  intro u hu
  have hnone : (TypeExpr.parse [.surrogate 0]).toOption = none := by decide +kernel
  rw [hu] at hnone
  cases hnone

end ApiStubs
