import ApiStubs.Proofs.TypeExpr.Commas
import ApiStubs.Proofs.TypeExpr.Parsing

/-! A type that was read from text is read again from its written form. The written form may differ
from the text, yet it has the same bracket depth in the end and no comma at a depth at which the
text has none, so every enclosing cut finds the same pieces. -/

namespace ApiStubs.TypeExpr
open Lua (isMark)

/-- A text that may stand in the place of another without a change to the cuts around it. -/
structure Echoes (text rendered : Text) : Prop where
  depth : depthThrough 0 rendered = depthThrough 0 text
  commas : ∀ k ∈ commaDepths 0 rendered, k ∈ commaDepths 0 text

/-- What a type keeps of the text that it was read from. -/
structure Settled (text : Text) (t : TypeExpr) : Prop where
  echoes : Echoes text t.render
  trimmed : Text.IsTrimmed t.render
  ne_nil : t.render ≠ []
  reparse : parse t.render = .ok t

theorem Echoes.of_trim {text rendered : Text} (h : Echoes (Text.trim text) rendered) :
    Echoes text rendered :=
  ⟨h.depth.trans (depthThrough_trim 0 text), fun k hk => commaDepths_trim 0 text ▸ h.commas k hk⟩

theorem echoes_typeName (text : Text) : Echoes text (Lua.typeName text) := by
  rcases Lua.typeName_cases text with h | ⟨hmem, hplain⟩
  · rw [h]
    exact ⟨depthThrough_trim 0 text, fun k hk => commaDepths_trim 0 text ▸ hk⟩
  · have hnone := (Lua.builtInTypes_fixed _ hmem).2.2.2.2
    have hsafe : ∀ c ∈ Lua.typeName text, isMark c = false := by
      simpa only [List.any_eq_false, Bool.not_eq_true] using hnone
    refine Echoes.of_trim ⟨?_, ?_⟩
    · rw [depthThrough_plain hsafe, depthThrough_plain hplain]
    · simp [commaDepths_plain hsafe]

theorem render_eq (name : Text) (arguments : List TypeExpr) :
    render ⟨name, arguments⟩ =
      if arguments = [] then name
      else name ++ (.char '<' :: (renderAll arguments ++ [.char '>'])) := by
  cases arguments with
  | nil => simp [render]
  | cons t rest =>
    rw [render]
    simp [Text.ofString]

theorem renderAll_cons (t : TypeExpr) {rest : List TypeExpr} (h : rest ≠ []) :
    renderAll (t :: rest) = t.render ++ (.char ',' :: .char ' ' :: renderAll rest) := by
  cases rest with
  | nil => exact absurd rfl h
  | cons u more =>
    rw [renderAll]
    · simp [Text.ofString]
    · simp

theorem arguments_of_one_piece {first : Text} {arguments : List TypeExpr}
    (hnone : 0 ∉ commaDepths 0 first)
    (h : List.Forall₂ Settled (cutArguments first) arguments) :
    arguments = [] ∧ Text.trim first = [] ∨
      ∃ t, arguments = [t] ∧ Settled (Text.trim first) t := by
  rw [cutArguments_of_not_mem hnone] at h
  split_ifs at h with hblank
  · exact .inl ⟨List.forall₂_nil_left_iff.1 h, hblank⟩
  · obtain ⟨t, rest, ht, hrest, rfl⟩ := List.forall₂_cons_left_iff.1 h
    rw [List.forall₂_nil_left_iff.1 hrest]
    exact .inr ⟨t, rfl, ht⟩

theorem depthThrough_eq_of_trim_eq_nil {text : Text} (h : Text.trim text = []) (depth : Int) :
    depthThrough depth text = depth := by
  rw [← depthThrough_trim, h, depthThrough_nil]

theorem Settled.cutArguments_render {text : Text} {t : TypeExpr} (h : Settled text t)
    (hnone : 0 ∉ commaDepths 0 text) : cutArguments t.render = [t.render] := by
  rw [cutArguments_of_not_mem fun hzero => hnone (h.echoes.commas 0 hzero),
    Text.trim_eq_self h.trimmed, if_neg h.ne_nil]

theorem Echoes.cons_piece {first rest : Text} {before after : List TypeExpr}
    (hrest : Echoes rest (renderAll after))
    (hpieces : cutArguments (renderAll after) = after.map render)
    (hnone : 0 ∉ commaDepths 0 first) (hdepth : depthThrough 0 first = 0)
    (hbefore : List.Forall₂ Settled (cutArguments first) before) :
    Echoes (first ++ .char ',' :: rest) (renderAll (before ++ after)) ∧
      cutArguments (renderAll (before ++ after)) = (before ++ after).map render := by
  have hwhole : depthThrough 0 (first ++ .char ',' :: rest) = depthThrough 0 rest := by
    rw [depthThrough_append, hdepth, depthThrough_cons, depthAfter_comma]
  have hmem : ∀ k, k ∈ commaDepths 0 (first ++ .char ',' :: rest) ↔
      k ∈ commaDepths 0 first ∨ k = 0 ∨ k ∈ commaDepths 0 rest := by
    intro k
    simp [commaDepths, hdepth]
  rcases arguments_of_one_piece hnone hbefore with ⟨rfl, -⟩ | ⟨t, rfl, ht⟩
  · refine ⟨⟨hrest.depth.trans hwhole.symm, fun k hk => ?_⟩, hpieces⟩
    exact (hmem k).2 (.inr (.inr (hrest.commas k hk)))
  · have hnone' : 0 ∉ commaDepths 0 t.render := fun hzero =>
      hnone (ht.echoes.of_trim.commas 0 hzero)
    have hdepth' : depthThrough 0 t.render = 0 := ht.echoes.of_trim.depth.trans hdepth
    by_cases hlast : after = []
    · -- the blank pieces behind the last argument bring no bracket with them
      subst hlast
      have hone : renderAll [t] = t.render := by rw [renderAll]
      rw [List.append_nil, hone]
      refine ⟨⟨?_, fun k hk => ?_⟩, ?_⟩
      · rw [hdepth', hwhole, ← hrest.depth]
        rfl
      · exact (hmem k).2 (.inl (ht.echoes.of_trim.commas k hk))
      · exact ht.cutArguments_render (by rwa [commaDepths_trim])
    · rw [List.singleton_append, renderAll_cons t hlast]
      refine ⟨⟨?_, fun k hk => ?_⟩, ?_⟩
      · rw [depthThrough_append, hdepth', hwhole, ← hrest.depth]
        rfl
      · simp only [commaDepths_append, hdepth', List.mem_append] at hk
        rcases hk with hk | hk
        · exact (hmem k).2 (.inl (ht.echoes.of_trim.commas k hk))
        · have hk : k = 0 ∨ k ∈ commaDepths 0 (renderAll after) := by
            simpa [commaDepths, depthAfter] using hk
          rcases hk with rfl | hk
          · exact (hmem 0).2 (.inr (.inl rfl))
          · exact (hmem k).2 (.inr (.inr (hrest.commas k hk)))
      · rw [cutArguments_append_comma hdepth', cutArguments_cons_blank (by decide), hpieces,
          ht.cutArguments_render (by rwa [commaDepths_trim])]
        rfl

/-- Written arguments are cut into the written forms of each, and echo the text inside the
brackets. -/
theorem renderAll_echoes {inner : Text} {arguments : List TypeExpr}
    (h : List.Forall₂ Settled (cutArguments inner) arguments) :
    Echoes inner (renderAll arguments) ∧
      cutArguments (renderAll arguments) = arguments.map render := by
  induction inner using cut_induction generalizing arguments with
  | cut first rest hnone hdepth ih =>
    -- what is made of the first piece comes off, and the rest is made of what is behind its comma
    rw [cutArguments_append_comma hdepth] at h
    have hbefore := List.forall₂_take (cutArguments first).length h
    have hafter := List.forall₂_drop (cutArguments first).length h
    rw [List.take_left] at hbefore
    rw [List.drop_left] at hafter
    obtain ⟨hrest, hpieces⟩ := ih hafter
    rw [← List.take_append_drop (cutArguments first).length arguments]
    generalize List.take (cutArguments first).length arguments = before at hbefore ⊢
    generalize List.drop (cutArguments first).length arguments = after at hafter hrest hpieces ⊢
    exact hrest.cons_piece hpieces hnone hdepth hbefore
  | whole inner hnone =>
    rcases arguments_of_one_piece hnone h with ⟨rfl, hblank⟩ | ⟨t, rfl, ht⟩
    · refine ⟨⟨?_, by simp [renderAll]⟩, by decide⟩
      rw [depthThrough_eq_of_trim_eq_nil hblank]
      rfl
    · have hone : renderAll [t] = t.render := by rw [renderAll]
      rw [hone]
      refine ⟨Echoes.of_trim ht.echoes, ?_⟩
      exact ht.cutArguments_render (by rwa [commaDepths_trim])

theorem parse_of_cut_eq_none {name : Text} (htrim : Text.IsTrimmed name) (hne : name ≠ [])
    (hcut : cutBrackets? name = none) (hsafe : Lua.typeName name = name)
    (htorn : name.isTorn = false) : parse name = .ok ⟨name, []⟩ := by
  have hmake : make name [] = .ok ⟨name, []⟩ :=
    make_eq_ok_iff.2 ⟨by rwa [hsafe], by rwa [hsafe], by rw [hsafe]⟩
  rw [parse_eq, Text.trim_eq_self htrim, hcut, if_neg (by simpa using hne)]
  exact hmake

theorem parse_of_cut_eq_some {name inner : Text} {arguments : List TypeExpr}
    (htrim : Text.IsTrimmed name) (hne : name ≠ []) (hname : ∀ c ∈ name, c ≠ '<')
    (hsafe : Lua.typeName name = name) (htorn : name.isTorn = false)
    (hinner : (cutArguments inner).mapM parse = .ok arguments) :
    parse (name ++ (.char '<' :: (inner ++ [.char '>']))) = .ok ⟨name, arguments⟩ := by
  have htext : Text.IsTrimmed (name ++ ((.char '<' :: inner) ++ [.char '>'])) :=
    Text.isTrimmed_append_singleton htrim hne _ (by decide)
  have hcut : cutBrackets? (name ++ (.char '<' :: (inner ++ [.char '>']))) = some (name, inner) :=
    cutBrackets?_eq_some_iff.2 ⟨rfl, hname⟩
  have hmake : make name arguments = .ok ⟨name, arguments⟩ :=
    make_eq_ok_iff.2 ⟨by rwa [hsafe], by rwa [hsafe], by rw [hsafe]⟩
  rw [List.cons_append] at htext
  rw [parse_eq, Text.trim_eq_self htext, hcut, if_neg (by simp)]
  simp only [Text.trim_eq_self htrim]
  rw [if_neg (by simpa using hne), hinner]
  exact hmake

theorem typeName_not_opening {name : Text} (h : ∀ c ∈ name, c ≠ '<') :
    ∀ c ∈ Lua.typeName name, c ≠ '<' := by
  rintro c hc rfl
  rcases Lua.typeName_cases name with htrim | ⟨hmem, -⟩
  · rw [htrim] at hc
    exact h _ (Text.mem_of_mem_trim hc) rfl
  · have hnone := (Lua.builtInTypes_fixed _ hmem).2.2.2.2
    rw [List.any_eq_false] at hnone
    exact hnone _ hc (by decide)

theorem cutBrackets?_typeName {text : Text} (h : cutBrackets? (Text.trim text) = none) :
    cutBrackets? (Lua.typeName text) = none := by
  rcases Lua.typeName_cases text with htrim | ⟨-, hplain⟩
  · rwa [htrim]
  · rw [← Lua.typeName_trim]
    apply cutBrackets?_eq_none_of_not_mem
    apply typeName_not_opening
    rintro c hc rfl
    exact absurd (hplain _ hc) (by decide)

theorem Echoes.enclose {name name' inner inner' : Text} (hname : Echoes name name')
    (hinner : Echoes inner inner') :
    Echoes (name ++ (.char '<' :: (inner ++ [.char '>'])))
      (name' ++ (.char '<' :: (inner' ++ [.char '>']))) := by
  -- the brackets leave none open, and every comma inside them stands one deeper
  have hdepth (a b : Text) : depthThrough 0 (a ++ (.char '<' :: (b ++ [.char '>']))) =
      depthThrough 0 a + depthThrough 0 b := by
    simp only [depthThrough_append, depthThrough_cons, depthAfter_opening, depthAfter_closing,
      depthThrough_nil]
    rw [depthThrough_eq_add (depthThrough 0 a + 1) b]
    omega
  have hmem (k : Int) (a b : Text) : k ∈ commaDepths 0 (a ++ (.char '<' :: (b ++ [.char '>']))) ↔
      k ∈ commaDepths 0 a ∨ k - (depthThrough 0 a + 1) ∈ commaDepths 0 b := by
    rw [← mem_commaDepths_iff]
    simp [commaDepths]
  refine ⟨?_, fun k hk => ?_⟩
  · rw [hdepth, hdepth, hname.depth, hinner.depth]
  · rw [hmem, hname.depth] at hk
    exact (hmem k name inner).2 (hk.imp (hname.commas k) (hinner.commas _))

theorem Echoes.of_empty_brackets {text name : Text}
    (h : Echoes text (name ++ [.char '<', .char '>'])) : Echoes text name := by
  refine ⟨?_, fun k hk => h.commas k ?_⟩
  · have hdepth := h.depth
    simp only [depthThrough_append, depthThrough_cons, depthAfter_opening, depthAfter_closing,
      depthThrough_nil] at hdepth
    omega
  · rw [commaDepths_append]
    exact List.mem_append_left _ hk

theorem settled_of_parse {text : Text} {t : TypeExpr} (h : parse text = .ok t) :
    Settled text t := by
  refine parse_induction (motive := Settled) ?_ ?_ h
  · intro text hne hcut htorn
    have hname : Lua.typeName text ≠ [] := fun hnil => hne (Lua.typeName_eq_nil_iff.1 hnil)
    have htrim := Lua.isTrimmed_typeName text
    have hrender : render ⟨Lua.typeName text, []⟩ = Lua.typeName text := render_eq _ []
    refine ⟨?_, ?_, ?_, ?_⟩ <;> rw [hrender]
    · exact echoes_typeName text
    · exact htrim
    · exact hname
    · exact parse_of_cut_eq_none htrim hname (cutBrackets?_typeName hcut)
        (Lua.typeName_typeName text) htorn
  · intro text name inner arguments heq hname hblank htorn hpieces
    have hne : Lua.typeName name ≠ [] := fun hnil => hblank (Lua.typeName_eq_nil_iff.1 hnil)
    have htrim := Lua.isTrimmed_typeName name
    have hsafe := Lua.typeName_typeName name
    have hopening := typeName_not_opening hname
    obtain ⟨hinner, hcut⟩ := renderAll_echoes (hpieces.imp fun _ _ hpiece => hpiece.2)
    have hechoes := heq ▸ (echoes_typeName name).enclose hinner
    by_cases hargs : arguments = []
    · -- brackets with nothing between them are not written again
      subst hargs
      have hrender : render ⟨Lua.typeName name, []⟩ = Lua.typeName name := render_eq _ []
      refine ⟨?_, ?_, ?_, ?_⟩ <;> rw [hrender]
      · exact hechoes.of_trim.of_empty_brackets
      · exact htrim
      · exact hne
      · exact parse_of_cut_eq_none htrim hne (cutBrackets?_eq_none_of_not_mem hopening) hsafe htorn
    · have hrender := render_eq (Lua.typeName name) arguments
      rw [if_neg hargs] at hrender
      refine ⟨?_, ?_, ?_, ?_⟩ <;> rw [hrender]
      · exact hechoes.of_trim
      · exact Text.isTrimmed_append_singleton (c := .char '>') htrim hne
          (.char '<' :: renderAll arguments) (by decide)
      · simp
      · refine parse_of_cut_eq_some htrim hne hopening hsafe htorn ?_
        rw [hcut, mapM_eq_ok_iff, List.forall₂_map_left_iff, List.forall₂_same]
        intro t ht
        obtain ⟨piece, -, -, hsettled⟩ := exists_of_mem_forall₂ hpieces ht
        exact hsettled.reparse

theorem parse_render {text : Text} {t : TypeExpr} (h : parse text = .ok t) :
    parse t.render = .ok t :=
  (settled_of_parse h).reparse

theorem parse_trim (text : Text) : parse (Text.trim text) = parse text := by
  rw [parse_eq, parse_eq, Text.trim_trim]

theorem trim_ne_nil_of_parse {text : Text} {t : TypeExpr} (h : parse text = .ok t) :
    Text.trim text ≠ [] := by
  intro hnil
  rw [parse_eq, hnil] at h
  cases h

theorem not_isTorn_renderAll {arguments : List TypeExpr}
    (h : ∀ t ∈ arguments, t.render.isTorn = false) : (renderAll arguments).isTorn = false := by
  induction arguments with
  | nil => decide
  | cons t rest ih =>
    have hrest := ih fun u hu => h u (List.mem_cons_of_mem _ hu)
    have ht := h t List.mem_cons_self
    by_cases hlast : rest = []
    · subst hlast
      rwa [renderAll]
    · rw [renderAll_cons t hlast]
      simp only [Text.isTorn, List.any_append, List.any_cons] at ht hrest ⊢
      rw [ht, hrest]
      rfl

theorem not_isTorn_render {text : Text} {t : TypeExpr} (h : parse text = .ok t) :
    t.render.isTorn = false := by
  refine parse_induction (motive := fun _ t => t.render.isTorn = false) ?_ ?_ h
  · intro text _ _ htorn
    rwa [render_eq, if_pos rfl]
  · intro text name inner arguments _ _ _ htorn hpieces
    rw [render_eq]
    split_ifs with hargs
    · exact htorn
    · have hall : (renderAll arguments).isTorn = false := not_isTorn_renderAll fun t ht => by
        obtain ⟨piece, -, -, hpiece⟩ := exists_of_mem_forall₂ hpieces ht
        exact hpiece
      simp only [Text.isTorn, List.any_append, List.any_cons] at htorn hall ⊢
      rw [htorn, hall]
      rfl

end ApiStubs.TypeExpr
