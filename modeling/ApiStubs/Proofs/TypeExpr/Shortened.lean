import ApiStubs.Proofs.Lua.Qualifier
import ApiStubs.Proofs.TypeExpr.Commas
import ApiStubs.Proofs.TypeExpr.Safe

/-! Short types. No qualified name goes over a bracket, a comma or a blank, so a shortened text is
cut where the text is, and reading it gives the type that the text gives, with short names. -/

namespace ApiStubs.TypeExpr
open Lua (isMark shorten shortenFrom)

theorem not_isMark_of_afterSegment? {text shorter : Text}
    (h : Lua.afterSegment? text = some shorter) :
    ∃ segment, text = segment ++ shorter ∧ ∀ c ∈ segment, isMark c = false := by
  obtain ⟨segment, heq, -, hsegment, -⟩ := Lua.exists_of_afterSegment? h
  refine ⟨segment, heq, fun c hc => ?_⟩
  by_contra hmark
  obtain ⟨hpart, hdot⟩ := Lua.isBetween_iff.1 (Lua.isBetween_of_isMark (Bool.of_not_eq_false hmark))
  rcases hsegment c hc with h | h
  · rw [hpart] at h
    cases h
  · exact hdot h

theorem depthThrough_shortenFrom (fresh : Bool) (text : Text) (depth : Int) :
    depthThrough depth (shortenFrom fresh text) = depthThrough depth text := by
  induction fresh, text using Lua.shortenFrom_induction generalizing depth with
  | nil fresh => rw [Lua.shortenFrom_nil]
  | segment text shorter hafter ih =>
    obtain ⟨segment, rfl, hplain⟩ := not_isMark_of_afterSegment? hafter
    rw [Lua.shortenFrom_of_some hafter, ih, depthThrough_append, depthThrough_plain hplain]
  | keep fresh c rest hnone ih =>
    rw [Lua.shortenFrom_of_none hnone, depthThrough_cons, ih, depthThrough_cons]

theorem commaDepths_shortenFrom (fresh : Bool) (text : Text) (depth : Int) :
    commaDepths depth (shortenFrom fresh text) = commaDepths depth text := by
  induction fresh, text using Lua.shortenFrom_induction generalizing depth with
  | nil fresh => rw [Lua.shortenFrom_nil]
  | segment text shorter hafter ih =>
    obtain ⟨segment, rfl, hplain⟩ := not_isMark_of_afterSegment? hafter
    rw [Lua.shortenFrom_of_some hafter, ih, commaDepths_append, commaDepths_plain hplain,
      depthThrough_plain hplain, List.nil_append]
  | keep fresh c rest hnone ih =>
    rw [Lua.shortenFrom_of_none hnone, commaDepths, ih, commaDepths]

theorem cutTopLevel_shorten (text : Text) :
    cutTopLevel 0 (shorten text) = (cutTopLevel 0 text).map shorten := by
  have hnone' {text : Text} (hnone : 0 ∉ commaDepths 0 text) :
      0 ∉ commaDepths 0 (shorten text) := by
    rwa [shorten, commaDepths_shortenFrom]
  induction text using cut_induction with
  | whole text hnone =>
    rw [cutTopLevel_of_not_mem hnone, cutTopLevel_of_not_mem (hnone' hnone), List.map_singleton]
  | cut first rest hnone hdepth ih =>
    have hdepth' : depthThrough 0 (shorten first) = 0 := by
      rwa [shorten, depthThrough_shortenFrom]
    rw [Lua.shorten_append (by decide), cutTopLevel_append_comma (hnone' hnone) hdepth',
      cutTopLevel_append_comma hnone hdepth, List.map_cons, ih]

theorem cutArguments_shorten (text : Text) :
    cutArguments (shorten text) = (cutArguments text).map shorten := by
  have hempty : ∀ piece : Text, (shorten piece).isEmpty = piece.isEmpty := fun piece => by
    rw [Bool.eq_iff_iff, List.isEmpty_iff, List.isEmpty_iff, Lua.shorten_eq_nil_iff]
  simp only [cutArguments, cutTopLevel_shorten, List.map_map, List.filter_map]
  simp only [Function.comp_def, Lua.trim_shorten, hempty]

theorem cutBrackets?_append {name : Text} (h : ∀ c ∈ name, c ≠ '<') (rest : Text) :
    cutBrackets? (name ++ .char '<' :: rest) =
      if rest.getLast? = some (.char '>') then some (name, rest.dropLast) else none := by
  have hall : ∀ c ∈ name, isOutside c = true := fun c hc => by simpa [isOutside] using h c hc
  have hstop : isOutside (.char '<') = false := by decide
  rw [cutBrackets?, List.dropWhile_append_of_pos hall, List.takeWhile_append_of_pos hall]
  simp [hstop]

theorem cutBrackets?_shorten (text : Text) :
    cutBrackets? (shorten text) = (cutBrackets? text).map (Prod.map shorten shorten) := by
  by_cases hopening : CodePoint.char '<' ∈ text
  · obtain ⟨name, rest, rfl, hname⟩ := List.eq_append_cons_of_mem hopening
    have hbefore : ∀ c ∈ name, c ≠ '<' := fun c hc heq => hname (heq ▸ hc)
    have hbefore' : ∀ c ∈ shorten name, c ≠ '<' := fun c hc => hbefore c (Lua.mem_of_mem_shorten hc)
    -- no bracket belongs to a name, so each side of the opening one is shortened by itself
    rw [Lua.shorten_append (by decide), cutBrackets?_append hbefore', cutBrackets?_append hbefore,
      shorten, Lua.getLast?_shortenFrom]
    split_ifs with hlast
    · have hrest : rest.dropLast ++ [.char '>'] = rest := List.dropLast_append_getLast? _ hlast
      have hshort : shorten rest = shorten rest.dropLast ++ [.char '>'] := by
        conv_lhs => rw [← hrest]
        rw [Lua.shorten_append (by decide), Lua.shorten_eq_nil_iff.2 rfl]
      rw [← shorten, hshort, List.dropLast_concat]
      rfl
    · rfl
  · have hnone : ∀ c ∈ text, c ≠ '<' := fun c hc heq => hopening (heq ▸ hc)
    rw [cutBrackets?_eq_none_of_not_mem hnone, cutBrackets?_eq_none_of_not_mem fun c hc =>
      hnone c (Lua.mem_of_mem_shorten hc)]
    rfl

theorem make_eq_of_typeName_eq {name name' : Text} (h : Lua.typeName name = Lua.typeName name')
    (arguments : List TypeExpr) : make name arguments = make name' arguments := by
  rw [make, make, checkName, checkName, h]

theorem make_shorten {name : Text} (arguments : List TypeExpr) (hne : Text.trim name ≠ [])
    (htorn : (Lua.typeName name).isTorn = false) :
    make (shorten name) arguments = .ok ⟨Lua.typeName (shorten name), arguments⟩ := by
  refine make_eq_ok_iff.2 ⟨?_, ?_, rfl⟩
  · rw [← Lua.typeName_shorten_typeName]
    exact Lua.not_isTorn_typeName (Lua.not_isTorn_shorten htorn)
  · rwa [Ne, Lua.typeName_shorten_eq_nil_iff]

/-- A type is shortened by name or by text, and the text is read as the same short type. -/
def ShortensAs (text : Text) (t : TypeExpr) : Prop :=
  ∃ u, t.shortened = .ok u ∧ parse (shorten text) = .ok u

theorem ShortensAs.forall₂ {pieces : List Text} {arguments : List TypeExpr}
    (h : List.Forall₂ ShortensAs pieces arguments) :
    ∃ short, List.Forall₂ (fun t u => t.shortened = .ok u) arguments short ∧
      (pieces.map shorten).mapM parse = .ok short := by
  induction h with
  | nil => exact ⟨[], .nil, rfl⟩
  | cons hfirst _ ih =>
    obtain ⟨u, hu, hparse⟩ := hfirst
    obtain ⟨short, hshort, hparses⟩ := ih
    refine ⟨u :: short, .cons hu hshort, ?_⟩
    rw [List.map_cons, List.mapM_cons, hparse, hparses]
    rfl

theorem shortensAs_of_parse {text : Text} {t : TypeExpr} (h : parse text = .ok t) :
    ShortensAs text t := by
  have hempty : ∀ name : Text, Text.trim name ≠ [] →
      (Text.trim (shorten name)).isEmpty = false := fun name hne => by
    rwa [Lua.trim_shorten, List.isEmpty_eq_false_iff, Ne, Lua.shorten_eq_nil_iff]
  refine parse_induction (motive := ShortensAs) ?_ ?_ h
  · intro text hne hcut htorn
    have hmake := make_shorten [] hne htorn
    refine ⟨⟨Lua.typeName (shorten text), []⟩, shortened_eq_ok_iff.2 ⟨[], .nil, ?_⟩, ?_⟩
    · rw [make_eq_of_typeName_eq (Lua.typeName_shorten_typeName text), hmake]
    · have hnone : cutBrackets? (Text.trim (shorten text)) = none := by
        rw [Lua.trim_shorten, cutBrackets?_shorten, hcut]
        rfl
      rw [parse_eq, hempty text hne, hnone]
      exact (make_eq_of_typeName_eq (Lua.typeName_trim _) []).trans hmake
  · intro text name inner arguments heq hname hblank htorn hpieces
    obtain ⟨short, hshort, hparses⟩ := ShortensAs.forall₂ (hpieces.imp fun _ _ hpiece => hpiece.2)
    have hmake := make_shorten short hblank htorn
    refine ⟨⟨Lua.typeName (shorten name), short⟩,
      shortened_eq_ok_iff.2 ⟨short, hshort, ?_⟩, ?_⟩
    · rw [make_eq_of_typeName_eq (Lua.typeName_shorten_typeName name), hmake]
    · have hne : Text.trim text ≠ [] := by simp [heq]
      have hsome : cutBrackets? (Text.trim (shorten text)) =
          some (shorten name, shorten inner) := by
        rw [Lua.trim_shorten, cutBrackets?_shorten, cutBrackets?_eq_some_iff.2 ⟨heq, hname⟩]
        rfl
      rw [parse_eq, hempty text hne, hsome]
      simp only [Bool.false_eq_true, if_false, hempty name hblank, cutArguments_shorten, hparses]
      exact (make_eq_of_typeName_eq (Lua.typeName_trim _) short).trans hmake

theorem Safe.exists_shortened {t : TypeExpr} (h : t.Safe) : ∃ u, t.shortened = .ok u := by
  induction h with
  | @node name arguments hname hne htorn _ ih =>
    obtain ⟨short, hshort⟩ := exists_forall₂ ih
    have hblank : Text.trim name ≠ [] := fun hnil =>
      hne (hname ▸ Lua.typeName_eq_nil_iff.2 hnil)
    have hmake := make_shorten short hblank (by rwa [hname])
    exact ⟨_, shortened_eq_ok_iff.2 ⟨short, hshort, hmake⟩⟩

theorem shortened_shortened {t u : TypeExpr} (h : t.shortened = .ok u) : u.shortened = .ok u := by
  induction t using tree_induction generalizing u with
  | node name arguments ih =>
    obtain ⟨short, hshort, hmake⟩ := shortened_eq_ok_iff.1 h
    have hagain : List.Forall₂ (fun t s => t.shortened = .ok s) short short := by
      rw [List.forall₂_same]
      intro s hs
      obtain ⟨t, ht, hts⟩ := exists_of_mem_forall₂ hshort hs
      exact ih t ht hts
    obtain ⟨htorn, hne, rfl⟩ := make_eq_ok_iff.1 hmake
    refine shortened_eq_ok_iff.2 ⟨short, hagain, ?_⟩
    have hname : Lua.typeName (shorten (Lua.typeName (shorten name))) =
        Lua.typeName (shorten name) := by
      rw [Lua.typeName_shorten_typeName, Lua.shorten_shorten]
    rw [make_eq_of_typeName_eq hname, hmake]

end ApiStubs.TypeExpr
