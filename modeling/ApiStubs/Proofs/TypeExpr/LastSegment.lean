import ApiStubs.Proofs.Lua.QualifierPattern
import ApiStubs.Proofs.Text.Split
import ApiStubs.Proofs.TypeExpr.Reparse
import ApiStubs.Proofs.TypeExpr.Tree

/-! Written types made short. Nothing is dropped over a bracket, a comma or a blank, so each name in
the type becomes short by itself, and of a name whose segments are names the last one is left. -/

namespace ApiStubs

namespace Lua

def IsName (text : Text) : Prop := startsName text = true ∧ ∀ c ∈ text, isNamePart c = true

def IsQualifiedName (name : Text) : Prop :=
  ∀ segment ∈ name.splitOn (.char '.'), IsName segment

instance (text : Text) : Decidable (IsName text) := inferInstanceAs (Decidable (_ ∧ _))

instance : DecidablePred IsQualifiedName := fun name =>
  inferInstanceAs (Decidable (∀ segment ∈ name.splitOn (.char '.'), IsName segment))

def lastSegment (name : Text) : Text :=
  (name.splitOn (.char '.')).getLast (List.splitOn_ne_nil _ _)

theorem IsName.shorten_eq {text : Text} (h : IsName text) : shorten text = text := by
  apply shorten_eq_self
  intro c hc hdot
  have hpart := h.2 c hc
  rw [hdot] at hpart
  exact absurd hpart (by decide)

theorem IsName.afterSegment?_eq {text rest : Text} (h : IsName text)
    (hrest : startsName rest = true) :
    afterSegment? (text ++ .char '.' :: rest) = some rest := by
  cases text with
  | nil => exact absurd h.1 (by decide)
  | cons c more =>
    have hmore : ∀ d ∈ more, isNamePart d = true := fun d hd => h.2 d (List.mem_cons_of_mem _ hd)
    have hdrop : (more ++ .char '.' :: rest).dropWhile isNamePart = .char '.' :: rest := by
      rw [List.dropWhile_append_of_pos hmore, List.dropWhile_cons_of_neg (by decide)]
    exact afterSegment?_eq_some_iff.2 ⟨h.1, hdrop, hrest⟩

theorem shorten_join {segments : List Text} (hne : segments ≠ [])
    (h : ∀ segment ∈ segments, IsName segment) :
    shorten (Text.join "." segments) = segments.getLast hne ∧
      startsName (Text.join "." segments) = true := by
  induction segments with
  | nil => exact absurd rfl hne
  | cons first rest ih =>
    obtain ⟨hfirst, hothers⟩ := List.forall_mem_cons.1 h
    by_cases hrest : rest = []
    · subst hrest
      rw [Text.join_singleton]
      exact ⟨hfirst.shorten_eq, hfirst.1⟩
    · obtain ⟨hshort, hstarts⟩ := ih hrest hothers
      have hafter : afterSegment? (Text.join "." (first :: rest)) = some (Text.join "." rest) := by
        rw [Text.join_cons _ _ hrest]
        exact hfirst.afterSegment?_eq hstarts
      obtain ⟨-, -, -, -, hwhole⟩ := exists_of_afterSegment? hafter
      rw [shorten, shortenFrom_of_some hafter, List.getLast_cons hrest]
      exact ⟨hshort, hwhole⟩

theorem IsQualifiedName.shorten_eq {name : Text} (h : IsQualifiedName name) :
    shorten name = lastSegment name := by
  have hjoin : Text.join "." (name.splitOn (.char '.')) = name := List.intercalate_splitOn _
  have hshort := (shorten_join (List.splitOn_ne_nil _ _) h).1
  rwa [hjoin] at hshort

end Lua

namespace TypeExpr

variable {f g : Text → Text} {t : TypeExpr} {arguments : List TypeExpr}

theorem EveryName.renamed_congr (h : t.EveryName fun name => f name = g name) :
    t.renamed f = t.renamed g := by
  induction h with
  | node hname _ ih => rw [renamed_eq, renamed_eq, hname, List.map_congr_left ih]

theorem shorten_renderAll
    (h : ∀ t ∈ arguments, Lua.shorten t.render = (t.renamed Lua.shorten).render) :
    Lua.shorten (renderAll arguments) = renderAll (arguments.map (renamed Lua.shorten)) := by
  induction arguments with
  | nil => exact Lua.shorten_eq_nil_iff.2 rfl
  | cons t rest ih =>
    obtain ⟨ht, hothers⟩ := List.forall_mem_cons.1 h
    by_cases hrest : rest = []
    · rw [hrest]
      exact ht
    · have hmap : rest.map (renamed Lua.shorten) ≠ [] := by simpa using hrest
      rw [renderAll_cons t hrest, Lua.shorten_append (by decide), Lua.shorten_cons (by decide),
        ih hothers, ht, List.map_cons, renderAll_cons _ hmap]

theorem shorten_render (t : TypeExpr) : Lua.shorten t.render = (t.renamed Lua.shorten).render := by
  induction t using tree_induction with
  | node name arguments ih =>
    rw [renamed_eq, render_eq, render_eq]
    by_cases harguments : arguments = []
    · rw [if_pos harguments, if_pos (by rw [harguments]; rfl)]
    · rw [if_neg harguments, if_neg (by simpa using harguments), Lua.shorten_append (by decide),
        Lua.shorten_append (by decide), Lua.shorten_eq_nil_iff.2 rfl, shorten_renderAll ih]

end TypeExpr

/-- Shortening a text is to remove the qualifiers from it. It changes nothing a second time, and
leaves something of every text. A written type becomes what its tree is written as with every name
short, which is the last segment if the segments are names. -/
theorem shortening_keeps_last_segments :
    (∀ text, Lua.qualifier.remove text = Lua.shorten text ∧
      Lua.shorten (Lua.shorten text) = Lua.shorten text ∧
      (text ≠ [] → Lua.shorten text ≠ [])) ∧
    ∀ t : TypeExpr, Lua.shorten t.render = (t.renamed Lua.shorten).render ∧
      (t.EveryName Lua.IsQualifiedName →
        Lua.shorten t.render = (t.renamed Lua.lastSegment).render) := by
  refine ⟨fun text => ⟨Lua.remove_qualifier text, Lua.shorten_shorten text, ?_⟩, fun t =>
    ⟨t.shorten_render, fun ht => ?_⟩⟩
  · exact mt Lua.shorten_eq_nil_iff.1
  · have hnames : t.EveryName fun name => Lua.shorten name = Lua.lastSegment name :=
      ht.imp fun _ hname => hname.shorten_eq
    rw [t.shorten_render, hnames.renamed_congr]

/-- Segments with a dollar, an underscore and a letter outside of the first 128 characters, a
built-in type in capitals, and a text with stray dots and digits in front of which no name ends. -/
theorem shortening_keeps_last_segments_nested :
    let text : Text := ".a.b..1c.d$é.e<f.g.2"
    let t : TypeExpr :=
      ⟨"java.util.Map$Entry", [⟨"a.$b.STRING", []⟩, ⟨"x1._y.Zété", [⟨"_.c$é.D", []⟩]⟩]⟩
    let u : TypeExpr := ⟨"Map$Entry", [⟨"STRING", []⟩, ⟨"Zété", [⟨"D", []⟩]⟩]⟩
    text ≠ [] ∧ Lua.shorten text ≠ [] ∧ Lua.qualifier.remove text = ".b..1c.e<g.2" ∧
      t.EveryName Lua.IsQualifiedName ∧ t.renamed Lua.lastSegment = u ∧
      Lua.shorten t.render = u.render := by
  intro text t u
  have htext : text ≠ [] := by decide
  have hnames : t.EveryName Lua.IsQualifiedName := by decide +kernel
  have hlast : t.renamed Lua.lastSegment = u := by decide +kernel
  obtain ⟨htexts, htypes⟩ := shortening_keeps_last_segments
  obtain ⟨hremove, -, hne⟩ := htexts text
  refine ⟨htext, hne htext, ?_, hnames, hlast, ?_⟩
  · rw [hremove]
    decide +kernel
  · rw [(htypes t).2 hnames, hlast]

end ApiStubs
