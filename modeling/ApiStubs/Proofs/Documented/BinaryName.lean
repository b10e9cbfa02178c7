import ApiStubs.Documented.Store
import ApiStubs.Proofs.Documented.PagePath
import ApiStubs.Proofs.Text.Trim

/-! Binary names of classes. The path of a page still tells packages and nested classes apart, so
that no two classes share a page or the file of one. -/

namespace ApiStubs

structure IsSegment (segment : Text) : Prop where
  ne_nil : segment ≠ []
  plain : ∀ c ∈ segment,
    c ≠ .char '/' ∧ c ≠ .char '.' ∧ c ≠ .char '$' ∧ Text.isBlank c = false

instance (segment : Text) : Decidable (IsSegment segment) :=
  decidable_of_iff (segment ≠ [] ∧ ∀ c ∈ segment,
      c ≠ .char '/' ∧ c ≠ .char '.' ∧ c ≠ .char '$' ∧ Text.isBlank c = false)
    ⟨fun h => ⟨h.1, h.2⟩, fun h => ⟨h.ne_nil, h.plain⟩⟩

/-- Packages, a class, and the classes nested in it, each in the one before. -/
structure BinaryName where
  packages : List Text
  outer : Text
  inner : List Text
  segments : ∀ segment ∈ packages ++ outer :: inner, IsSegment segment
  unnumbered : ∀ segment ∈ outer :: inner, ∀ c ∈ segment.head?, Text.isDecimalDigit c = false

namespace BinaryName

variable (m n : BinaryName)

def classes : List Text := n.outer :: n.inner

def simple : Text := Text.join [.char '$'] n.classes

def text : Text := Text.join [.char '.'] (n.packages ++ [n.simple])

def pageStem : Text := Text.join [.char '.'] n.classes

def pageSegments (extension : Text) : List Text :=
  n.packages ++ [n.pageStem ++ .char '.' :: extension]

def pagePath : Text := Text.join [.char '/'] (n.pageSegments "html")

theorem isSegment_of_mem_packages {segment : Text} (h : segment ∈ n.packages) :
    IsSegment segment := n.segments segment (List.mem_append_left _ h)

theorem isSegment_of_mem_classes {segment : Text} (h : segment ∈ n.classes) :
    IsSegment segment := n.segments segment (List.mem_append_right _ h)

theorem splitOn_simple : n.simple.splitOn (.char '$') = n.classes :=
  List.splitOn_intercalate _
    (fun _ h hmem => ((n.isSegment_of_mem_classes h).plain _ hmem).2.2.1 rfl) (List.cons_ne_nil _ _)

theorem isSimple : IsSimple n.simple where
  noDot h := by
    rcases Text.mem_of_mem_join h with h | ⟨segment, hsegment, h⟩
    · exact absurd h (by decide)
    · exact ((n.isSegment_of_mem_classes hsegment).plain _ h).2.1 rfl
  named := by
    rw [n.splitOn_simple]
    intro segment hsegment
    obtain ⟨c, rest, rfl⟩ :=
      List.exists_cons_of_ne_nil (n.isSegment_of_mem_classes hsegment).ne_nil
    exact n.unnumbered _ hsegment c rfl

theorem simplePage_simple : simplePage n.simple = n.pageStem ++ .char '.' :: "html" := by
  rw [simplePage, n.splitOn_simple]
  rfl

theorem hasPath : HasPath n.text n.pagePath := by
  by_cases hpackages : n.packages = []
  · have htext : n.text = n.simple := by
      rw [text, hpackages, List.nil_append, Text.join_singleton]
    have hpath : n.pagePath = simplePage n.simple := by
      rw [pagePath, pageSegments, hpackages, List.nil_append, Text.join_singleton,
        n.simplePage_simple]
    rw [htext, hpath]
    exact .alone n.isSimple
  · have htext : n.text = Text.join [.char '.'] n.packages ++ .char '.' :: n.simple := by
      rw [text, Text.join_concat _ _ hpackages]
      rfl
    have hfolder : packageFolder (Text.join [.char '.'] n.packages) =
        Text.join [.char '/'] n.packages :=
      Text.map_join _ fun _ h hmem => ((n.isSegment_of_mem_packages h).plain _ hmem).2.1 rfl
    have hpath : n.pagePath = packageFolder (Text.join [.char '.'] n.packages) ++
        .char '/' :: simplePage n.simple := by
      rw [pagePath, pageSegments, Text.join_concat _ _ hpackages, hfolder, n.simplePage_simple]
      rfl
    rw [htext, hpath]
    obtain ⟨first, rest, hfirst⟩ := List.exists_cons_of_ne_nil hpackages
    have hne := (n.isSegment_of_mem_packages (hfirst ▸ List.mem_cons_self)).ne_nil
    exact .packaged (hfirst ▸ Text.join_ne_nil _ rest hne) n.isSimple

theorem not_isBlank {c : CodePoint} (h : c ∈ n.text) : Text.isBlank c = false := by
  rcases Text.mem_of_mem_join h with h | ⟨piece, hpiece, h⟩
  · rw [List.mem_singleton.1 h]
    decide
  rcases List.mem_append.1 hpiece with hpiece | hpiece
  · exact ((n.isSegment_of_mem_packages hpiece).plain _ h).2.2.2
  rw [List.mem_singleton.1 hpiece] at h
  rcases Text.mem_of_mem_join h with h | ⟨segment, hsegment, h⟩
  · rw [List.mem_singleton.1 h]
    decide
  · exact ((n.isSegment_of_mem_classes hsegment).plain _ h).2.2.2

theorem pagePath?_text : pagePath? n.text = some n.pagePath := by
  rw [pagePath?_eq_some_iff, Text.trim_eq_self]
  · exact n.hasPath
  · exact ⟨fun c hc => n.not_isBlank (List.mem_of_mem_head? hc),
      fun c hc => n.not_isBlank (List.mem_of_mem_getLast? hc)⟩

theorem isPlain_pageSegments : ∀ segment ∈ n.pageSegments "html", Path.IsPlain segment := by
  intro segment hsegment
  rcases List.mem_append.1 hsegment with h | h
  · have hplain := n.isSegment_of_mem_packages h
    refine ⟨hplain.ne_nil, ?_, fun hmem => (hplain.plain _ hmem).1 rfl⟩
    rintro rfl
    exact (hplain.plain _ (List.mem_singleton_self _)).2.1 rfl
  · rw [List.mem_singleton.1 h]
    refine ⟨by simp, ?_, fun hmem => ?_⟩
    · intro hdot
      have hlast := congrArg List.getLast? hdot
      rw [List.getLast?_append] at hlast
      cases hlast
    · rcases List.mem_append.1 hmem with hmem | hmem
      · rcases Text.mem_of_mem_join hmem with hmem | ⟨segment, hsegment, hmem⟩
        · exact absurd hmem (by decide)
        · exact ((n.isSegment_of_mem_classes hsegment).plain _ hmem).1 rfl
      · exact absurd hmem (by decide)

theorem ofText_pagePath : Path.ofText n.pagePath = ⟨0, n.pageSegments "html"⟩ :=
  Path.ofText_join (by simp [pageSegments]) n.isPlain_pageSegments

theorem pageStem_ne_nil : n.pageStem ≠ [] :=
  Text.join_ne_nil _ _ (n.isSegment_of_mem_classes List.mem_cons_self).ne_nil

theorem cutExtension_page :
    Path.cutExtension (n.pageStem ++ .char '.' :: "html") = n.pageStem :=
  Path.cutExtension_append n.pageStem_ne_nil (by decide) (by decide)

theorem pageFile_pagePath (root : Path) : PageStore.pageFile root n.pagePath =
    .ok ⟨root.slashes, root.segments ++ n.pageSegments "json"⟩ := by
  rw [PageStore.pageFile, n.ofText_pagePath, pageSegments, Path.withExtension?_concat,
    n.cutExtension_page]
  rfl

def nameOf (pagePath : Text) : Text :=
  let path := Path.ofText pagePath
  Text.join [.char '.'] (path.segments.dropLast ++
    [path.stem.map fun c => if c = .char '.' then .char '$' else c])

theorem nameOf_pagePath : nameOf n.pagePath = n.text := by
  have hstem : (n.pageStem.map fun c => if c = .char '.' then .char '$' else c) = n.simple :=
    Text.map_join _ fun _ h hmem => ((n.isSegment_of_mem_classes h).plain _ hmem).2.1 rfl
  rw [nameOf, n.ofText_pagePath]
  dsimp only [pageSegments, Path.stem]
  rw [List.dropLast_concat, List.getLast?_concat, Option.map_some, Option.getD_some,
    n.cutExtension_page, hstem]
  rfl

theorem text_eq_of_pagePath (h : m.pagePath = n.pagePath) : m.text = n.text := by
  rw [← m.nameOf_pagePath, h, n.nameOf_pagePath]

theorem pagePath_eq_of_pageSegments {extension : Text}
    (h : m.pageSegments extension = n.pageSegments extension) : m.pagePath = n.pagePath := by
  obtain ⟨hpackages, hlast⟩ := List.append_inj' h rfl
  have hstem : m.pageStem = n.pageStem := List.append_cancel_right (List.cons.inj hlast).1
  rw [pagePath, pagePath, pageSegments, pageSegments, hpackages, hstem]

end BinaryName

/-- The name of a class can be told from the path of its page, so no two names have one page, or
one file for their pages. -/
theorem class_pages_are_distinct :
    (∀ n : BinaryName, ∃ pagePath, pagePath? n.text = some pagePath ∧ pagePath ≠ [] ∧
      BinaryName.nameOf pagePath = n.text) ∧
    ∀ m n : BinaryName, m.text ≠ n.text →
      pagePath? m.text ≠ pagePath? n.text ∧
      ∀ root, ∃ mPath nPath mFile nFile,
        pagePath? m.text = some mPath ∧ pagePath? n.text = some nPath ∧
        PageStore.pageFile root mPath = .ok mFile ∧
        PageStore.pageFile root nPath = .ok nFile ∧ mFile ≠ nFile := by
  refine ⟨fun n => ⟨n.pagePath, n.pagePath?_text, ?_, n.nameOf_pagePath⟩, fun m n hne => ?_⟩
  · intro hnil
    have hsegments := congrArg Path.segments n.ofText_pagePath
    rw [hnil] at hsegments
    exact absurd hsegments.symm (List.append_ne_nil_of_right_ne_nil _ (List.cons_ne_nil _ _))
  · have hpath : m.pagePath ≠ n.pagePath := mt (m.text_eq_of_pagePath n) hne
    refine ⟨?_, fun root => ⟨m.pagePath, n.pagePath, _, _, m.pagePath?_text, n.pagePath?_text,
      m.pageFile_pagePath root, n.pageFile_pagePath root, ?_⟩⟩
    · rw [m.pagePath?_text, n.pagePath?_text, Ne, Option.some.injEq]
      exact hpath
    · intro hfile
      have hsegments := List.append_cancel_left (congrArg Path.segments hfile)
      exact hpath (m.pagePath_eq_of_pageSegments n hsegments)

/-- A nested class, and a class in a package that has the name of the outer class. -/
theorem class_pages_are_distinct_nested_and_packaged :
    let m : BinaryName := ⟨["a"], "B", (["C", "D"] : List Text), by decide, by decide⟩
    let n : BinaryName := ⟨["a", "B"], "C", (["D"] : List Text), by decide, by decide⟩
    m.text = "a.B$C$D" ∧ n.text = "a.B.C$D" ∧ m.text ≠ n.text ∧
      pagePath? m.text ≠ pagePath? n.text ∧
      ∀ root, ∃ mPath nPath mFile nFile,
        pagePath? m.text = some mPath ∧ pagePath? n.text = some nPath ∧
        PageStore.pageFile root mPath = .ok mFile ∧
        PageStore.pageFile root nPath = .ok nFile ∧ mFile ≠ nFile := by
  intro m n
  have hne : m.text ≠ n.text := by decide
  exact ⟨by decide, by decide, hne, class_pages_are_distinct.2 m n hne⟩

end ApiStubs
