import ApiStubs.Documented.PagePath
import ApiStubs.Proofs.Documented.Page
import ApiStubs.Proofs.Files.Path
import Mathlib.Tactic.SplitIfs

/-! Loading pages. The path of a class always ends in a name, so there is a file to look for, and
what is wrong with that file concerns the one page. -/

namespace ApiStubs

theorem mem_of_pagePath? {className pagePath : Text} (h : pagePath? className = some pagePath) :
    CodePoint.char 'h' ∈ pagePath := by
  have hname : ∀ segments, CodePoint.char 'h' ∈ pageName segments := by
    intro segments
    have hend : CodePoint.char 'h' ∈ Text.ofString ".html" := by decide
    exact List.mem_append_right _ hend
  rw [pagePath?] at h
  dsimp only at h
  split_ifs at h with hanonymous hpackage
  · cases h
    exact hname _
  · cases h
    exact List.mem_append_right _ (hname _)

theorem segments_ne_nil_of_pagePath? {className pagePath : Text}
    (h : pagePath? className = some pagePath) : (Path.ofText pagePath).segments ≠ [] := by
  have hmem := mem_of_pagePath? h
  have hjoin : Text.join [.char '/'] (pagePath.splitOn (.char '/')) = pagePath :=
    List.intercalate_splitOn _
  rw [← hjoin] at hmem
  rcases Text.mem_of_mem_join hmem with hslash | ⟨piece, hpiece, hh⟩
  · exact absurd hslash (by decide)
  · have hdot : piece ≠ Text.ofString "." := by
      rintro rfl
      exact absurd hh (by decide)
    have hkept : piece ∈ (Path.ofText pagePath).segments :=
      Path.mem_segments_ofText.2 ⟨hpiece, List.ne_nil_of_mem hh, hdot⟩
    exact List.ne_nil_of_mem hkept

theorem PageStore.exists_pageFile {className pagePath : Text}
    (h : pagePath? className = some pagePath) (root : Path) :
    ∃ file, PageStore.pageFile root pagePath = .ok file := by
  cases hlast : (Path.ofText pagePath).segments.getLast? with
  | none => exact absurd (List.getLast?_eq_none_iff.1 hlast) (segments_ne_nil_of_pagePath? h)
  | some name =>
    rw [PageStore.pageFile, Path.withExtension?, hlast]
    exact ⟨_, rfl⟩

theorem FileTree.exists_isFile {files : FileTree} {file : Path}
    (h : ∀ path, files.locate file ≠ .error (.refused .nameTooLong path)) :
    ∃ isFile, files.isFile file = .ok isFile := by
  have hlook : ∃ node?, files.look file = .ok node? := by
    rw [look]
    split
    · exact ⟨_, rfl⟩
    · rename_i path hnode
      rw [nodeAt] at hnode
      rcases bind_eq_error_iff.1 hnode with hlocate | ⟨place, -, hnode⟩
      · exact absurd hlocate (h path)
      · split at hnode <;> cases hnode
    · exact ⟨_, rfl⟩
  obtain ⟨node?, hlook⟩ := hlook
  rw [isFile, hlook]
  rcases node? with - | ⟨octets | -⟩ <;> exact ⟨_, rfl⟩

def Json.isWithin : Json.Reading Json → Bool
  | .error (.beyond _) => false
  | _ => true

namespace PageStore

variable [Json.DepthLimit] {files : FileTree} {root : Path} {pagePath : Text}

theorem fresh_of_readPage {file : Path} {page : Page}
    (h : readPage files pagePath file = .ok page) : page.fresh = page := by
  rw [readPage] at h
  split at h
  · cases h
  · split at h
    · cases h
    · cases h
    · cases h
      rfl
    · cases h

theorem fresh_of_load {l : Lookup} (h : load files root pagePath = .ok l) : l.fresh = l := by
  obtain ⟨file, -, h⟩ := bind_eq_ok_iff.1 h
  obtain ⟨isFile, -, h⟩ := bind_eq_ok_iff.1 h
  split_ifs at h
  · obtain ⟨page, hpage, hreturn⟩ := bind_eq_ok_iff.1 h
    cases hreturn
    exact congrArg Lookup.found (fresh_of_readPage hpage)
  · cases h
    rfl

/-- The name of the file is not too long, and the text in it is not beyond the limits of JSON. -/
structure Accessible (files : FileTree) (root : Path) (pagePath : Text) : Prop where
  short : ∀ file path, pageFile root pagePath = .ok file →
    files.locate file ≠ .error (.refused .nameTooLong path)
  within : ∀ file text, pageFile root pagePath = .ok file → files.readText file = .ok text →
    Json.isWithin (Json.readText text) = true

theorem failed_of_readPage {file : Path} {fault : PageFault}
    (hwithin : ∀ text, files.readText file = .ok text →
      Json.isWithin (Json.readText text) = true)
    (h : readPage files pagePath file = .error fault) :
    ∃ problem, fault = .failed pagePath problem := by
  rw [readPage] at h
  split at h
  · cases h
    exact ⟨_, rfl⟩
  · rename_i text htext
    split at h
    · cases h
      exact ⟨_, rfl⟩
    · rename_i limit hread
      have htrue := hwithin text htext
      rw [hread] at htrue
      cases htrue
    · cases h
    · cases h
      exact ⟨_, rfl⟩

theorem failed_of_load {className : Text} {fault : PageFault}
    (hpath : pagePath? className = some pagePath) (haccess : Accessible files root pagePath)
    (h : load files root pagePath = .error fault) :
    ∃ problem, fault = .failed pagePath problem := by
  obtain ⟨file, hfile⟩ := exists_pageFile hpath root
  obtain ⟨isFile, hisFile⟩ := FileTree.exists_isFile fun path => haccess.short file path hfile
  rw [load, hfile] at h
  change ((files.isFile file).mapError _ >>= _) = _ at h
  rw [hisFile] at h
  cases isFile with
  | false => cases h
  | true =>
    change (readPage files pagePath file >>= _) = _ at h
    cases hread : readPage files pagePath file with
    | ok page => rw [hread] at h; cases h
    | error fault' =>
      rw [hread] at h
      cases h
      exact failed_of_readPage (fun text => haccess.within file text hfile) hread

end PageStore
end ApiStubs
