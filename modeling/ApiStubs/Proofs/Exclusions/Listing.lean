import ApiStubs.Exclusions
import ApiStubs.Proofs.Files.Tree
import ApiStubs.Proofs.Text.Lines
import ApiStubs.Proofs.Text.Split
import ApiStubs.Proofs.Text.Trim
import ApiStubs.Proofs.Text.Utf8

/-! Files of names, one on a line. Every text is the layout of one list of names, and these are the
names that are read from it, whatever blanks, comments and empty lines there are and however the
lines end. -/

namespace ApiStubs

namespace Exclusions

variable {name line comment text : Text} {names : List Text}

structure Listable (name : Text) : Prop where
  ne_nil : name ≠ []
  trimmed : name.IsTrimmed
  no_sign : .char '#' ∉ name
  on_line : name.OnLine

/-- Blanks of which none ends the line. -/
structure IsPadding (text : Text) : Prop where
  blank : text.IsBlank
  on_line : text.OnLine

structure IsComment (text : Text) : Prop where
  sign : ∀ c ∈ text.head?, c = .char '#'
  on_line : text.OnLine

inductive Entry : Text → List Text → Prop
  | name {before name after comment : Text} (hbefore : IsPadding before) (hname : Listable name)
      (hafter : IsPadding after) (hcomment : IsComment comment) :
      Entry (before ++ (name ++ after) ++ comment) [name]
  | none {before comment : Text} (hbefore : IsPadding before) (hcomment : IsComment comment) :
      Entry (before ++ comment) []

inductive LineEnd : Text → Prop
  | one {c : CodePoint} (h : Text.endsLine c = true) : LineEnd [c]
  | pair : LineEnd [.char '\r', .char '\n']

/-- A file of lines. The last one need not be ended. -/
inductive Listing : Text → List Text → Prop
  | last {line : Text} {names : List Text} (h : Entry line names) : Listing line names
  | more {line ending rest : Text} {names others : List Text} (h : Entry line names)
      (hending : LineEnd ending) (hrest : Listing rest others) :
      Listing (line ++ (ending ++ rest)) (names ++ others)

theorem ofNames_of_listable (h : ∀ name ∈ names, Listable name) (consuming : Bool) :
    ofNames names consuming = ⟨names, consuming, names⟩ := by
  have hmap : names.map Text.trim = names :=
    (List.map_congr_left fun name hname => Text.trim_eq_self (h name hname).trimmed).trans
      (List.map_id' names)
  have hfilter : (names.filter fun name => !name.isEmpty) = names :=
    List.filter_eq_self.2 fun name hname => by simp [(h name hname).ne_nil]
  rw [ofNames, hmap, hfilter]

def listed (text : Text) : List Text :=
  ((namesInText text).map Text.trim).filter fun name => !name.isEmpty

theorem listed_append {c : CodePoint} (h : Text.isLineBoundary c = true) (before after : Text) :
    listed (before ++ c :: after) = listed before ++ listed after := by
  simp only [listed, namesInText, Text.lines, Text.splitWhen_append h, List.map_append,
    List.filter_append]

theorem listed_newline_cons (text : Text) : listed (.char '\n' :: text) = listed text := by
  have happend := listed_append (c := .char '\n') (by decide) [] text
  rwa [show listed [] = [] from rfl, List.nil_append, List.nil_append] at happend

theorem listed_of_onLine (h : line.OnLine) :
    listed line =
      if Text.trim (line.takeWhile isOfName) = [] then []
      else [Text.trim (line.takeWhile isOfName)] := by
  rw [listed, namesInText, Text.lines, Text.splitWhen_eq_singleton h.not_isLineBoundary]
  split_ifs with hblank <;> simp [hblank]

section Entry

theorem isOfName_of_not_mem (h : .char '#' ∉ text) : ∀ c ∈ text, isOfName c = true := by
  rintro c hc
  simp only [isOfName, bne_iff_ne]
  rintro rfl
  exact h hc

theorem IsPadding.no_sign (h : IsPadding text) : .char '#' ∉ text :=
  fun hmem => absurd (h.blank _ hmem) (by decide)

theorem IsComment.takeWhile_append (h : IsComment comment) (hno : .char '#' ∉ text) :
    (text ++ comment).takeWhile isOfName = text := by
  rw [List.takeWhile_append_of_pos (isOfName_of_not_mem hno)]
  cases comment with
  | nil => simp
  | cons c rest =>
    have hc : c = .char '#' := h.sign c rfl
    subst hc
    simp [isOfName]

theorem Entry.onLine (h : Entry line names) : line.OnLine := by
  cases h with
  | name hbefore hname hafter hcomment =>
    exact (hbefore.on_line.append (hname.on_line.append hafter.on_line)).append hcomment.on_line
  | none hbefore hcomment => exact hbefore.on_line.append hcomment.on_line

theorem Entry.listed_eq (h : Entry line names) : listed line = names := by
  rw [listed_of_onLine h.onLine]
  cases h with
  | @name before name after comment hbefore hname hafter hcomment =>
    have hno : .char '#' ∉ before ++ (name ++ after) := by
      simp [hbefore.no_sign, hname.no_sign, hafter.no_sign]
    rw [hcomment.takeWhile_append hno,
      Text.trim_eq_of_append hbefore.blank hafter.blank hname.trimmed, if_neg hname.ne_nil]
  | none hbefore hcomment =>
    rw [hcomment.takeWhile_append hbefore.no_sign, if_pos hbefore.blank.trim_eq]

theorem Entry.listable (h : Entry line names) : ∀ name ∈ names, Listable name := by
  cases h with
  | name _ hname _ _ => simpa using hname
  | none _ _ => simp

theorem isComment_dropWhile (h : line.OnLine) : IsComment (line.dropWhile isOfName) where
  sign c hc := by
    have hhead := List.head?_dropWhile_not isOfName line
    rw [Option.mem_def.1 hc] at hhead
    simpa [isOfName] using hhead
  on_line := h.subset (List.dropWhile_sublist _).subset

/-- Without a number sign, a line is blanks around a trimmed text, a name unless it is empty. -/
theorem exists_entry_append {body : Text} (h : body.OnLine) (hno : .char '#' ∉ body)
    (hcomment : IsComment comment) : ∃ names, Entry (body ++ comment) names := by
  obtain ⟨before, after, heq, hbefore, hafter⟩ := Text.eq_append_trim_append body
  by_cases hblank : Text.trim body = []
  · have hpadding : IsPadding body := by
      rw [hblank, List.nil_append] at heq
      exact ⟨heq ▸ Text.IsBlank.append hbefore hafter, h⟩
    exact ⟨[], .none hpadding hcomment⟩
  · have hname : Listable (Text.trim body) :=
      ⟨hblank, Text.isTrimmed_trim body, fun hmem => hno (Text.mem_of_mem_trim hmem),
        h.subset fun _ => Text.mem_of_mem_trim⟩
    rw [heq] at h ⊢
    have hbefore' : IsPadding before := ⟨hbefore, h.subset (by simp)⟩
    have hafter' : IsPadding after := ⟨hafter, h.subset (by simp)⟩
    exact ⟨[Text.trim body], .name hbefore' hname hafter' hcomment⟩

theorem exists_entry (h : line.OnLine) : ∃ names, Entry line names := by
  have hno : .char '#' ∉ line.takeWhile isOfName := fun hmem => by
    have hsign := List.mem_takeWhile_imp hmem
    cases hsign
  have hentry := exists_entry_append (h.subset (List.takeWhile_sublist _).subset) hno
    (isComment_dropWhile h)
  rwa [List.takeWhile_append_dropWhile] at hentry

end Entry

/-- A line feed that is taken along with the carriage return before it was an empty line. -/
theorem listed_unifyNewlines_append {ending : Text} (hline : line.OnLine) (h : LineEnd ending)
    (rest : Text) :
    listed (Text.unifyNewlines (line ++ (ending ++ rest))) =
      listed line ++ listed (Text.unifyNewlines rest) := by
  rw [Text.unifyNewlines_append hline.return_not_mem]
  cases h with
  | @one c hend =>
    by_cases hreturn : c = .char '\r'
    · subst hreturn
      obtain ⟨more, heq, hmore⟩ := Text.unifyNewlines_return rest
      rw [List.singleton_append, heq, listed_append (by decide)]
      rcases hmore with hmore | hmore
      · rw [hmore]
      · rw [hmore, listed_newline_cons]
    · have hboundary : Text.isLineBoundary c = true := by
        simpa [Text.endsLine, hreturn] using hend
      rw [List.singleton_append, Text.unifyNewlines_cons hreturn, listed_append hboundary]
  | pair => exact listed_append (by decide) _ _

theorem Listing.listed_eq (h : Listing text names) : listed (Text.unifyNewlines text) = names := by
  induction h with
  | last h => rw [Text.unifyNewlines_of_not_mem h.onLine.return_not_mem, h.listed_eq]
  | more h hending _ ih => rw [listed_unifyNewlines_append h.onLine hending, h.listed_eq, ih]

theorem Listing.listable (h : Listing text names) : ∀ name ∈ names, Listable name := by
  induction h with
  | last h => exact h.listable
  | more h _ _ ih =>
    intro name hname
    rcases List.mem_append.1 hname with hname | hname
    · exact h.listable name hname
    · exact ih name hname

theorem exists_listing (text : Text) : ∃ names, Listing text names := by
  induction text with
  | nil =>
    obtain ⟨names, hentry⟩ := @exists_entry [] (by decide)
    exact ⟨names, .last hentry⟩
  | cons c rest ih =>
    obtain ⟨others, hrest⟩ := ih
    by_cases hend : Text.endsLine c = true
    · obtain ⟨names, hentry⟩ := @exists_entry [] (by decide)
      exact ⟨names ++ others, .more hentry (.one hend) hrest⟩
    · -- the character joins the first line
      have honLine {line : Text} (hline : line.OnLine) : Text.OnLine (c :: line) :=
        List.forall_mem_cons.2 ⟨Bool.eq_false_iff.2 hend, hline⟩
      cases hrest with
      | last h =>
        obtain ⟨names, hentry⟩ := exists_entry (honLine h.onLine)
        exact ⟨names, .last hentry⟩
      | more h hending hmore =>
        obtain ⟨names, hentry⟩ := exists_entry (honLine h.onLine)
        exact ⟨_, .more hentry hending hmore⟩

theorem listing_iff : Listing text names ↔ listed (Text.unifyNewlines text) = names := by
  constructor
  · exact Listing.listed_eq
  · rintro rfl
    obtain ⟨names, h⟩ := exists_listing text
    rwa [h.listed_eq]

instance (text : Text) (names : List Text) : Decidable (Listing text names) :=
  decidable_of_iff _ listing_iff.symm

theorem ofFile_eq_ok {files : FileTree} {path : Path} {octets : List UInt8}
    (hread : files.read path = .ok octets) (hdecode : Utf8.decode octets = .ok text)
    (consuming : Bool) :
    ofFile files path consuming =
      .ok ⟨listed (Text.unifyNewlines text), consuming, listed (Text.unifyNewlines text)⟩ := by
  have htext : files.readText path = .ok (Text.unifyNewlines text) :=
    FileTree.readText_eq_ok_iff.2 ⟨octets, text, hread, hdecode, rfl⟩
  rw [ofFile, htext]
  rfl

end Exclusions

open Exclusions

/-- A file gives the names it was written to list, with repetitions and in order, however it is laid
out. And what any decodable file gives is the one list that it is a layout of, so that its names
are trimmed, not blank, and free of number signs and line ends, and to trim them again changes
nothing. -/
theorem exclusion_file_gives_listed_names {files : FileTree} {path : Path} {octets : List UInt8}
    (hread : files.read path = .ok octets) (consuming : Bool) :
    (∀ text names, Utf8.encode text = .ok octets → Listing text names →
        ofFile files path consuming = .ok ⟨names, consuming, names⟩) ∧
      ∀ text, Utf8.decode octets = .ok text →
        ∃ names, ofFile files path consuming = .ok ⟨names, consuming, names⟩ ∧
          (∀ others, Listing text others ↔ others = names) ∧
          (∀ name ∈ names, Listable name) ∧
          ofNames names consuming = ⟨names, consuming, names⟩ := by
  constructor
  · intro text names hencode hlisting
    rw [ofFile_eq_ok hread (Utf8.decode_of_encode hencode), hlisting.listed_eq]
  · intro text hdecode
    have hlistable := (listing_iff.2 (Eq.refl (listed (Text.unifyNewlines text)))).listable
    refine ⟨_, ofFile_eq_ok hread hdecode consuming, fun others => ?_, hlistable,
      ofNames_of_listable hlistable consuming⟩
    rw [listing_iff, eq_comm]

/-- Lines that end in five ways, and the last one not at all, with comments, a wide blank before a
name, a blank within another, and a name that is listed twice. -/
theorem exclusion_file_gives_listed_names_twice :
    let text : Text := "# internal\r\n\u3000a.B\u2028  c d\t# a.B\r\u000C\na.B#"
    let ascii := fun s : String => s.toList.map fun ch => UInt8.ofNat ch.toNat
    let octets := ascii "# internal\r\n" ++ [0xE3, 0x80, 0x80] ++ ascii "a.B" ++
      [0xE2, 0x80, 0xA8] ++ ascii "  c d\t# a.B\r\u000C\na.B#"
    let files := FileTree.mk [(Place.working.enter (ascii "x"), .file octets)]
    let names : List Text := ["a.B", "c d", "a.B"]
    files.read (.ofText "x") = .ok octets ∧ Utf8.encode text = .ok octets ∧
      Utf8.decode octets = .ok text ∧ Listing text names ∧
      ofFile files (.ofText "x") true = .ok ⟨names, true, names⟩ ∧
      ∀ name ∈ names, Listable name := by
  intro text ascii octets files names
  have hread : files.read (.ofText "x") = .ok octets := by rfl
  have hencode : Utf8.encode text = .ok octets := eq_ok_of_toOption (by decide +kernel)
  have hdecode : Utf8.decode octets = .ok text := eq_ok_of_toOption (by decide +kernel)
  have hlisting : Listing text names := by decide +kernel
  obtain ⟨hgives, hany⟩ := exclusion_file_gives_listed_names hread true
  obtain ⟨others, -, hothers, hlistable, -⟩ := hany text hdecode
  obtain rfl : names = others := (hothers names).1 hlisting
  exact ⟨hread, hencode, hdecode, hlisting, hgives text names hencode hlisting, hlistable⟩

end ApiStubs
