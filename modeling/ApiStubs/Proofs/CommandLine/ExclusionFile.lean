import ApiStubs.Proofs.Batch.Writable
import ApiStubs.Proofs.CommandLine.Compile
import ApiStubs.Proofs.CommandLine.Options
import ApiStubs.Proofs.Files.Named
import ApiStubs.Proofs.Settings
import ApiStubs.Proofs.Text.Lines

/-! The file that lists exclusions. Where nothing else is in the way, what is wrong with the file is
explained, unless its octets are no text. -/

namespace ApiStubs

namespace Exclusions

theorem not_isTorn_of_mem_namesInText {text name : Text} (h : text.isTorn = false)
    (hname : name ∈ namesInText text) : name.isTorn = false := by
  obtain ⟨line, hline, rfl⟩ := List.mem_map.1 hname
  refine List.any_eq_false.2 fun c hc => List.any_eq_false.1 h c ?_
  exact Text.mem_of_mem_splitWhen hline ((List.takeWhile_sublist _).subset hc)

theorem not_isTorn_of_mem_ofNames {names : List Text} (h : ∀ name ∈ names, name.isTorn = false)
    (consuming : Bool) : ∀ name ∈ (ofNames names consuming).names, name.isTorn = false := by
  intro name hname
  obtain ⟨listed, hlisted, rfl⟩ := List.mem_map.1 (List.mem_of_mem_filter hname)
  exact Lua.not_isTorn_trim (h listed hlisted)

end Exclusions

theorem FileTree.not_isTorn_of_readText {t : FileTree} {p : Path} {text : Text}
    (h : t.readText p = .ok text) : text.isTorn = false := by
  obtain ⟨octets, decoded, -, hdecoded, rfl⟩ := readText_eq_ok_iff.1 h
  exact Text.not_isTorn_unifyNewlines (Utf8.not_isTorn_of_decode hdecoded)

namespace CommandLine

variable {environment : List (Text × Text)} {files : FileTree} {o : Options} {words : List Text}
  {s : Settings} {classes : List ObservedClass} {exclude : Path}

section Exclusions

variable {w : World} {consuming : Bool} (hexclude : s.excludeFile = some exclude)
include hexclude

theorem readExclusions_of_text {text : Text} (h : w.files.readText exclude = .ok text) :
    (readExclusions s consuming).run w =
      (.ok (.ofNames (Exclusions.namesInText text) consuming), w) := by
  rw [readExclusions]
  simp only [hexclude]
  rw [bind_run_ok _ (get_run w), Exclusions.ofFile, h]
  rfl

theorem readExclusions_of_refused {problem : FileProblem} {asked : Path}
    (h : w.files.read exclude = .error (.refused problem asked)) :
    (readExclusions s consuming).run w = (.error (.failed (.exclusions problem asked)), w) := by
  rw [readExclusions]
  simp only [hexclude]
  rw [bind_run_ok _ (get_run w), Exclusions.ofFile, FileTree.readText_eq_file_iff.2 h]
  rfl

theorem readExclusions_of_undecodable {octets : List UInt8} {fault : Utf8.Fault}
    (h : w.files.read exclude = .ok octets) (hdecode : Utf8.decode octets = .error fault) :
    (readExclusions s consuming).run w = (.error (.crashed (.encoding fault)), w) := by
  rw [readExclusions]
  simp only [hexclude]
  rw [bind_run_ok _ (get_run w), Exclusions.ofFile,
    FileTree.readText_eq_encoding_iff.2 ⟨octets, h, hdecode⟩]
  rfl

end Exclusions

theorem nameable_of_checkOptionalPath {value : Json} {p : Path}
    (hvalue : ∀ text, value = .str text → Utf8.Nameable text)
    (h : Settings.checkOptionalPath value = .ok (some p)) : p.Nameable := by
  cases value with
  | str text =>
    cases h
    exact Path.nameable_ofText (hvalue text rfl)
  | _ => cases h

theorem nameable_of_checkMemberOr {values : List (Text × Json)} {key : Text} {p : Path}
    (hvalue : ∀ text, values.lookup key = some (.str text) → Utf8.Nameable text)
    (h : checkMemberOr none values key Settings.checkOptionalPath = .ok (some p)) : p.Nameable := by
  rw [checkMemberOr] at h
  split at h
  · rename_i value hlookup
    refine nameable_of_checkOptionalPath (fun text htext => hvalue text ?_)
      (Checked.under_eq_ok_iff.1 h)
    rw [hlookup, htext]
  · cases h

theorem nameable_of_replaces [IntReader] {name text : Text} (h : Replaces name (.str text))
    (hlevel : name ≠ "log_level") : Utf8.Nameable text := by
  cases h with
  | @path _ given _ _ hvalue =>
    rw [pathValue?] at hvalue
    split at hvalue
    · rename_i octets hoctets
      split_ifs at hvalue with hnull
      cases hvalue
      have hgiven : Utf8.Nameable given :=
        Utf8.nameable_iff.2 ⟨octets, hoctets, by simpa using hnull⟩
      exact (Path.nameable_ofText hgiven).render
    · cases hvalue
  | workers hvalue =>
    obtain ⟨count, -, hcount⟩ := Option.map_eq_some_iff.1 hvalue
    cases hcount
  | logLevel => exact absurd rfl hlevel

theorem nameable_excludeFile [IntReader] (hwords : Command.ofWords words = .compile o)
    (hnamed : ∀ value ∈ environment.map Prod.snd, Utf8.Nameable value)
    (hs : settings environment o = .ok s) (hexclude : s.excludeFile = some exclude) :
    exclude.Nameable := by
  obtain ⟨s₀, hs₀, hoverride⟩ := bind_eq_ok_iff.1 hs
  obtain ⟨-, -, hgiven, -⟩ := Settings.checkMembers_eq_ok_iff.1 (Settings.ofValues_eq_ok_iff.1 hs₀)
  obtain ⟨-, -, hfinal, -⟩ :=
    Settings.checkMembers_eq_ok_iff.1 (Settings.ofValues_eq_ok_iff.1 hoverride)
  rw [hexclude] at hfinal
  refine nameable_of_checkMemberOr (fun text hlookup => ?_) hfinal
  change some ((o.replaced.lookup (Text.ofString "exclude_file")).getD
    (Settings.pathJson s₀.excludeFile)) = _ at hlookup
  cases hreplaced : o.replaced.lookup (Text.ofString "exclude_file") with
  | some value =>
    rw [hreplaced] at hlookup
    cases hlookup
    exact nameable_of_replaces (replaces_of_ofWords hwords (mem_of_lookup hreplaced)) (by decide)
  | none =>
    rw [hreplaced] at hlookup
    cases hpath : s₀.excludeFile with
    | none =>
      rw [hpath] at hlookup
      cases hlookup
    | some p =>
      rw [hpath] at hlookup hgiven
      cases hlookup
      refine (nameable_of_checkMemberOr (fun raw hraw => ?_) hgiven).render
      rw [Settings.lookup_values, if_pos (by decide)] at hraw
      obtain ⟨value, hvalue, hsnd⟩ := Option.map_eq_some_iff.1 hraw
      obtain ⟨raw', hlookup, -, rfl⟩ := Settings.value?_eq_some_iff.1 hvalue
      cases hsnd
      refine (hnamed raw' (List.mem_map_of_mem (mem_of_lookup hlookup))).subset fun c hc => ?_
      exact Text.mem_of_mem_trim hc

section

variable [Json.DepthLimit]

/-- All but the exclusions is in order: the settings, the dump, the place of the pages, what each
class alone comes to, and the place of the result. -/
structure Ready (environment : List (Text × Text)) (files : FileTree) (o : Options) (s : Settings)
    (classes : List ObservedClass) : Prop where
  settings : settings environment o = .ok s
  workers : o.consuming = true → s.workers ≤ 1
  dump : ∃ dump, s.descriptors = some dump ∧ Dump.read files dump = .ok classes
  root : ∀ root, s.docsDir = some root → ∃ found, files.isDirectory root = .ok found
  alone : ∀ c ∈ classes, Batch.Writable files (s.docsDir.map PageStore.ofRoot) c
  output : ∃ made, files.makeDirectories s.output.parent = (made, none) ∧
    ∀ octets, ∃ files', made.write s.output octets = .ok files'

def compileListed (dump : Path) (s : Settings) (exclusions : Exclusions) : Doing Unit := do
  let store ← openStore s
  let classes ← orStop stopOfDump (Dump.read (← get).files dump)
  let (result, reports) := compile (← get).files s.workers classes ⟨exclusions, store⟩
  let r ← orCrash .pool result
  writeOutput s.output r
  showResult s.output r reports

theorem doCompile_eq (environment : List (Text × Text)) (o : Options) :
    doCompile environment o = orStop .failed (checkedSettings environment o) >>= fun begun =>
      printPanel (panelMarkup begun.1 begun.2) >>= fun _ =>
        readExclusions begun.2 o.consuming >>= compileListed begun.1 begun.2 := rfl

namespace Ready

variable (h : Ready environment files o s classes)
include h

theorem checkedSettings_eq {dump : Path} (hdump : s.descriptors = some dump) :
    checkedSettings environment o = .ok (dump, s) := by
  have hworkers : (o.consuming && decide (1 < s.workers)) = false := by
    cases hconsuming : o.consuming with
    | false => rfl
    | true => simpa using h.workers hconsuming
  rw [checkedSettings, h.settings]
  simp only [hdump, hworkers, Bool.false_eq_true, if_false]

/-- Up to the exclusions nothing happens but that the panel is shown. -/
theorem doCompile_run {dump : Path} (hdump : s.descriptors = some dump) :
    (∃ panel, (doCompile environment o).run ⟨.blank, files⟩ =
      (readExclusions s o.consuming >>= compileListed dump s).run
        ⟨{ Screen.blank with panel := panel }, files⟩) ∨
    ∃ cause, cause.isConsole = true ∧ (doCompile environment o).run ⟨.blank, files⟩ =
      (.error (.crashed cause), ⟨.blank, files⟩) := by
  have hbegun : (orStop Stop.failed (.ok (dump, s))).run ⟨.blank, files⟩ =
      (.ok (dump, s), ⟨.blank, files⟩) := rfl
  rw [doCompile_eq, h.checkedSettings_eq hdump, bind_run_ok _ hbegun]
  rcases printPanel_run (panelMarkup dump s) ⟨.blank, files⟩ with
    ⟨panel, hrun⟩ | ⟨cause, hcause, hrun⟩
  · exact .inl ⟨panel, bind_run_ok _ hrun⟩
  · exact .inr ⟨cause, hcause, bind_run_error _ hrun⟩

theorem openStore_run (screen : Screen) :
    (openStore s).run ⟨screen, files⟩ =
      (.ok (s.docsDir.map PageStore.ofRoot), ⟨screen, files⟩) := by
  rw [openStore]
  cases hroot : s.docsDir with
  | none => rfl
  | some root =>
    obtain ⟨found, hfound⟩ := h.root root hroot
    rw [bind_run_ok _ (get_run _), PageStore.opened, hfound]
    rfl

theorem writes {r : Compilation} {value : Json} (hvalue : r.textRecord = .ok value) :
    ∃ files', Writes s.output r files files' := by
  obtain ⟨made, hmade, hwrite⟩ := h.output
  obtain ⟨octets, hoctets⟩ := Json.exists_encode_write value
  obtain ⟨files', hfiles'⟩ := hwrite octets
  exact ⟨files', made, value, octets, hmade, hvalue, hoctets, hfiles'⟩

/-- Once it is known what to exclude, only the console can break off the rest. -/
theorem compileListed_run {dump : Path} (hdump : s.descriptors = some dump) {e : Exclusions}
    (hexclusions : exclusionsOf files o.consuming s.excludeFile = .ok e) {r : Compilation}
    {value : Json}
    (hr : ((Batch.compile files classes).run ⟨e, s.docsDir.map PageStore.ofRoot⟩).result = .ok r)
    (hvalue : r.textRecord = .ok value) (screen : Screen) :
    ∃ files' screen', Holds s.output r files files' ∧
      ((compileListed dump s e).run ⟨screen, files⟩ = (.ok (), ⟨screen', files'⟩) ∨
        ∃ cause, cause.isConsole = true ∧ (compileListed dump s e).run ⟨screen, files⟩ =
          (.error (.crashed cause), ⟨screen', files'⟩)) := by
  obtain ⟨dump', hdump', hread⟩ := h.dump
  cases hdump'.symm.trans hdump
  have hprepared : Prepared environment files o s classes ⟨e, s.docsDir.map PageStore.ofRoot⟩ :=
    ⟨h.settings, h.workers, ⟨dump, hdump, hread⟩, hexclusions, rfl⟩
  have hcompile : (compile files s.workers classes ⟨e, s.docsDir.map PageStore.ofRoot⟩).1 =
      .ok r := by
    refine eq_ok_of_toOption ?_
    rw [hprepared.compile_toOption h.workers, hr]
    rfl
  obtain ⟨files', hwrites⟩ := h.writes hvalue
  have hcanonical := Batch.canonical_of_compile hprepared.readable hprepared.opened hr
  have hwriting : (writeOutput s.output r).run ⟨screen, files⟩ = (.ok (), ⟨screen, files'⟩) :=
    @Writes.run_eq r s.output ⟨screen, files⟩ files' hwrites
  have hreading : (orStop stopOfDump (Dump.read files dump)).run ⟨screen, files⟩ =
      (.ok classes, ⟨screen, files⟩) := by
    rw [hread]
    rfl
  rw [compileListed, bind_run_ok _ (h.openStore_run screen), bind_run_ok _ (get_run _)]
  dsimp only
  rw [bind_run_ok _ hreading, bind_run_ok _ (get_run _), hcompile,
    bind_run_ok _ (orCrash_ok_run _ r _), bind_run_ok _ hwriting]
  have hreads (reports : List Diagnostic) :
      Reads files' Stop.IsConsole (fun _ => True) (showResult s.output r reports) :=
    reads_showResult s.output r reports
  obtain ⟨screen', ⟨_, hshow, -⟩ | ⟨_, hshow, cause, rfl, hcause⟩⟩ := hreads _ screen
  · exact ⟨files', screen', hwrites.holds hcanonical, .inl hshow⟩
  · exact ⟨files', screen', hwrites.holds hcanonical, .inr ⟨cause, hcause, hshow⟩⟩

end Ready

theorem exists_listed (hready : Ready environment files o s classes) {text : Text}
    (htext : files.readText exclude = .ok text) :
    ∃ r value, ((Batch.compile files classes).run
        ⟨.ofNames (Exclusions.namesInText text) o.consuming,
          s.docsDir.map PageStore.ofRoot⟩).result = .ok r ∧ r.textRecord = .ok value := by
  obtain ⟨dump, -, hread⟩ := hready.dump
  have hlisted : ∀ name ∈ Exclusions.namesInText text, name.isTorn = false := fun name =>
    Exclusions.not_isTorn_of_mem_namesInText (FileTree.not_isTorn_of_readText htext)
  exact Batch.exists_writable (Dump.accepted_of_read hread) (fun _ => opened_of_map) hready.alone
    rfl (Exclusions.not_isTorn_of_mem_ofNames hlisted o.consuming)

section Run

variable [IntReader] (hwords : Command.ofWords words = .compile o)
  (hready : Ready environment files o s classes)
  (hshown : (run environment files words).1.isUnshown = false)
include hwords hready hshown

theorem run_eq_settle {dump : Path} (hdump : s.descriptors = some dump) :
    ∃ panel, run environment files words =
      settle ((readExclusions s o.consuming >>= compileListed dump s).run
        ⟨{ Screen.blank with panel := panel }, files⟩) := by
  rw [run, hwords] at hshown ⊢
  dsimp only at hshown ⊢
  rcases hready.doCompile_run hdump with ⟨panel, hrun⟩ | ⟨cause, hcause, hrun⟩
  · exact ⟨panel, congrArg settle hrun⟩
  · rw [hrun] at hshown
    exact absurd hcause (Bool.eq_false_iff.1 hshown)

variable (hexclude : s.excludeFile = some exclude)
include hexclude

theorem run_of_text {text : Text} (htext : files.readText exclude = .ok text) :
    ∃ r, ((Batch.compile files classes).run
        ⟨.ofNames (Exclusions.namesInText text) o.consuming,
          s.docsDir.map PageStore.ofRoot⟩).result = .ok r ∧
      Holds s.output r files (run environment files words).2.files ∧
      (run environment files words).1 = .exit 0 := by
  obtain ⟨r, value, hr, hvalue⟩ := exists_listed hready htext
  obtain ⟨dump, hdump, -⟩ := hready.dump
  obtain ⟨panel, hrun⟩ := run_eq_settle hwords hready hshown hdump
  have hexclusions : exclusionsOf files o.consuming s.excludeFile =
      .ok (.ofNames (Exclusions.namesInText text) o.consuming) := by
    rw [hexclude, exclusionsOf, Exclusions.ofFile, htext]
    rfl
  have hlisted : (readExclusions s o.consuming).run ⟨{ Screen.blank with panel := panel }, files⟩ =
      (.ok (.ofNames (Exclusions.namesInText text) o.consuming), _) :=
    readExclusions_of_text hexclude htext
  obtain ⟨files', screen', hholds, hend | ⟨cause, hcause, hend⟩⟩ :=
    hready.compileListed_run hdump hexclusions hr hvalue { Screen.blank with panel := panel }
  · rw [hrun, bind_run_ok _ hlisted, hend]
    exact ⟨r, hr, hholds, rfl⟩
  · rw [hrun, bind_run_ok _ hlisted, hend] at hshown
    exact absurd hcause (Bool.eq_false_iff.1 hshown)

theorem run_of_refused {problem : FileProblem} {asked : Path}
    (hread : files.read exclude = .error (.refused problem asked)) :
    (run environment files words).1 = .exit 1 ∧ (run environment files words).2.files = files ∧
      ∃ lines, Screen.textLines (Failure.exclusions problem asked).markup = .ok lines ∧
        (run environment files words).2.screen.lines = lines.filter fun line => !line.isEmpty := by
  obtain ⟨dump, hdump, -⟩ := hready.dump
  obtain ⟨panel, hrun⟩ := run_eq_settle hwords hready hshown hdump
  have hrefused : (readExclusions s o.consuming).run ⟨{ Screen.blank with panel := panel }, files⟩ =
      (.error (.failed (.exclusions problem asked)), _) :=
    readExclusions_of_refused hexclude hread
  rw [bind_run_error _ hrefused, settle] at hrun
  rcases print_run (Failure.exclusions problem asked).markup
    ⟨{ Screen.blank with panel := panel }, files⟩ with
    ⟨lines, hlines, hprint⟩ | ⟨cause, hcause, hprint⟩
  · rw [hprint] at hrun
    rw [hrun]
    exact ⟨rfl, rfl, lines, hlines, rfl⟩
  · rw [hprint] at hrun
    rw [hrun] at hshown
    exact absurd hcause (Bool.eq_false_iff.1 hshown)

theorem run_of_undecodable {octets : List UInt8} {fault : Utf8.Fault}
    (hread : files.read exclude = .ok octets) (hdecode : Utf8.decode octets = .error fault) :
    (run environment files words).1 = .crash (.encoding fault) ∧
      (run environment files words).2.files = files ∧
      (run environment files words).2.screen.lines = [] := by
  obtain ⟨dump, hdump, -⟩ := hready.dump
  obtain ⟨panel, hrun⟩ := run_eq_settle hwords hready hshown hdump
  have hcrash : (readExclusions s o.consuming).run ⟨{ Screen.blank with panel := panel }, files⟩ =
      (.error (.crashed (.encoding fault)), _) :=
    readExclusions_of_undecodable hexclude hread hdecode
  rw [hrun, bind_run_error _ hcrash]
  exact ⟨rfl, rfl, rfl⟩

end Run

/-- Where all else is in order, a file that is text is read and the result of its names saved, one
that cannot be read is refused with its reason and exit code one, and one whose octets are no text
breaks the command off. So the command ends with an exit code of its own just if it is none of the
last kind. -/
theorem exclusion_file_is_read_or_refused_iff [IntReader]
    (hwords : Command.ofWords words = .compile o)
    (hnamed : ∀ value ∈ environment.map Prod.snd, Utf8.Nameable value)
    (hready : Ready environment files o s classes) (hexclude : s.excludeFile = some exclude)
    (hshown : (run environment files words).1.isUnshown = false) :
    let ending := (run environment files words).1
    let w := (run environment files words).2
    (∀ text, files.readText exclude = .ok text → ∃ r, ((Batch.compile files classes).run
        ⟨.ofNames (Exclusions.namesInText text) o.consuming,
          s.docsDir.map PageStore.ofRoot⟩).result = .ok r ∧
      Holds s.output r files w.files ∧ ending = .exit 0) ∧
    (∀ problem asked, files.read exclude = .error (.refused problem asked) →
      ending = .exit 1 ∧ w.files = files ∧ ∃ lines,
        Screen.textLines (Failure.exclusions problem asked).markup = .ok lines ∧
        w.screen.lines = lines.filter fun line => !line.isEmpty) ∧
    (∀ octets fault, files.read exclude = .ok octets → Utf8.decode octets = .error fault →
      ending = .crash (.encoding fault) ∧ w.files = files ∧ w.screen.lines = []) ∧
    ((ending = .exit 0 ∨ ending = .exit 1) ↔ ∀ octets, files.read exclude = .ok octets →
      ∃ text, Utf8.decode octets = .ok text) := by
  intro ending w
  have htext := fun text => @run_of_text environment files o words s classes exclude _ _ hwords
    hready hshown hexclude text
  refine ⟨htext, fun problem asked => run_of_refused hwords hready hshown hexclude,
    fun octets fault => run_of_undecodable hwords hready hshown hexclude,
    fun hexit octets hread => ?_, fun hdecodes => ?_⟩
  · cases hdecode : Utf8.decode octets with
    | ok text => exact ⟨text, rfl⟩
    | error fault =>
      obtain ⟨hcrash, -⟩ := run_of_undecodable hwords hready hshown hexclude hread hdecode
      change (run environment files words).1 = _ ∨ (run environment files words).1 = _ at hexit
      rw [hcrash] at hexit
      rcases hexit with h | h <;> cases h
  · cases hread : files.read exclude with
    | ok octets =>
      obtain ⟨text, hdecode⟩ := hdecodes octets hread
      obtain ⟨r, -, -, hexit⟩ :=
        htext _ (FileTree.readText_eq_ok_iff.2 ⟨octets, text, hread, hdecode, rfl⟩)
      exact .inl hexit
    | error fault =>
      have hnameable := nameable_excludeFile hwords hnamed hready.settings hexclude
      obtain ⟨problem, asked, rfl⟩ := FileTree.refused_of_read hnameable hread
      exact .inr (run_of_refused hwords hready hshown hexclude hread).1

end

attribute [local instance] Json.DepthLimit.usual IntReader.usual

/-- A variable names the file. It lists the one class of the dump, or it is missing. -/
theorem exclusion_file_is_read_or_refused_iff_by_variable :
    let octets := fun s : String => s.toList.map fun ch => UInt8.ofNat ch.toNat
    let dump := (Place.working.enter (octets "d"),
      Node.file (octets "[\x7b\x22name\x22: \x22A\x22\x7d]"))
    let listed := FileTree.mk
      [dump, (Place.working.enter (octets "x"), .file (octets "A # all"))]
    let missing := FileTree.mk [dump]
    let words : List Text := ["compile", "-d", "d", "-o", "r"]
    let environment : List (Text × Text) := [("STUBRECON_EXCLUDE_FILE", "x")]
    let o : Options := ⟨[("descriptors", .str "d"), ("output", .str "r")], false⟩
    let s : Settings := ⟨some (.ofText "d"), none, some (.ofText "x"), .ofText "r", 1, "INFO"⟩
    let classes : List ObservedClass := [⟨"A", [], [], []⟩]
    Command.ofWords words = .compile o ∧
      (∀ value ∈ environment.map Prod.snd, Utf8.Nameable value) ∧
      Ready environment listed o s classes ∧ Ready environment missing o s classes ∧
      (∃ r, ((Batch.compile listed classes).run ⟨.ofNames ["A"] false, none⟩).result = .ok r ∧
        Holds s.output r listed (run environment listed words).2.files ∧
        (run environment listed words).1 = .exit 0) ∧
      (run environment missing words).1 = .exit 1 ∧
      (run environment missing words).2.files = missing := by
  intro octets dump listed missing words environment o s classes
  have hwords : Command.ofWords words = .compile o := rfl
  have hnamed : ∀ value ∈ environment.map Prod.snd, Utf8.Nameable value :=
    List.forall_mem_singleton.2 (Utf8.nameable_iff.2 ⟨octets "x", rfl, by decide⟩)
  have hsettings : settings environment o = .ok s := eq_ok_of_toOption (by decide +kernel)
  have hlisted : Ready environment listed o s classes :=
    ⟨hsettings, fun _ => le_rfl, ⟨_, rfl, eq_ok_of_toOption (by decide +kernel)⟩, nofun,
      by decide +kernel, listed, rfl, fun _ => ⟨_, rfl⟩⟩
  have hmissing : Ready environment missing o s classes :=
    ⟨hsettings, fun _ => le_rfl, ⟨_, rfl, eq_ok_of_toOption (by decide +kernel)⟩, nofun,
      by decide +kernel, missing, rfl, fun _ => ⟨_, rfl⟩⟩
  have htext : listed.readText (.ofText "x") = .ok "A # all" :=
    eq_ok_of_toOption (by decide +kernel)
  have hread : missing.read (.ofText "x") = .error (.refused .notFound (.ofText "x")) := by rfl
  obtain ⟨-, -, hshown⟩ := endings_of_runs
  obtain ⟨hreads, -⟩ := exclusion_file_is_read_or_refused_iff hwords hnamed hlisted rfl
    (hshown _ List.mem_cons_self)
  obtain ⟨-, hrefuses, -⟩ := exclusion_file_is_read_or_refused_iff hwords hnamed hmissing rfl
    (hshown _ (List.mem_cons_of_mem _ List.mem_cons_self))
  obtain ⟨r, hr, hholds, hexit⟩ := hreads _ htext
  obtain ⟨hfails, hsame, -⟩ := hrefuses _ _ hread
  exact ⟨hwords, hnamed, hlisted, hmissing, ⟨r, hr, hholds, hexit⟩, hfails, hsame⟩

/-- One octet that is no text breaks the command off, and nothing says why. -/
theorem undecodable_exclusions_are_not_explained :
    let octets := fun s : String => s.toList.map fun ch => UInt8.ofNat ch.toNat
    let files := FileTree.mk [(Place.working.enter (octets "d"),
        .file (octets "[\x7b\x22name\x22: \x22A\x22\x7d]")),
      (Place.working.enter (octets "x"), .file [0xFF])]
    let words : List Text := ["compile", "-d", "d", "-o", "r"]
    let environment : List (Text × Text) := [("STUBRECON_EXCLUDE_FILE", "x")]
    (∃ o s classes, Command.ofWords words = .compile o ∧ Ready environment files o s classes ∧
        s.excludeFile = some (.ofText "x")) ∧
      (run environment files words).1.isUnshown = false ∧
      (∃ fault, (run environment files words).1 = .crash (.encoding fault)) ∧
      (run environment files words).2.screen.lines = [] := by
  intro octets files words environment
  let o : Options := ⟨[("descriptors", .str "d"), ("output", .str "r")], false⟩
  let s : Settings := ⟨some (.ofText "d"), none, some (.ofText "x"), .ofText "r", 1, "INFO"⟩
  let classes : List ObservedClass := [⟨"A", [], [], []⟩]
  have hwords : Command.ofWords words = .compile o := rfl
  have hready : Ready environment files o s classes :=
    ⟨eq_ok_of_toOption (by decide +kernel), fun _ => le_rfl,
      ⟨_, rfl, eq_ok_of_toOption (by decide +kernel)⟩, nofun, by decide +kernel,
      files, rfl, fun _ => ⟨_, rfl⟩⟩
  have hshown : (run environment files words).1.isUnshown = false :=
    endings_of_runs.2.2 _ (List.mem_cons_of_mem _ (List.mem_cons_of_mem _ List.mem_cons_self))
  have hexclude : s.excludeFile = some (.ofText "x") := rfl
  have hread : files.read (.ofText "x") = .ok [0xFF] := by rfl
  obtain ⟨fault, hdecode⟩ : ∃ fault, Utf8.decode [0xFF] = .error fault := ⟨_, rfl⟩
  obtain ⟨hcrash, -, hsilent⟩ := run_of_undecodable hwords hready hshown hexclude hread hdecode
  exact ⟨⟨o, s, classes, hwords, hready, hexclude⟩, hshown, ⟨fault, hcrash⟩, hsilent⟩

end CommandLine
end ApiStubs
