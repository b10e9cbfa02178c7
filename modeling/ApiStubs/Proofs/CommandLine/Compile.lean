import ApiStubs.Main
import ApiStubs.Proofs.Batch.Lossless
import ApiStubs.Proofs.Batch.Rounds
import ApiStubs.Proofs.CommandLine.Doing
import ApiStubs.Proofs.Files.Made
import ApiStubs.Proofs.Json.Stored
import ApiStubs.Proofs.Observed.Dump

/-! The command that compiles, from its options to its end. Everything that it explains it finds out
before it begins to compile, and nothing is written until it has compiled. -/

namespace ApiStubs

namespace CommandLine

variable {environment : List (Text × Text)} {files : FileTree} {o : Options} {s : Settings}
  {classes : List ObservedClass} {session : Batch.Session} {r : Compilation}

/-- The console broke the command off. -/
def Ending.isUnshown : Ending → Bool
  | .crash cause => cause.isConsole
  | .exit _ => false

def exclusionsOf (files : FileTree) (consuming : Bool) :
    Option Path → Except TextFault Exclusions
  | none => .ok (.ofNames [] consuming)
  | some path => Exclusions.ofFile files path consuming

theorem consuming_of_exclusionsOf {consuming : Bool} {path? : Option Path} {e : Exclusions}
    (h : exclusionsOf files consuming path? = .ok e) : e.consuming = consuming := by
  cases path? with
  | none =>
    cases h
    rfl
  | some path =>
    obtain ⟨text, -, hnames⟩ := bind_eq_ok_iff.1 h
    cases hnames
    rfl

theorem opened_of_map {root? : Option Path} {store : PageStore}
    (h : root?.map PageStore.ofRoot = some store) : store.Opened := by
  obtain ⟨root, -, rfl⟩ := Option.map_eq_some_iff.1 h
  exact PageStore.opened_ofRoot root

theorem reads_openStore (s : Settings) :
    Reads files Stop.IsCrash (fun store => store = s.docsDir.map PageStore.ofRoot)
      (openStore s) := by
  rw [openStore]
  split
  · rename_i hnone
    exact .pure (by rw [hnone]; rfl)
  · rename_i root hroot
    refine .bind .get fun w hw => .bind (reads_orCrash _) fun store hstore => .pure ?_
    obtain ⟨found, -, hpure⟩ := bind_eq_ok_iff.1 hstore
    cases hpure
    rw [hroot]
    rfl

def Writes (path : Path) (r : Compilation) (files files' : FileTree) : Prop :=
  ∃ made value octets, files.makeDirectories path.parent = (made, none) ∧
    r.textRecord = .ok value ∧ Utf8.encode value.write = .ok octets ∧
    made.write path octets = .ok files'

theorem Writes.unique {path : Path} {files₁ files₂ : FileTree} (h₁ : Writes path r files files₁)
    (h₂ : Writes path r files files₂) : files₁ = files₂ := by
  obtain ⟨made, value, octets, hmade, hvalue, hoctets, hwrite⟩ := h₁
  obtain ⟨made', value', octets', hmade', hvalue', hoctets', hwrite'⟩ := h₂
  cases hmade.symm.trans hmade'
  cases hvalue.symm.trans hvalue'
  cases hoctets.symm.trans hoctets'
  exact Except.ok.inj (hwrite.symm.trans hwrite')

theorem writeOutput_run (path : Path) (r : Compilation) (w : World) :
    (∃ cause w', (writeOutput path r).run w = (.error (.crashed cause), w')) ∨
      ∃ files', (writeOutput path r).run w = (.ok (), { w with files := files' }) ∧
        Writes path r w.files files' := by
  rcases hmade : w.files.makeDirectories path.parent with ⟨made, _ | fault⟩
  · rw [writeOutput, bind_run_ok _ (get_run w), hmade, bind_run_ok _ (modify_run _ w)]
    cases hvalue : r.textRecord with
    | error fault => exact .inl ⟨_, _, rfl⟩
    | ok value =>
      rw [bind_run_ok _ (orCrash_ok_run _ value _)]
      cases hoctets : Utf8.encode value.write with
      | error fault => exact .inl ⟨_, _, rfl⟩
      | ok octets =>
        rw [bind_run_ok _ (orCrash_ok_run _ octets _), bind_run_ok _ (get_run _)]
        cases hwrite : made.write path octets with
        | error fault => exact .inl ⟨_, _, rfl⟩
        | ok files' => exact .inr ⟨files', rfl, made, value, octets, hmade, hvalue, hoctets, hwrite⟩
  · rw [writeOutput, bind_run_ok _ (get_run w), hmade]
    exact .inl ⟨_, _, rfl⟩

theorem Writes.run_eq {path : Path} {w : World} {files' : FileTree}
    (h : Writes path r w.files files') :
    (writeOutput path r).run w = (.ok (), { w with files := files' }) := by
  rcases writeOutput_run path r w with ⟨cause, w', hcrash⟩ | ⟨files'', hrun, hwrites⟩
  · obtain ⟨made, value, octets, hmade, hvalue, hoctets, hwrite⟩ := h
    rw [writeOutput, bind_run_ok _ (get_run w), hmade, bind_run_ok _ (modify_run _ w), hvalue,
      bind_run_ok _ (orCrash_ok_run _ value _), hoctets, bind_run_ok _ (orCrash_ok_run _ octets _),
      bind_run_ok _ (get_run _), hwrite] at hcrash
    cases hcrash
  · rw [hrun, hwrites.unique h]

variable [Json.DepthLimit]

/-- What keeps a compilation with these options from beginning, and is explained then. -/
inductive Fails (environment : List (Text × Text)) (files : FileTree) (o : Options) : Failure → Prop
  | settings {fault : Fault} :
      settings environment o = .error fault → Fails environment files o (.settings fault)
  | noDump {s : Settings} :
      settings environment o = .ok s → s.descriptors = none → Fails environment files o .noDump
  | consumingWorkers {s : Settings} :
      settings environment o = .ok s → o.consuming = true → 1 < s.workers →
        Fails environment files o .consumingWorkers
  | exclusions {s : Settings} {path asked : Path} {problem : FileProblem} :
      settings environment o = .ok s → s.excludeFile = some path →
        files.read path = .error (.refused problem asked) →
        Fails environment files o (.exclusions problem asked)
  | dump {s : Settings} {path asked : Path} {problem : DumpProblem} :
      settings environment o = .ok s → s.descriptors = some path →
        Dump.read files path = .error (.failed asked problem) →
        Fails environment files o (.dump asked problem)

/-- What has been read when a compilation begins: classes, exclusions and no page yet. -/
structure Prepared (environment : List (Text × Text)) (files : FileTree) (o : Options)
    (s : Settings) (classes : List ObservedClass) (session : Batch.Session) : Prop where
  settings : settings environment o = .ok s
  workers : o.consuming = true → s.workers ≤ 1
  classes : ∃ dump, s.descriptors = some dump ∧ Dump.read files dump = .ok classes
  exclusions : exclusionsOf files o.consuming s.excludeFile = .ok session.exclusions
  store : session.store = s.docsDir.map PageStore.ofRoot

namespace Prepared

variable (h : Prepared environment files o s classes session)
include h

theorem not_fails (failure : Failure) : ¬Fails environment files o failure := by
  obtain ⟨hsettings, hworkers, ⟨dump, hdump, hread⟩, hexclusions, -⟩ := h
  rintro (hfault | ⟨hs, hnone⟩ | ⟨hs, hconsuming, hmany⟩ | ⟨hs, hpath, hrefused⟩ |
    ⟨hs, hpath, hfailed⟩)
  · rw [hsettings] at hfault
    cases hfault
  all_goals
    rw [hsettings] at hs
    cases hs
  · rw [hdump] at hnone
    cases hnone
  · exact absurd (hworkers hconsuming) (Int.not_le.2 hmany)
  · rw [hpath] at hexclusions
    obtain ⟨text, htext, -⟩ := bind_eq_ok_iff.1 hexclusions
    rw [FileTree.readText, hrefused] at htext
    cases htext
  · rw [hdump] at hpath
    cases hpath
    rw [hread] at hfailed
    cases hfailed

theorem opened : ∀ store, session.store = some store → store.Opened :=
  fun _ hstore => opened_of_map (h.store ▸ hstore)

theorem readable : ∀ c ∈ classes, c.Readable := by
  obtain ⟨dump, -, hread⟩ := h.classes
  exact Dump.readable_of_read hread

theorem isPure (hconsuming : o.consuming = false) : session.exclusions.isPure = true := by
  rw [Exclusions.isPure, consuming_of_exclusionsOf h.exclusions, hconsuming]
  rfl

theorem compile_toOption {workers : Int} (hworkers : o.consuming = true → workers ≤ 1) :
    (compile files workers classes session).1.toOption =
      ((Batch.compile files classes).run session).result.toOption := by
  rw [compile]
  split_ifs with hmany
  · have hconsuming : o.consuming = false :=
      Bool.eq_false_iff.2 fun hconsuming => absurd (hworkers hconsuming) (Int.not_le.2 hmany)
    exact Batch.compileWith_result h.readable (h.isPure hconsuming) (Batch.storesAs_refl h.opened)
      (Int.le_of_lt hmany)
  · exact Batch.toOption_mapError _ _

theorem compileShared_toOption (hconsuming : o.consuming = false) {workers : Nat}
    (hworkers : 0 < workers) {schedule : List Nat}
    (hfinished : (schedule.foldl (Batch.Pool.step files) (.opening workers
      (Batch.jobsOf session.exclusions 0 classes) session.store)).isFinished = true) :
    ((Batch.compileShared (fun p => schedule.foldl (Batch.Pool.step files) p) workers classes).run
        session).result.toOption =
      ((Batch.compile files classes).run session).result.toOption :=
  Batch.compileShared_result h.readable (h.isPure hconsuming) (Batch.storesAs_refl h.opened)
    hworkers rfl rfl hfinished

theorem result_eq (hr : (compile files s.workers classes session).1 = .ok r) :
    ((Batch.compile files classes).run session).result = .ok r := by
  refine eq_ok_of_toOption ?_
  rw [← h.compile_toOption h.workers, hr]
  rfl

theorem eq_of_workers {environment' : List (Text × Text)} {o' : Options} {workers : Int}
    {s' : Settings} {classes' : List ObservedClass} {session' : Batch.Session}
    (h' : Prepared environment' files o' s' classes' session')
    (hconsuming : o'.consuming = o.consuming)
    (hs' : CommandLine.settings environment' o' = .ok { s with workers := workers }) :
    s'.output = s.output ∧ classes' = classes ∧ session' = session := by
  cases h'.settings.symm.trans hs'
  obtain ⟨-, -, ⟨dump, hdump, hread⟩, hexclusions, hstore⟩ := h
  obtain ⟨-, -, ⟨dump', hdump', hread'⟩, hexclusions', hstore'⟩ := h'
  cases hdump.symm.trans hdump'
  rw [hconsuming] at hexclusions'
  refine ⟨rfl, Except.ok.inj (hread'.symm.trans hread), ?_⟩
  obtain ⟨exclusions, store⟩ := session
  obtain ⟨exclusions', store'⟩ := session'
  cases Except.ok.inj (hexclusions'.symm.trans hexclusions)
  cases hstore'.trans hstore.symm
  rfl

end Prepared

def Accounted (environment : List (Text × Text)) (files : FileTree) (o : Options) (stop : Stop) :
    Prop := ∀ failure, stop = .failed failure → Fails environment files o failure

theorem Stop.IsCrash.accounted {stop : Stop} (h : stop.IsCrash) :
    Accounted environment files o stop := by
  obtain ⟨cause, rfl⟩ := h
  exact nofun

theorem Reads.accounted {α : Type} {Q : α → Prop} {x : Doing α}
    (h : Reads files Stop.IsCrash Q x) : Reads files (Accounted environment files o) Q x :=
  h.mono (fun _ => Stop.IsCrash.accounted) fun _ => id

theorem reads_checkedSettings :
    Reads files (Accounted environment files o)
      (fun begun => settings environment o = .ok begun.2 ∧ begun.2.descriptors = some begun.1 ∧
        (o.consuming = true → begun.2.workers ≤ 1))
      (orStop .failed (checkedSettings environment o)) := by
  rw [checkedSettings]
  split
  · rename_i fault hfault
    exact .throw fun failure hfailure => by
      cases hfailure
      exact .settings hfault
  · rename_i s hs
    split
    · rename_i hnone
      exact .throw fun failure hfailure => by
        cases hfailure
        exact .noDump hs hnone
    · rename_i path hpath
      split_ifs with hmany
      · obtain ⟨hconsuming, hmany⟩ := Bool.and_eq_true_iff.1 hmany
        exact .throw fun failure hfailure => by
          cases hfailure
          exact .consumingWorkers hs hconsuming (of_decide_eq_true hmany)
      · refine .pure ⟨hs, hpath, fun hconsuming => Int.not_lt.1 fun hlt => hmany ?_⟩
        rw [hconsuming, decide_eq_true hlt]
        rfl

theorem reads_readExclusions (hs : settings environment o = .ok s) :
    Reads files (Accounted environment files o)
      (fun e => exclusionsOf files o.consuming s.excludeFile = .ok e)
      (readExclusions s o.consuming) := by
  rw [readExclusions]
  split
  · rename_i hnone
    exact .pure (by rw [hnone]; rfl)
  · rename_i path hpath
    refine .bind .get fun w hw => ?_
    subst hw
    split
    · rename_i e he
      exact .pure (by rw [hpath]; exact he)
    · rename_i problem asked hrefused
      refine .throw fun failure hfailure => ?_
      cases hfailure
      rcases bind_eq_error_iff.1 hrefused with hread | ⟨text, -, hpure⟩
      · exact .exclusions hs hpath (FileTree.readText_eq_file_iff.1 hread)
      · cases hpure
    · exact .throw (Stop.IsCrash.accounted ⟨_, rfl⟩)
    · exact .throw (Stop.IsCrash.accounted ⟨_, rfl⟩)

theorem reads_dump {dump : Path} (hs : settings environment o = .ok s)
    (hdump : s.descriptors = some dump) :
    Reads files (Accounted environment files o)
      (fun classes => Dump.read files dump = .ok classes)
      (orStop stopOfDump (Dump.read files dump)) := by
  refine .orStop (fun fault hfault failure hfailure => ?_) fun _ => id
  cases fault with
  | failed asked problem =>
    cases hfailure
    exact .dump hs hdump hfault
  | tooDeep container => cases hfailure

def Saves (environment : List (Text × Text)) (files : FileTree) (o : Options) (x : Doing Unit) :
    Prop :=
  ∃ s classes session r reports, Prepared environment files o s classes session ∧
    (compile files s.workers classes session).1 = .ok r ∧
    x = writeOutput s.output r >>= fun _ => showResult s.output r reports

theorem goesOn_doCompile (environment : List (Text × Text)) (files : FileTree) (o : Options) :
    GoesOn files (Accounted environment files o) (Saves environment files o)
      (doCompile environment o) := by
  rw [doCompile]
  refine .bind reads_checkedSettings fun ⟨dump, s⟩ ⟨hs, hdump, hworkers⟩ => ?_
  refine .bind (reads_printPanel _).isCrash.accounted fun _ _ => ?_
  refine .bind (reads_readExclusions hs) fun exclusions hexclusions => ?_
  refine .bind (reads_openStore s).accounted fun store hstore => ?_
  refine .bind .get fun w hw => ?_
  subst hw
  refine .bind (reads_dump hs hdump) fun classes hclasses => ?_
  have hprepared : Prepared environment w.files o s classes ⟨exclusions, store⟩ :=
    ⟨hs, hworkers, ⟨dump, hdump, hclasses⟩, hexclusions, hstore⟩
  -- The classes are compiled with the files that they were read from.
  refine .bind .get fun w' hw' => ?_
  rw [hw']
  refine .bind (reads_orCrash _).accounted fun r hr => ?_
  exact .start ⟨s, classes, _, r, _, hprepared, hr, rfl⟩

/-- The output file holds the result, and nothing else has changed but for directories on the way to
it. As long as the number of classes can be read at all, by a reader that goes as deep as records
do, the file is read as the record that the result is read back from. -/
structure Holds (path : Path) (r : Compilation) (files files' : FileTree) : Prop where
  saved : ∃ value octets, r.textRecord = .ok value ∧ Utf8.encode value.write = .ok octets ∧
    FileTree.OnlySaves path octets files files'
  restored : (Json.decimal r.total.natAbs).length ≤ Digits.limit →
    Compilation.recordLevels ≤ Json.DepthLimit.levels →
    ∃ text value, files'.readText path = .ok text ∧ Json.readText text = .ok value ∧
      r.textRecord = .ok value ∧ Compilation.check value = .ok r

theorem Writes.holds {path : Path} {files' : FileTree} (h : Writes path r files files')
    (hcanonical : ∀ stub ∈ r.classes, stub.Canonical) : Holds path r files files' := by
  obtain ⟨made, value, octets, hmade, hvalue, hoctets, hwrite⟩ := h
  have honly := FileTree.onlySaves_write hmade hwrite
  refine ⟨⟨value, octets, hvalue, hoctets, honly⟩, fun htotal hlevels => ?_⟩
  have hrestored := Compilation.isRestored_of_canonical hcanonical
  exact ⟨value.write, value,
    FileTree.readText_of_read honly.saved hoctets (Json.not_mem_write value),
    hrestored.text htotal hlevels value hvalue, hvalue, hrestored.textRecord.read value hvalue⟩

/-- How a compilation ends: with a failure, by a crash before it begins, by a crash after it has
begun, or with its result in a file. -/
inductive Ends (environment : List (Text × Text)) (files : FileTree) (o : Options) :
    Ending × World → Prop
  | failed {failure : Failure} {screen : Screen} :
      Fails environment files o failure → Ends environment files o (.exit 1, ⟨screen, files⟩)
  | stopped {cause : Crash} {screen : Screen} :
      Ends environment files o (.crash cause, ⟨screen, files⟩)
  | crashed {s : Settings} {classes : List ObservedClass} {session : Batch.Session} {cause : Crash}
      {w : World} : Prepared environment files o s classes session →
        Ends environment files o (.crash cause, w)
  | saved {s : Settings} {classes : List ObservedClass} {session : Batch.Session} {r : Compilation}
      {w : World} : Prepared environment files o s classes session →
        (compile files s.workers classes session).1 = .ok r → Writes s.output r files w.files →
        Ends environment files o (.exit 0, w)

namespace Ends

variable {e : Ending × World} (h : Ends environment files o e)
include h

theorem of_fails {failure : Failure} (hfails : Fails environment files o failure) :
    Program.exitCode e.1 = 1 ∧ e.2.files = files := by
  cases h with
  | failed _ => exact ⟨rfl, rfl⟩
  | stopped => exact ⟨rfl, rfl⟩
  | crashed hprepared => exact absurd hfails (hprepared.not_fails failure)
  | saved hprepared _ _ => exact absurd hfails (hprepared.not_fails failure)

theorem fails_of_exit {code : Nat} (hcode : e.1 = .exit code) :
    code = 0 ∨ code = 1 ∧ e.2.files = files ∧ ∃ failure, Fails environment files o failure := by
  cases h with
  | failed hfails =>
    cases hcode
    exact .inr ⟨rfl, rfl, _, hfails⟩
  | stopped => cases hcode
  | crashed _ => cases hcode
  | saved _ _ _ =>
    cases hcode
    exact .inl rfl

theorem saved_of_exitCode (hcode : Program.exitCode e.1 = 0) :
    ∃ s classes session r, Prepared environment files o s classes session ∧
      (compile files s.workers classes session).1 = .ok r ∧
      Writes s.output r files e.2.files := by
  cases h with
  | failed _ => cases hcode
  | stopped => cases hcode
  | crashed _ => cases hcode
  | saved hprepared hr hwrites => exact ⟨_, _, _, _, hprepared, hr, hwrites⟩

end Ends

variable [IntReader]

theorem ends_run {words : List Text} (h : Command.ofWords words = .compile o) (files : FileTree) :
    Ends environment files o (run environment files words) := by
  rw [run, h]
  dsimp only
  obtain ⟨screen, ⟨y, hrun, s, classes, session, r, reports, hprepared, hr, rfl⟩ |
    ⟨failure | cause, hrun, hstop⟩⟩ := goesOn_doCompile environment files o .blank
  · rw [hrun]
    rcases writeOutput_run s.output r ⟨screen, files⟩ with
      ⟨cause, w, hwrite⟩ | ⟨files', hwrite, hwrites⟩
    · rw [bind_run_error _ hwrite]
      exact .crashed hprepared
    · rw [bind_run_ok _ hwrite]
      -- What is shown is read against the files that have been written by now.
      have hreads : Reads files' Stop.IsCrash (fun _ => True) (showResult s.output r reports) :=
        (reads_showResult s.output r reports).isCrash
      obtain ⟨screen', ⟨_, hshow, -⟩ | ⟨_, hshow, cause, rfl⟩⟩ := hreads screen
      · rw [hshow]
        exact .saved hprepared hr hwrites
      · rw [hshow]
        exact .crashed hprepared
  · rw [hrun]
    have hreads : Reads files Stop.IsCrash (fun _ => True) (print failure.markup) :=
      (reads_print failure.markup).isCrash
    obtain ⟨screen', ⟨_, hshow, -⟩ | ⟨_, hshow, cause, rfl⟩⟩ := hreads screen
    · rw [settle, hshow]
      exact .failed (hstop failure rfl)
    · rw [settle, hshow]
      exact .stopped
  · rw [hrun]
    exact .stopped

end CommandLine

open CommandLine

/-- A compilation that has a cause to fail ends with exit code one and changes no file, and no other
one ends so but by a crash. One that ends with exit code zero has saved the result of one class
after the other and nothing else, however many workers there were and whatever turns they took. -/
theorem compilation_is_all_or_nothing [Json.DepthLimit] [IntReader]
    {environment : List (Text × Text)} {words : List Text} {o : Options}
    (h : Command.ofWords words = .compile o) (files : FileTree) :
    let ending := (run environment files words).1
    let files' := (run environment files words).2.files
    (∀ failure, Fails environment files o failure →
      Program.exitCode ending = 1 ∧ files' = files) ∧
    (∀ code, ending = .exit code →
      code = 0 ∨ code = 1 ∧ files' = files ∧ ∃ failure, Fails environment files o failure) ∧
    (Program.exitCode ending = 0 → ∃ s classes session r,
      Prepared environment files o s classes session ∧
      ((Batch.compile files classes).run session).result = .ok r ∧
      Holds s.output r files files' ∧
      (∀ workers, 1 ≤ workers → (o.consuming = true → workers ≤ 1) →
        (compile files workers classes session).1.toOption = some r) ∧
      (∀ (workers : Nat) (schedule : List Nat), o.consuming = false → 0 < workers →
        (schedule.foldl (Batch.Pool.step files) (.opening workers
          (Batch.jobsOf session.exclusions 0 classes) session.store)).isFinished = true →
        ((Batch.compileShared (fun p => schedule.foldl (Batch.Pool.step files) p) workers
          classes).run session).result.toOption = some r) ∧
      ∀ environment' words' o' workers, Command.ofWords words' = .compile o' →
        o'.consuming = o.consuming →
        settings environment' o' = .ok { s with workers := workers } →
        Program.exitCode (run environment' files words').1 = 0 →
        (run environment' files words').2.files = files') := by
  intro ending files'
  have hends : Ends environment files o (run environment files words) := ends_run h files
  refine ⟨fun failure => hends.of_fails, fun code => hends.fails_of_exit, fun hcode => ?_⟩
  obtain ⟨s, classes, session, r, hprepared, hr, hwrites⟩ := hends.saved_of_exitCode hcode
  have halone := hprepared.result_eq hr
  have hcanonical := Batch.canonical_of_compile hprepared.readable hprepared.opened halone
  refine ⟨s, classes, session, r, hprepared, halone, hwrites.holds hcanonical,
    fun workers _ hworkers => ?_, fun workers schedule hconsuming hworkers hfinished => ?_,
    fun environment' words' o' workers h' hconsuming hsettings hcode' => ?_⟩
  · rw [hprepared.compile_toOption hworkers, halone]
    rfl
  · rw [hprepared.compileShared_toOption hconsuming hworkers hfinished, halone]
    rfl
  · obtain ⟨s', classes', session', r', hprepared', hr', hwrites'⟩ :=
      (ends_run h' files).saved_of_exitCode hcode'
    obtain ⟨houtput, rfl, rfl⟩ := hprepared.eq_of_workers hprepared' hconsuming hsettings
    cases (hprepared'.result_eq hr').symm.trans halone
    rw [houtput] at hwrites'
    exact hwrites'.unique hwrites

def CommandLine.asked? [IntReader] (environment : List (Text × Text)) (words : List Text) :
    Option (Settings × Bool) :=
  match Command.ofWords words with
  | .compile o => (settings environment o).toOption.map (·, o.consuming)
  | _ => none

theorem CommandLine.exists_options [IntReader] {environment : List (Text × Text)}
    {words : List Text} {s : Settings} {consuming : Bool}
    (h : asked? environment words = some (s, consuming)) :
    ∃ o, Command.ofWords words = .compile o ∧ settings environment o = .ok s ∧
      o.consuming = consuming := by
  rw [asked?] at h
  split at h
  · rename_i o ho
    obtain ⟨s', hs', heq⟩ := Option.map_eq_some_iff.1 h
    cases heq
    exact ⟨o, ho, eq_ok_of_toOption hs', rfl⟩
  · cases h

attribute [local instance] Json.DepthLimit.usual IntReader.usual

/-- How some runs end: of one worker and of three, with an option in the place of no variable, and
with exclusions that are listed, missing or no text. All of them look up the same colors. -/
theorem CommandLine.endings_of_runs :
    let octets := fun s : String => s.toList.map fun ch => UInt8.ofNat ch.toNat
    let docs : Place := Place.working.enter (octets "docs")
    let page := "\x7b\x22fields\x22: []\x7d"
    let list := "[\x7b\x22name\x22: \x22Box\x22\x7d, \x7b\x22name\x22: \x22Out\x22\x7d]"
    let files : FileTree := ⟨[(docs, .directory),
      (docs.enter (octets "Box.json"), .file (octets page)),
      (Place.working.enter (octets "dump"), .file (octets list)),
      (Place.working.enter (octets "skip"), .file (octets "Out"))]⟩
    let environment : List (Text × Text) := [("STUBRECON_DOCS_DIR", "docs")]
    let words := fun skip workers : String =>
      ["compile", "-d", "dump", "-x", skip, "-w", workers, "-o", "out/r"].map Text.ofString
    let dump := (Place.working.enter (octets "d"),
      Node.file (octets "[\x7b\x22name\x22: \x22A\x22\x7d]"))
    let exclusions := Place.working.enter (octets "x")
    (Program.exitCode (run environment files (words "skip" "1")).1 = 0 ∧
        Program.exitCode (run environment files (words "skip" "3")).1 = 0) ∧
      Program.exitCode (run [] ⟨[(Place.working.enter (octets "d"), .file (octets "[]"))]⟩
        ["compile", "-d", "d", "-w", "2"]).1 = 0 ∧
      ∀ nodes ∈ [[(exclusions, .file (octets "A # all"))], [], [(exclusions, .file [0xFF])]],
        (run [("STUBRECON_EXCLUDE_FILE", "x")] ⟨dump :: nodes⟩
          ["compile", "-d", "d", "-o", "r"]).1.isUnshown = false := by
  -- one evaluation for all runs, since reading the table of colors takes nearly all of it
  decide +kernel

/-- A run by one worker and a run by three save the same file, and a run whose exclusions are
missing saves none. -/
theorem compilation_is_all_or_nothing_three_workers :
    let octets := fun s : String => s.toList.map fun ch => UInt8.ofNat ch.toNat
    let docs : Place := Place.working.enter (octets "docs")
    let page := "\x7b\x22fields\x22: []\x7d"
    let list := "[\x7b\x22name\x22: \x22Box\x22\x7d, \x7b\x22name\x22: \x22Out\x22\x7d]"
    let files : FileTree := ⟨[(docs, .directory),
      (docs.enter (octets "Box.json"), .file (octets page)),
      (Place.working.enter (octets "dump"), .file (octets list)),
      (Place.working.enter (octets "skip"), .file (octets "Out"))]⟩
    let environment : List (Text × Text) := [("STUBRECON_DOCS_DIR", "docs")]
    let words := fun skip workers : String =>
      ["compile", "-d", "dump", "-x", skip, "-w", workers, "-o", "out/r"].map Text.ofString
    (Program.exitCode (run environment files (words "none" "3")).1 = 1 ∧
        (run environment files (words "none" "3")).2.files = files) ∧
      Program.exitCode (run environment files (words "skip" "1")).1 = 0 ∧
      Program.exitCode (run environment files (words "skip" "3")).1 = 0 ∧
      (run environment files (words "skip" "3")).2.files =
        (run environment files (words "skip" "1")).2.files ∧
      ∃ classes session r, classes.map ObservedClass.name = [.ofString "Box", .ofString "Out"] ∧
        ((Batch.compile files classes).run session).result = .ok r ∧
        Holds (.ofText "out/r") r files (run environment files (words "skip" "1")).2.files := by
  intro octets docs page list files environment words
  let settingsOf := fun (skip : String) (workers : Int) => (⟨some (.ofText "dump"),
    some (.ofText "docs"), some (.ofText skip), .ofText "out/r", workers, "INFO"⟩ : Settings)
  have hasked : asked? environment (words "skip" "1") = some (settingsOf "skip" 1, false) ∧
      asked? environment (words "skip" "3") = some (settingsOf "skip" 3, false) ∧
      asked? environment (words "none" "3") = some (settingsOf "none" 3, false) := by
    decide +kernel
  obtain ⟨o₁, h₁, hs₁, hconsuming₁⟩ := exists_options hasked.1
  obtain ⟨o₃, h₃, hs₃, hconsuming₃⟩ := exists_options hasked.2.1
  obtain ⟨o, h, hs, -⟩ := exists_options hasked.2.2
  obtain ⟨hfails, -, -⟩ := compilation_is_all_or_nothing h files
  obtain ⟨-, -, hsaves⟩ := compilation_is_all_or_nothing h₁ files
  have hmissing : files.read (.ofText "none") = .error (.refused .notFound (.ofText "none")) := by
    rfl
  have hexcluded : (settingsOf "none" 3).excludeFile = some (.ofText "none") := rfl
  have hcodes : Program.exitCode (run environment files (words "skip" "1")).1 = 0 ∧
      Program.exitCode (run environment files (words "skip" "3")).1 = 0 :=
    CommandLine.endings_of_runs.1
  have hnames : ∀ classes ∈ (Dump.read files (.ofText "dump")).toOption,
      classes.map ObservedClass.name = [.ofString "Box", .ofString "Out"] := by
    decide +kernel
  obtain ⟨s, classes, session, r, hprepared, hr, hholds, -, -, hsame⟩ := hsaves hcodes.1
  cases hprepared.settings.symm.trans hs₁
  obtain ⟨dump, hdump, hread⟩ := hprepared.classes
  cases hdump
  have hfailed := hfails _ (.exclusions hs hexcluded hmissing)
  have hfiles := hsame environment (words "skip" "3") o₃ 3 h₃ (hconsuming₃.trans hconsuming₁.symm)
    hs₃ hcodes.2
  have houtput : (settingsOf "skip" 1).output = .ofText "out/r" := rfl
  rw [houtput] at hholds
  have hclasses : classes ∈ (Dump.read files (.ofText "dump")).toOption := by
    rw [hread]
    rfl
  exact ⟨hfailed, hcodes.1, hcodes.2, hfiles, classes, session, r, hnames classes hclasses, hr,
    hholds⟩

end ApiStubs
