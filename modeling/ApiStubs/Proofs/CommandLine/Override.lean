import ApiStubs.Proofs.CommandLine.Compile
import ApiStubs.Proofs.CommandLine.Options
import ApiStubs.Proofs.Settings

/-! Options in the place of variables. The variables are checked before the options take their
place, so that one which could not be used alone is not replaced but ends the command. -/

namespace ApiStubs.CommandLine

variable {environment environment' : List (Text × Text)} {o : Options} {words : List Text}
  {name : Text}

open Settings (Admits)

theorem isSome_lookup_of_mem {value : Json} (h : (name, value) ∈ o.replaced) :
    (o.replaced.lookup name).isSome := by
  rw [Option.isSome_iff_ne_none]
  intro hnone
  have hne := List.lookup_eq_none_iff.1 hnone _ h
  simp at hne

theorem admits_of_settings {s : Settings} (hname : name ∈ Settings.names)
    (h : settings environment o = .ok s) : Admits environment name := by
  obtain ⟨s', hs', -⟩ := bind_eq_ok_iff.1 h
  exact Settings.admits_of_ofEnvironment hname hs'

theorem settings_eq_of_admits (hname : name ∈ Settings.names)
    (hagree : ∀ other, other ≠ Settings.variableName name →
      environment.lookup other = environment'.lookup other)
    (hreplaced : (o.replaced.lookup name).isSome) (h : Admits environment name)
    (h' : Admits environment' name) :
    settings environment o = settings environment' o := by
  rw [settings, settings]
  obtain ⟨s, s', hs, hs', hbut⟩ | ⟨fault, hfault, hfault'⟩ :=
    Settings.ofEnvironment_agreeBut hname hagree h h'
  · rw [hs, hs']
    exact Settings.override_eq_of_agreeBut hbut hreplaced
  · rw [hfault, hfault']

theorem run_eq_of_settings [Json.DepthLimit] [IntReader]
    (hwords : Command.ofWords words = .compile o)
    (h : settings environment o = settings environment' o) (files : FileTree) :
    run environment files words = run environment' files words := by
  rw [run, run, hwords]
  simp only [doCompile, checkedSettings, h]

/-- A setting that an option replaces does not depend on its variable, nor does anything else that
the command does, among the values that the variable can have by itself. With any other value the
command fails, whatever the option says. -/
theorem option_overrides_variable_iff [Json.DepthLimit] [IntReader] {value : Json}
    (hwords : Command.ofWords words = .compile o)
    (hgiven : (name, value) ∈ o.replaced)
    (hagree : ∀ other, other ≠ Settings.variableName name →
      environment.lookup other = environment'.lookup other) :
    (Admits environment name → Admits environment' name →
      settings environment o = settings environment' o ∧
      ∀ files, run environment files words = run environment' files words) ∧
    (¬Admits environment name → (∃ fault, settings environment o = .error fault) ∧
      ∀ files, Program.exitCode (run environment files words).1 = 1 ∧
        (run environment files words).2.files = files) ∧
    (∀ s, settings environment' o = .ok s →
      (settings environment o = settings environment' o ↔ Admits environment name)) ∧
    (Admits environment name ↔ ∀ raw,
      environment.lookup (Settings.variableName name) = some raw → Text.isBlankText raw = false →
      (name = "workers" → (Text.trim raw).isTorn = false ∧
        ∃ count, WrittenInt.read (Text.trim raw) = .ok count ∧ 1 ≤ count) ∧
      (name = "log_level" → Settings.normalizeLevel (Text.trim raw) ∈ Settings.logLevels)) := by
  have hname := (replaces_of_ofWords hwords hgiven).mem_names
  have hreplaced := isSome_lookup_of_mem hgiven
  refine ⟨fun h h' => ?_, fun h => ?_, fun s hs => ⟨fun heq => ?_, fun h => ?_⟩,
    Settings.admits_iff hname⟩
  · have hsettings := settings_eq_of_admits hname hagree hreplaced h h'
    exact ⟨hsettings, run_eq_of_settings hwords hsettings⟩
  · cases hsettings : settings environment o with
    | ok s => exact absurd (admits_of_settings hname hsettings) h
    | error fault =>
      exact ⟨⟨fault, rfl⟩, fun files => (ends_run hwords files).of_fails (.settings hsettings)⟩
  · exact admits_of_settings hname (heq.trans hs)
  · exact settings_eq_of_admits hname hagree hreplaced h (admits_of_settings hname hs)

theorem lookup_workers {raw other : Text} (h : other ≠ Settings.variableName "workers") :
    List.lookup other [(Text.ofString "STUBRECON_WORKERS", raw)] = none := by
  have hvariable : Settings.variableName "workers" = "STUBRECON_WORKERS" := by decide +kernel
  rw [hvariable] at h
  rw [List.lookup_cons, beq_eq_false_iff_ne.2 h]
  rfl

attribute [local instance] Json.DepthLimit.usual IntReader.usual

/-- Three workers by a variable are none, if an option asks for two; a word by the same variable
ends the command. -/
theorem option_overrides_variable_iff_workers :
    let words : List Text := ["compile", "-d", "d", "-w", "2"]
    let o : Options := ⟨[("descriptors", .str "d"), ("workers", .int 2)], false⟩
    let three : List (Text × Text) := [("STUBRECON_WORKERS", " 3")]
    let zero : List (Text × Text) := [("STUBRECON_WORKERS", "zero")]
    Command.ofWords words = .compile o ∧ (⟨"workers", .int 2⟩ : Text × Json) ∈ o.replaced ∧
      (∀ other, other ≠ Settings.variableName "workers" →
        three.lookup other = ([] : List (Text × Text)).lookup other ∧
        zero.lookup other = ([] : List (Text × Text)).lookup other) ∧
      (∀ files, run three files words = run [] files words) ∧
      ∀ files, Program.exitCode (run zero files words).1 = 1 ∧
        (run zero files words).2.files = files := by
  intro words o three zero
  have hwords : Command.ofWords words = .compile o := by rfl
  have hgiven : (⟨"workers", .int 2⟩ : Text × Json) ∈ o.replaced :=
    List.mem_cons_of_mem _ List.mem_cons_self
  have hagreeThree : ∀ other, other ≠ Settings.variableName "workers" →
      three.lookup other = ([] : List (Text × Text)).lookup other := fun _ => lookup_workers
  have hagreeZero : ∀ other, other ≠ Settings.variableName "workers" →
      zero.lookup other = ([] : List (Text × Text)).lookup other := fun _ => lookup_workers
  obtain ⟨hsame, -⟩ := option_overrides_variable_iff hwords hgiven hagreeThree
  obtain ⟨-, hends, -, hzero⟩ := option_overrides_variable_iff hwords hgiven hagreeZero
  have hthree : Admits three "workers" := ⟨⟨none, none, none, Settings.defaultOutput, 3, "INFO"⟩,
    eq_ok_of_toOption (by decide +kernel)⟩
  have hnone : Admits [] "workers" := ⟨_, rfl⟩
  have hlookup : zero.lookup (Settings.variableName "workers") = some "zero" := by decide +kernel
  have hread : (WrittenInt.read (Text.trim "zero")).toOption = none := by decide +kernel
  refine ⟨hwords, hgiven, fun other h => ⟨hagreeThree other h, hagreeZero other h⟩,
    (hsame hthree hnone).2,
    (hends fun h => ?_).2⟩
  obtain ⟨-, count, hcount, -⟩ := (hzero.1 h "zero" hlookup (by decide +kernel)).1 rfl
  rw [hcount] at hread
  cases hread

/-- An option for two workers does not replace a word, but it stands where there is no variable. -/
theorem word_for_workers_is_not_overridden :
    let octets := fun s : String => s.toList.map fun ch => UInt8.ofNat ch.toNat
    let files := FileTree.mk [(Place.working.enter (octets "d"), .file (octets "[]"))]
    let words : List Text := ["compile", "-d", "d", "-w", "2"]
    let environment : List (Text × Text) := [("STUBRECON_WORKERS", "zero")]
    (∃ o value, Command.ofWords words = .compile o ∧
        (⟨"workers", value⟩ : Text × Json) ∈ o.replaced) ∧
      (∀ other, other ≠ Settings.variableName "workers" →
        environment.lookup other = ([] : List (Text × Text)).lookup other) ∧
      Program.exitCode (run environment files words).1 = 1 ∧
      Program.exitCode (run [] files words).1 = 0 := by
  intro octets files words environment
  let o : Options := ⟨[("descriptors", .str "d"), ("workers", .int 2)], false⟩
  have hwords : Command.ofWords words = .compile o := rfl
  have hnone : (settings environment o).toOption = none := by decide +kernel
  obtain ⟨fault, hfault⟩ : ∃ fault, settings environment o = .error fault := by
    cases hsettings : settings environment o with
    | ok s =>
      rw [hsettings] at hnone
      cases hnone
    | error fault => exact ⟨fault, rfl⟩
  obtain ⟨hone, -⟩ := (ends_run hwords files).of_fails (.settings hfault)
  have hzero : Program.exitCode (run [] files words).1 = 0 := endings_of_runs.2.1
  exact ⟨⟨o, .int 2, hwords, List.mem_cons_of_mem _ List.mem_cons_self⟩, fun _ => lookup_workers,
    hone, hzero⟩

end ApiStubs.CommandLine
