import ApiStubs.CommandLine.Options
import ApiStubs.Proofs.Validation.Checked
import ApiStubs.Settings

/-! What the words of a command line replace: each setting only by a value that its option takes. -/

namespace ApiStubs.CommandLine

variable {g : Given} {o : Options} {words : List Text} {name : Text} {value : Json}

theorem of_mem_setting? {key : Key} {value? : Text → Option Json}
    {replaced : List (Text × Json)} (h : setting? g name key value? = some replaced)
    {m : Text × Json} (hm : m ∈ replaced) : m.1 = name ∧ ∃ text, value? text = some m.2 := by
  rw [setting?] at h
  split at h
  · cases h
    cases hm
  · rename_i text _
    obtain ⟨value, hvalue, rfl⟩ := Option.map_eq_some_iff.1 h
    cases List.mem_singleton.1 hm
    exact ⟨rfl, text, hvalue⟩

theorem afterHelp_ne_compile (words : List Text) : Command.afterHelp words ≠ .compile o := by
  induction words with
  | nil => exact nofun
  | cons word rest ih =>
    rw [Command.afterHelp]
    split_ifs
    · exact ih
    · exact nofun
    · split <;> exact nofun

variable [IntReader]

inductive Replaces : Text → Json → Prop
  | path {name text : Text} {value : Json} :
      name ∈ (["descriptors", "docs_dir", "exclude_file", "output"] : List Text) →
        pathValue? text = some value → Replaces name value
  | workers {text : Text} {value : Json} :
      workersValue? text = some value → Replaces "workers" value
  | logLevel (text : Text) : Replaces "log_level" (.str text)

theorem Replaces.mem_names (h : Replaces name value) : name ∈ Settings.names := by
  cases h with
  | path hname _ =>
    exact List.mem_append_left (["workers", "log_level"] : List Text) hname
  | workers _ => decide
  | logLevel _ => decide

theorem replaces_of_ofGiven (h : Options.ofGiven g = some o) {m : Text × Json}
    (hm : m ∈ o.replaced) : Replaces m.1 m.2 := by
  simp only [Options.ofGiven, Option.bind_eq_bind, Option.bind_eq_some_iff] at h
  obtain ⟨_, h₁, _, h₂, _, h₃, _, h₄, _, h₅, _, h₆, h⟩ := h
  cases h
  have hpath {key : Key} {name : Text} {replaced : List (Text × Json)}
      (hname : name ∈ (["descriptors", "docs_dir", "exclude_file", "output"] : List Text))
      (h : setting? g name key pathValue? = some replaced) (hm : m ∈ replaced) :
      Replaces m.1 m.2 := by
    obtain ⟨hkey, text, htext⟩ := of_mem_setting? h hm
    exact .path (hkey ▸ hname) htext
  simp only [List.mem_append] at hm
  rcases hm with ((((hm | hm) | hm) | hm) | hm) | hm
  · exact hpath (by decide) h₁ hm
  · exact hpath (by decide) h₂ hm
  · exact hpath (by decide) h₃ hm
  · exact hpath (by decide) h₄ hm
  · obtain ⟨hkey, text, htext⟩ := of_mem_setting? h₅ hm
    exact hkey ▸ .workers htext
  · obtain ⟨hkey, text, htext⟩ := of_mem_setting? h₆ hm
    rw [hkey, ← Option.some.inj htext]
    exact .logLevel text

theorem exists_given (h : Command.ofWords words = .compile o) :
    ∃ g, Options.ofGiven g = some o := by
  have hcompile {words : List Text} (h : Command.ofCompile words = .compile o) :
      ∃ g, Options.ofGiven g = some o := by
    rw [Command.ofCompile] at h
    split at h
    · cases h
    · rename_i g _
      split at h
      · cases h
      · split at h
        · split at h
          · cases h
            exact ⟨g, ‹_›⟩
          · cases h
        · cases h
  have hversion {words : List Text} : Command.ofVersion words ≠ .compile o := by
    rw [Command.ofVersion]
    split
    · exact nofun
    · split_ifs <;> exact nofun
    · exact nofun
  have hname {words : List Text} (h : Command.ofName words = .compile o) :
      ∃ g, Options.ofGiven g = some o := by
    rw [Command.ofName.eq_def] at h
    split at h
    · split_ifs at h
      · exact hcompile h
      · exact absurd h hversion
    · cases h
  cases words with
  | nil => cases h
  | cons word rest =>
    rw [Command.ofWords] at h
    split_ifs at h
    · exact hname h
    · exact absurd h (afterHelp_ne_compile rest)
    · exact hname h

theorem replaces_of_ofWords (h : Command.ofWords words = .compile o)
    (hm : (name, value) ∈ o.replaced) : Replaces name value := by
  obtain ⟨g, hg⟩ := exists_given h
  exact replaces_of_ofGiven hg hm

end ApiStubs.CommandLine
