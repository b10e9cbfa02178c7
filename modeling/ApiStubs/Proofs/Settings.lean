import ApiStubs.Proofs.Validation.Alike
import ApiStubs.Settings

/-! Settings that stand on several values. A value can keep them from being made, but it shows in
no other setting than its own. -/

namespace ApiStubs

theorem checkMemberOr_congr {α : Type} {absent : α} {members members' : List (Text × Json)}
    {key : Text} {check : Json → Checked α} (h : members.lookup key = members'.lookup key) :
    checkMemberOr absent members key check = checkMemberOr absent members' key check := by
  rw [checkMemberOr, checkMemberOr, h]

namespace Settings

variable {name key : Text} {values values' : List (Text × Json)} {s s' : Settings}
  {environment environment' : List (Text × Text)}

theorem checkMembers_eq_ok_iff :
    checkMembers values = .ok s ↔
      checkMemberOr none values "descriptors" checkOptionalPath = .ok s.descriptors ∧
      checkMemberOr none values "docs_dir" checkOptionalPath = .ok s.docsDir ∧
      checkMemberOr none values "exclude_file" checkOptionalPath = .ok s.excludeFile ∧
      checkMemberOr defaultOutput values "output" checkPath = .ok s.output ∧
      checkMemberOr 1 values "workers" checkWorkers = .ok s.workers ∧
      checkMemberOr ("INFO" : Text) values "log_level" checkLogLevel = .ok s.logLevel := by
  constructor
  · intro h
    obtain ⟨_, _, h₅, hlogLevel, rfl⟩ := Checked.seq_eq_ok_iff.1 h
    obtain ⟨_, _, h₄, hworkers, rfl⟩ := Checked.seq_eq_ok_iff.1 h₅
    obtain ⟨_, _, h₃, houtput, rfl⟩ := Checked.seq_eq_ok_iff.1 h₄
    obtain ⟨_, _, h₂, hexcludeFile, rfl⟩ := Checked.seq_eq_ok_iff.1 h₃
    obtain ⟨_, _, h₁, hdocsDir, rfl⟩ := Checked.seq_eq_ok_iff.1 h₂
    obtain ⟨_, hdescriptors, rfl⟩ := Checked.map_eq_ok_iff.1 h₁
    exact ⟨hdescriptors, hdocsDir, hexcludeFile, houtput, hworkers, hlogLevel⟩
  · rintro ⟨hdescriptors, hdocsDir, hexcludeFile, houtput, hworkers, hlogLevel⟩
    exact Checked.seq_eq_ok (Checked.seq_eq_ok (Checked.seq_eq_ok (Checked.seq_eq_ok
      (Checked.seq_eq_ok (Checked.map_eq_ok hdescriptors) hdocsDir) hexcludeFile) houtput) hworkers)
      hlogLevel

theorem ofValues_eq_ok_iff : ofValues values = .ok s ↔ checkMembers values = .ok s :=
  Checked.result_eq_ok_iff

/-- Some of the values that make settings make settings as well. -/
theorem exists_ofValues_of_fewer (h : ofValues values = .ok s)
    (hfewer : ∀ key, values'.lookup key = values.lookup key ∨ values'.lookup key = none) :
    ∃ s', ofValues values' = .ok s' := by
  have hmember {α : Type} {absent a : α} {key : Text} {check : Json → Checked α}
      (ha : checkMemberOr absent values key check = .ok a) :
      ∃ a', checkMemberOr absent values' key check = .ok a' := by
    rcases hfewer key with hsame | hnone
    · exact ⟨a, (checkMemberOr_congr hsame).trans ha⟩
    · exact ⟨absent, by rw [checkMemberOr, hnone]⟩
  obtain ⟨h₁, h₂, h₃, h₄, h₅, h₆⟩ := checkMembers_eq_ok_iff.1 (ofValues_eq_ok_iff.1 h)
  obtain ⟨descriptors, h₁⟩ := hmember h₁
  obtain ⟨docsDir, h₂⟩ := hmember h₂
  obtain ⟨excludeFile, h₃⟩ := hmember h₃
  obtain ⟨output, h₄⟩ := hmember h₄
  obtain ⟨workers, h₅⟩ := hmember h₅
  obtain ⟨logLevel, h₆⟩ := hmember h₆
  exact ⟨⟨descriptors, docsDir, excludeFile, output, workers, logLevel⟩,
    ofValues_eq_ok_iff.2 (checkMembers_eq_ok_iff.2 ⟨h₁, h₂, h₃, h₄, h₅, h₆⟩)⟩

def AgreeBut (name : Text) (s s' : Settings) : Prop :=
  List.Forall₂ (fun m m' => m.1 = m'.1 ∧ (m.1 ≠ name → m.2 = m'.2)) s.members s'.members

/-- A value that makes settings by itself is not seen in those that it makes with others. -/
theorem alike_checkMembers {alone alone' : List (Text × Json)}
    (hsame : ∀ key, key ≠ name → values.lookup key = values'.lookup key)
    (hlookup : alone.lookup name = values.lookup name)
    (hlookup' : alone'.lookup name = values'.lookup name)
    (halone : ofValues alone = .ok s) (halone' : ofValues alone' = .ok s') :
    Checked.Alike (AgreeBut name) (checkMembers values) (checkMembers values') := by
  have hmember {α : Type} {absent a a' : α} {key : Text} {check : Json → Checked α}
      (ha : checkMemberOr absent alone key check = .ok a)
      (ha' : checkMemberOr absent alone' key check = .ok a') :
      Checked.Alike (fun b b' => key ≠ name → b = b') (checkMemberOr absent values key check)
        (checkMemberOr absent values' key check) := by
    by_cases hkey : key = name
    · subst hkey
      rw [← checkMemberOr_congr hlookup, ← checkMemberOr_congr hlookup', ha, ha']
      exact .ok fun hne => absurd rfl hne
    · rw [checkMemberOr_congr (hsame key hkey)]
      exact .refl (fun _ _ => rfl) _
  obtain ⟨h₁, h₂, h₃, h₄, h₅, h₆⟩ := checkMembers_eq_ok_iff.1 (ofValues_eq_ok_iff.1 halone)
  obtain ⟨h₁', h₂', h₃', h₄', h₅', h₆'⟩ := checkMembers_eq_ok_iff.1 (ofValues_eq_ok_iff.1 halone')
  refine .seq (.seq (.seq (.seq (.seq (.map (hmember h₁ h₁') ?_) (hmember h₂ h₂'))
    (hmember h₃ h₃')) (hmember h₄ h₄')) (hmember h₅ h₅')) (hmember h₆ h₆')
  intro _ _ e₁ _ _ e₂ _ _ e₃ _ _ e₄ _ _ e₅ _ _ e₆
  exact .cons ⟨rfl, fun h => congrArg pathJson (e₁ h)⟩
    (.cons ⟨rfl, fun h => congrArg pathJson (e₂ h)⟩
    (.cons ⟨rfl, fun h => congrArg pathJson (e₃ h)⟩
    (.cons ⟨rfl, fun h => congrArg (fun p : Path => Json.str p.render) (e₄ h)⟩
    (.cons ⟨rfl, fun h => congrArg Json.int (e₅ h)⟩
    (.cons ⟨rfl, fun h => congrArg Json.str (e₆ h)⟩ .nil)))))

theorem override_eq_of_agreeBut {replaced : List (Text × Json)} (h : AgreeBut name s s')
    (hreplaced : (replaced.lookup name).isSome) : s.override replaced = s'.override replaced := by
  rw [override, override]
  congr 1
  rw [← List.forall₂_eq_eq_eq, List.forall₂_map_left_iff, List.forall₂_map_right_iff]
  refine h.imp fun m m' ⟨hkey, hvalue⟩ => ?_
  by_cases hm : m.1 = name
  -- the option's value stands in the only place where the two differ
  · obtain ⟨value, hlookup⟩ := Option.isSome_iff_exists.1 hreplaced
    simp only [← hkey, hm, hlookup, Option.getD_some]
  · simp only [← hkey, hvalue hm]

/-! ### Values of variables -/

theorem value?_eq_some_iff {value : Text × Json} :
    value? environment name = some value ↔ ∃ raw,
      environment.lookup (variableName name) = some raw ∧ Text.isBlankText raw = false ∧
      value = (name, .str (Text.trim raw)) := by
  rw [value?]
  cases environment.lookup (variableName name) with
  | none => simp
  | some raw =>
    dsimp only
    split_ifs with hblank
    · simp [hblank]
    · constructor
      · rintro h
        cases h
        exact ⟨raw, rfl, Bool.eq_false_iff.2 hblank, rfl⟩
      · rintro ⟨_, h, -, rfl⟩
        cases h
        rfl

theorem lookup_value? :
    (value? environment name).toList.lookup key =
      if key = name then (value? environment name).map Prod.snd else none := by
  cases hvalue : value? environment name with
  | none => simp
  | some value =>
    obtain ⟨raw, -, -, rfl⟩ := value?_eq_some_iff.1 hvalue
    by_cases hkey : key = name
    · simp [hkey]
    · simp [hkey, List.lookup_cons, beq_eq_false_iff_ne.2 hkey]

theorem lookup_values (keys : List Text) :
    (keys.filterMap (value? environment)).lookup key =
      if key ∈ keys then (value? environment key).map Prod.snd else none := by
  induction keys with
  | nil => rfl
  | cons name rest ih =>
    have hsplit : (name :: rest).filterMap (value? environment) =
        (value? environment name).toList ++ rest.filterMap (value? environment) := by
      cases hvalue : value? environment name <;> simp [hvalue]
    rw [hsplit, List.lookup_append, lookup_value?, ih]
    by_cases hkey : key = name
    · subst hkey
      cases value? environment key <;> simp
    · simp [hkey]

theorem variableName_injOn :
    ∀ a ∈ names, ∀ b ∈ names, variableName a = variableName b → a = b := by
  decide +kernel

theorem value?_congr (h : environment.lookup (variableName key) =
    environment'.lookup (variableName key)) : value? environment key = value? environment' key := by
  rw [value?, value?, h]

/-- The variable of a setting is absent or blank, or what it holds makes settings by itself. -/
def Admits (environment : List (Text × Text)) (name : Text) : Prop :=
  ∃ s, ofValues (value? environment name).toList = .ok s

theorem admits_of_ofEnvironment (hname : name ∈ names) (h : ofEnvironment environment = .ok s) :
    Admits environment name := by
  refine exists_ofValues_of_fewer h fun key => ?_
  rw [lookup_value?, lookup_values]
  by_cases hkey : key = name
  · subst hkey
    exact .inl (by rw [if_pos rfl, if_pos hname])
  · exact .inr (if_neg hkey)

theorem ofEnvironment_agreeBut (hname : name ∈ names)
    (hagree : ∀ other, other ≠ variableName name →
      environment.lookup other = environment'.lookup other)
    (h : Admits environment name) (h' : Admits environment' name) :
    (∃ s s', ofEnvironment environment = .ok s ∧ ofEnvironment environment' = .ok s' ∧
      AgreeBut name s s') ∨
    ∃ fault, ofEnvironment environment = .error fault ∧
      ofEnvironment environment' = .error fault := by
  obtain ⟨s, hs⟩ := h
  obtain ⟨s', hs'⟩ := h'
  refine (alike_checkMembers (fun key hkey => ?_) ?_ ?_ hs hs').result _
  · rw [lookup_values, lookup_values]
    split_ifs with hmem
    · rw [value?_congr (hagree _ fun heq => hkey (variableName_injOn key hmem name hname heq))]
    · rfl
  · rw [lookup_value?, lookup_values, if_pos rfl, if_pos hname]
  · rw [lookup_value?, lookup_values, if_pos rfl, if_pos hname]

/-! ### What a variable can hold -/

theorem exists_ofValues_path {t : Text} (hname : name ∈ names) (hworkers : name ≠ "workers")
    (hlevel : name ≠ "log_level") : ∃ s, ofValues [(name, .str t)] = .ok s := by
  have hcases : name = "descriptors" ∨ name = "docs_dir" ∨ name = "exclude_file" ∨
      name = "output" := by
    simpa [names, hworkers, hlevel] using hname
  rcases hcases with rfl | rfl | rfl | rfl <;> exact ⟨_, rfl⟩

theorem exists_ofValues_workers_iff {value : Json} :
    (∃ s, ofValues [("workers", value)] = .ok s) ↔ ∃ count, checkWorkers value = .ok count := by
  constructor
  · rintro ⟨s, hs⟩
    obtain ⟨-, -, -, -, hworkers, -⟩ := checkMembers_eq_ok_iff.1 (ofValues_eq_ok_iff.1 hs)
    exact ⟨s.workers, Checked.under_eq_ok_iff.1 hworkers⟩
  · rintro ⟨count, hcount⟩
    exact ⟨⟨none, none, none, defaultOutput, count, "INFO"⟩, ofValues_eq_ok_iff.2
      (checkMembers_eq_ok_iff.2 ⟨rfl, rfl, rfl, rfl, Checked.under_eq_ok_iff.2 hcount, rfl⟩)⟩

theorem exists_ofValues_logLevel_iff {value : Json} :
    (∃ s, ofValues [("log_level", value)] = .ok s) ↔ ∃ level, checkLogLevel value = .ok level := by
  constructor
  · rintro ⟨s, hs⟩
    obtain ⟨-, -, -, -, -, hlevel⟩ := checkMembers_eq_ok_iff.1 (ofValues_eq_ok_iff.1 hs)
    exact ⟨s.logLevel, Checked.under_eq_ok_iff.1 hlevel⟩
  · rintro ⟨level, hlevel⟩
    exact ⟨⟨none, none, none, defaultOutput, 1, level⟩, ofValues_eq_ok_iff.2
      (checkMembers_eq_ok_iff.2 ⟨rfl, rfl, rfl, rfl, rfl, Checked.under_eq_ok_iff.2 hlevel⟩)⟩

theorem checkInteger_str_eq_ok_iff {t : Text} {count : Int} :
    Json.checkInteger (.str t) = .ok count ↔ t.isTorn = false ∧ WrittenInt.read t = .ok count := by
  rw [Json.checkInteger]
  cases htorn : t.isTorn with
  | true => simp [Checked.refuse]
  | false =>
    rcases WrittenInt.read t with (_ | _) | i <;> simp [Checked.refuse]

theorem exists_checkWorkers_iff {t : Text} :
    (∃ count, checkWorkers (.str t) = .ok count) ↔
      t.isTorn = false ∧ ∃ count, WrittenInt.read t = .ok count ∧ 1 ≤ count := by
  simp only [checkWorkers, Checked.andThen_eq_ok_iff, checkInteger_str_eq_ok_iff]
  constructor
  · rintro ⟨_, count, ⟨htorn, hread⟩, hcount⟩
    split_ifs at hcount with hlow
    · cases hcount
    · exact ⟨htorn, count, hread, Int.not_lt.1 hlow⟩
  · rintro ⟨htorn, count, hread, hcount⟩
    exact ⟨count, count, ⟨htorn, hread⟩, if_neg (Int.not_lt.2 hcount)⟩

theorem exists_checkLogLevel_iff {t : Text} :
    (∃ level, checkLogLevel (.str t) = .ok level) ↔ normalizeLevel t ∈ logLevels := by
  change (∃ level, (if logLevels.contains (normalizeLevel t) then Checked.ok (normalizeLevel t)
    else _) = .ok level) ↔ _
  constructor
  · rintro ⟨level, hlevel⟩
    split_ifs at hlevel with hcontains
    · exact List.contains_iff_mem.1 hcontains
    · cases hlevel
  · intro hmem
    exact ⟨_, if_pos (List.contains_iff_mem.2 hmem)⟩

theorem admits_iff (hname : name ∈ names) :
    Admits environment name ↔ ∀ raw, environment.lookup (variableName name) = some raw →
      Text.isBlankText raw = false →
      (name = "workers" → (Text.trim raw).isTorn = false ∧
        ∃ count, WrittenInt.read (Text.trim raw) = .ok count ∧ 1 ≤ count) ∧
      (name = "log_level" → normalizeLevel (Text.trim raw) ∈ logLevels) := by
  constructor
  · rintro h raw hraw hblank
    rw [Admits, value?_eq_some_iff.2 ⟨raw, hraw, hblank, rfl⟩] at h
    constructor
    · rintro rfl
      exact exists_checkWorkers_iff.1 (exists_ofValues_workers_iff.1 h)
    · rintro rfl
      exact exists_checkLogLevel_iff.1 (exists_ofValues_logLevel_iff.1 h)
  · intro h
    rw [Admits]
    cases hvalue : value? environment name with
    | none => exact ⟨_, rfl⟩
    | some value =>
      obtain ⟨raw, hraw, hblank, rfl⟩ := value?_eq_some_iff.1 hvalue
      obtain ⟨hworkers, hlevel⟩ := h raw hraw hblank
      by_cases hw : name = "workers"
      · subst hw
        exact exists_ofValues_workers_iff.2 (exists_checkWorkers_iff.2 (hworkers rfl))
      · by_cases hl : name = "log_level"
        · subst hl
          exact exists_ofValues_logLevel_iff.2 (exists_checkLogLevel_iff.2 (hlevel rfl))
        · exact exists_ofValues_path hname hw hl

end Settings
end ApiStubs
