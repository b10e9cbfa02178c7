import ApiStubs.Proofs.Documented.Page

/-! Questions put to one page, one after the other. The page keeps what it has read of itself, and
still answers as one that is read anew for every question. -/

namespace ApiStubs

inductive Question
  | field (name : Text)
  | methods (name : Text)

inductive Answer
  | field (found : Option Field)
  | methods (found : List Method)
  deriving DecidableEq

def Question.detail : Question → Detail
  | .field _ => .field
  | .methods _ => .method

def Detail.key : Detail → Text
  | .field => "fields"
  | .method => "methods"

section Entries

variable {ε α : Type} {check : Json → Checked ε} {make : ε → Except Fault α} {written : Json}

/-- A section that is a list of entries, each of them valid and of types that can be read. -/
structure Lists (check : Json → Checked ε) (make : ε → Except Fault α) (written : Json)
    (entries : List ε) : Prop where
  valid : ∃ items, written = .arr items ∧
    List.Forall₂ (fun item entry => check item = .ok entry) items entries
  readable : ∀ entry ∈ entries, ∃ made, make entry = .ok made

theorem checkList_eq_ok_iff {entries : List ε} :
    written.checkList check = .ok entries ↔ ∃ items, written = .arr items ∧
      List.Forall₂ (fun item entry => check item = .ok entry) items entries := by
  cases written with
  | arr items => simp [Json.checkList, Checked.each, Checked.eachFrom_eq_ok_iff]
  | _ => simp [Json.checkList, Checked.refuse]

theorem read_eq_ok_iff {model : Text} {made : List α} :
    ((written.checkList check).result model >>= List.mapM make) = .ok made ↔
      ∃ entries, Lists check make written entries ∧
        List.Forall₂ (fun entry a => make entry = .ok a) entries made := by
  simp only [bind_eq_ok_iff, Checked.result_eq_ok_iff, mapM_eq_ok_iff, checkList_eq_ok_iff]
  constructor
  · rintro ⟨entries, hvalid, hmade⟩
    refine ⟨entries, ⟨hvalid, fun entry hentry => ?_⟩, hmade⟩
    obtain ⟨a, -, ha⟩ := exists_of_mem_forall₂ hmade.flip hentry
    exact ⟨a, ha⟩
  · rintro ⟨entries, hlists, hmade⟩
    exact ⟨entries, hlists.valid, hmade⟩

theorem Lists.exists_made {entries : List ε} (h : Lists check make written entries) :
    ∃ made, List.Forall₂ (fun entry a => make entry = .ok a) entries made :=
  exists_forall₂ h.readable

theorem Lists.of_records {write : ε → Json} {entries : List ε}
    (hvalid : ∀ entry ∈ entries, check (write entry) = .ok entry)
    (hreadable : ∀ entry ∈ entries, ∃ made, make entry = .ok made) :
    Lists check make (.arr (entries.map write)) entries := by
  refine ⟨⟨entries.map write, rfl, ?_⟩, hreadable⟩
  rw [List.forall₂_map_left_iff, List.forall₂_same]
  exact hvalid

theorem find?_of_forall₂ {R : ε → α → Prop} {p : ε → Bool} {q : α → Bool} {entries : List ε}
    {made : List α} (hpq : ∀ entry a, R entry a → p entry = q a)
    (h : List.Forall₂ R entries made) : Option.Rel R (entries.find? p) (made.find? q) := by
  induction h with
  | nil => exact .none
  | @cons entry a _ _ ha _ ih =>
    rw [List.find?_cons, List.find?_cons, hpq entry a ha]
    cases q a with
    | true => exact .some ha
    | false => exact ih

end Entries

theorem DocumentedField.name_of_toField {d : DocumentedField} {f : Field} (h : d.toField = .ok f) :
    f.name = d.name := by
  obtain ⟨type, -, hfield⟩ := bind_eq_ok_iff.1 h
  cases hfield
  rfl

theorem DocumentedMethod.name_of_toMethod {d : DocumentedMethod} {m : Method}
    (h : d.toMethod = .ok m) : m.name = d.name := by
  obtain ⟨returns, -, hmethod⟩ := bind_eq_ok_iff.1 h
  cases hmethod
  rfl

namespace Page
variable {p : Page} {name : Text} {data : List (Text × Json)}

def ListsFields (data : List (Text × Json)) : List DocumentedField → Prop :=
  Lists DocumentedField.check DocumentedField.toField (entries data "fields")

def ListsMethods (data : List (Text × Json)) : List DocumentedMethod → Prop :=
  Lists DocumentedMethod.check DocumentedMethod.toMethod (entries data "methods")

def Valid (data : List (Text × Json)) : Detail → Prop
  | .field => ∃ found, ListsFields data found
  | .method => ∃ found, ListsMethods data found

def ask (p : Page) : Question → Except DetailFault Answer × Page
  | .field name => ((p.field? name).1.map Answer.field, (p.field? name).2)
  | .methods name => ((p.methodsNamed name).1.map Answer.methods, (p.methodsNamed name).2)

def askAll (p : Page) : List Question → List (Except DetailFault Answer) × Page
  | [] => ([], p)
  | q :: rest => ((p.ask q).1 :: ((p.ask q).2.askAll rest).1, ((p.ask q).2.askAll rest).2)

theorem readFields_eq_ok_iff {made : List Field} :
    readFields data = .ok made ↔ ∃ found, ListsFields data found ∧
      List.Forall₂ (fun d f => d.toField = .ok f) found made :=
  read_eq_ok_iff

theorem readMethods_eq_ok_iff {made : List Method} :
    readMethods data = .ok made ↔ ∃ found, ListsMethods data found ∧
      List.Forall₂ (fun d m => d.toMethod = .ok m) found made :=
  read_eq_ok_iff

theorem fields_ofData :
    (ofData name data).fields.1 =
      (readFields data).mapError fun fault => ⟨name, .field, fault.message⟩ := by
  simp only [fields, ofData]
  cases readFields data <;> rfl

theorem methods_ofData :
    (ofData name data).methods.1 =
      (readMethods data).mapError fun fault => ⟨name, .method, fault.message⟩ := by
  simp only [methods, ofData]
  cases readMethods data <;> rfl

theorem steady_ask (q : Question) : Steady fun p => p.ask q := by
  cases q with
  | field name => exact (steady_field? name).map Answer.field
  | methods name => exact (steady_methodsNamed name).map Answer.methods

/-- A page answers as it did before any of its sections was read, whatever it is asked. -/
theorem askAll_run (questions : List Question) (h : p.Sound) :
    (p.askAll questions).1 = questions.map (fun q => (p.fresh.ask q).1) ∧
      (p.askAll questions).2.Sound ∧ (p.askAll questions).2.fresh = p.fresh := by
  induction questions generalizing p with
  | nil => exact ⟨rfl, h, rfl⟩
  | cons q rest ih =>
    have hsteady := steady_ask q
    have hfresh : (p.ask q).2.fresh = p.fresh := hsteady.fresh p h
    obtain ⟨hanswers, hsound, hsame⟩ := ih (hsteady.sound p h)
    refine ⟨?_, hsound, hsame.trans hfresh⟩
    rw [askAll, List.map_cons, hanswers, hfresh]
    exact congrArg (· :: _) (hsteady.answer p h)

theorem fields_of_error {fault : DetailFault} (h : p.fields.1 = .error fault) : p.fields.2 = p := by
  rw [fields] at h ⊢
  split at h
  · cases h
  · split at h
    · cases h
    · rfl

theorem methods_of_error {fault : DetailFault} (h : p.methods.1 = .error fault) :
    p.methods.2 = p := by
  rw [methods] at h ⊢
  split at h
  · cases h
  · split at h
    · cases h
    · rfl

theorem map_eq_error {ε α β : Type} {f : α → β} {x : Except ε α} {e : ε}
    (h : x.map f = .error e) : x = .error e := by
  cases x with
  | ok a => cases h
  | error other => exact congrArg _ (Except.error.inj h)

theorem ask_of_error {q : Question} {fault : DetailFault} (h : (p.ask q).1 = .error fault) :
    (p.ask q).2 = p := by
  cases q with
  | field name => exact fields_of_error (map_eq_error (map_eq_error h))
  | methods name => exact methods_of_error (map_eq_error (map_eq_error h))

theorem exists_readFields {found : List DocumentedField} (h : ListsFields data found) :
    ∃ made, readFields data = .ok made ∧
      List.Forall₂ (fun d f => d.toField = .ok f) found made := by
  obtain ⟨made, hmade⟩ := h.exists_made
  exact ⟨made, readFields_eq_ok_iff.2 ⟨found, h, hmade⟩, hmade⟩

theorem exists_readMethods {found : List DocumentedMethod} (h : ListsMethods data found) :
    ∃ made, readMethods data = .ok made ∧
      List.Forall₂ (fun d m => d.toMethod = .ok m) found made := by
  obtain ⟨made, hmade⟩ := h.exists_made
  exact ⟨made, readMethods_eq_ok_iff.2 ⟨found, h, hmade⟩, hmade⟩

theorem field?_of_lists (name : Text) {found : List DocumentedField} (h : ListsFields data found)
    (n : Text) :
    ∃ field, ((ofData name data).field? n).1 = .ok field ∧
      Option.Rel (fun d f => d.toField = .ok f) (found.find? (·.name == n)) field := by
  obtain ⟨made, hread, hmade⟩ := exists_readFields h
  refine ⟨made.find? (·.name == n), ?_, find?_of_forall₂ (fun d f hf => ?_) hmade⟩
  · rw [answer_field?, fields_ofData, hread]
    rfl
  · rw [DocumentedField.name_of_toField hf]

theorem field_of_lists {found : List DocumentedField} (h : ListsFields data found) (n : Text) :
    ∃ field, ((ofData name data).ask (.field n)).1 = .ok (.field field) ∧
      Option.Rel (fun d f => d.toField = .ok f) (found.find? (·.name == n)) field := by
  obtain ⟨field, hanswer, hfield⟩ := field?_of_lists name h n
  exact ⟨field, congrArg (Except.map Answer.field) hanswer, hfield⟩

theorem methods_of_lists {found : List DocumentedMethod} (h : ListsMethods data found) (n : Text) :
    ∃ overloads, ((ofData name data).ask (.methods n)).1 = .ok (.methods overloads) ∧
      List.Forall₂ (fun d m => d.toMethod = .ok m) (found.filter (·.name == n)) overloads := by
  obtain ⟨made, hread, hmade⟩ := exists_readMethods h
  refine ⟨made.filter (·.name == n), ?_, List.rel_filter (fun d m hm => ?_) hmade⟩
  · rw [ask, answer_methodsNamed, methods_ofData, hread]
    rfl
  · change d.name == n ↔ m.name == n
    rw [DocumentedMethod.name_of_toMethod hm]

/-- A section with one entry that cannot be read fails as a whole, and whoever asks is told the
same. -/
theorem ask_of_not_valid {detail : Detail} (h : ¬Valid data detail) :
    ∃ reason, ∀ q : Question, q.detail = detail →
      ((ofData name data).ask q).1 = .error ⟨name, detail, reason⟩ := by
  cases detail with
  | field =>
    cases hread : readFields data with
    | ok made =>
      obtain ⟨found, hfound, -⟩ := readFields_eq_ok_iff.1 hread
      exact absurd ⟨found, hfound⟩ h
    | error fault =>
      refine ⟨fault.message, fun q hq => ?_⟩
      cases q with
      | field n =>
        rw [ask, answer_field?, fields_ofData, hread]
        rfl
      | methods n => cases hq
  | method =>
    cases hread : readMethods data with
    | ok made =>
      obtain ⟨found, hfound, -⟩ := readMethods_eq_ok_iff.1 hread
      exact absurd ⟨found, hfound⟩ h
    | error fault =>
      refine ⟨fault.message, fun q hq => ?_⟩
      cases q with
      | field n => cases hq
      | methods n =>
        rw [ask, answer_methodsNamed, methods_ofData, hread]
        rfl

theorem field?_of_not_valid (name : Text) (h : ¬Valid data .field) :
    ∃ reason, ∀ n, ((ofData name data).field? n).1 = .error ⟨name, .field, reason⟩ := by
  obtain ⟨reason, hreason⟩ := @ask_of_not_valid name data .field h
  exact ⟨reason, fun n => map_eq_error (hreason (.field n) rfl)⟩

theorem methodsNamed_of_not_valid (name : Text) (h : ¬Valid data .method) :
    ∃ reason, ∀ n, ((ofData name data).methodsNamed n).1 = .error ⟨name, .method, reason⟩ := by
  obtain ⟨reason, hreason⟩ := @ask_of_not_valid name data .method h
  exact ⟨reason, fun n => map_eq_error (hreason (.methods n) rfl)⟩

theorem ask_congr {other : List (Text × Json)} {q : Question}
    (h : entries other q.detail.key = entries data q.detail.key) :
    ((ofData name other).ask q).1 = ((ofData name data).ask q).1 := by
  cases q with
  | field n =>
    have hread : readFields other = readFields data := by
      rw [readFields, readFields, show entries other "fields" = entries data "fields" from h]
    rw [ask, ask, answer_field?, answer_field?, fields_ofData, fields_ofData, hread]
  | methods n =>
    have hread : readMethods other = readMethods data := by
      rw [readMethods, readMethods, show entries other "methods" = entries data "methods" from h]
    rw [ask, ask, answer_methodsNamed, answer_methodsNamed, methods_ofData, methods_ofData, hread]

structure Whole (p : Page) : Prop where
  fields : ∀ kept, p.keptFields = some kept → ∃ found, ListsFields p.data found ∧
    List.Forall₂ (fun d f => d.toField = .ok f) found kept
  methods : ∀ kept, p.keptMethods = some kept → ∃ found, ListsMethods p.data found ∧
    List.Forall₂ (fun d m => d.toMethod = .ok m) found kept

theorem Sound.whole (h : p.Sound) : p.Whole where
  fields kept hkept := readFields_eq_ok_iff.1 (h.fields kept hkept)
  methods kept hkept := readMethods_eq_ok_iff.1 (h.methods kept hkept)

/-- Whatever a page was asked before, it answers as one read anew: a field is the first entry of its
name, methods are all entries of theirs in order, and a section with a bad entry, even one that no
answer would show, fails every question about it alike and none about the other section. -/
theorem asked_page_answers_as_read_anew (name : Text) (data : List (Text × Json)) :
    let fresh := ofData name data
    (∀ questions : List Question,
      let (answers, page) := fresh.askAll questions
      answers = questions.map (fun q => (fresh.ask q).1) ∧
        (∀ q fault, (page.ask q).1 = .error fault → (page.ask q).2 = page) ∧
        page.data = data ∧ page.Whole) ∧
      (∀ found, ListsFields data found → ∀ n, ∃ field,
        (fresh.ask (.field n)).1 = .ok (.field field) ∧
          Option.Rel (fun d f => d.toField = .ok f) (found.find? (·.name == n)) field) ∧
      (∀ found, ListsMethods data found → ∀ n, ∃ overloads,
        (fresh.ask (.methods n)).1 = .ok (.methods overloads) ∧
          List.Forall₂ (fun d m => d.toMethod = .ok m) (found.filter (·.name == n)) overloads) ∧
      (∀ detail, ¬Valid data detail → ∃ reason, ∀ q : Question, q.detail = detail →
        (fresh.ask q).1 = .error ⟨name, detail, reason⟩) ∧
      ∀ (q : Question) (other : List (Text × Json)),
        entries other q.detail.key = entries data q.detail.key →
          ((ofData name other).ask q).1 = (fresh.ask q).1 := by
  refine ⟨fun questions => ?_, fun found h => field_of_lists h, fun found h => methods_of_lists h,
    fun detail h => ask_of_not_valid h, fun q other h => ask_congr h⟩
  obtain ⟨hanswers, hsound, hfresh⟩ := askAll_run questions (sound_ofData name data)
  exact ⟨hanswers, fun q fault h => ask_of_error h, congrArg Page.data hfresh, hsound.whole⟩

/-- The second entry of a name would never be shown. Its type cannot be read, and no field of the
page can be told, whereas the overloads of a method still can. -/
theorem asked_page_fails_by_hidden_entry :
    let field := fun (name type : Text) => Json.obj [("name", .str name), ("type", .str type)]
    let first : DocumentedMethod := ⟨"m", [], "int", []⟩
    let second : DocumentedMethod := ⟨"m", [], "String", ["public"]⟩
    let data : List (Text × Json) :=
      [("fields", .arr [field "a" "int", field "a" " "]),
        ("methods", .arr [first.toJson, (DocumentedMethod.mk "n" [] "void" []).toJson,
          second.toJson])]
    let fresh := ofData "A" data
    let questions := [.field "a", .methods "m", .field "b", .methods "q", .field "a"]
    ∃ reason, (fresh.askAll questions).1 =
      [.error ⟨"A", .field, reason⟩,
        .ok (.methods [.make "m" [] ⟨"int", []⟩ [], .make "m" [] ⟨"string", []⟩ ["public"]]),
        .error ⟨"A", .field, reason⟩, .ok (.methods []), .error ⟨"A", .field, reason⟩] := by
  intro field first second data fresh questions
  obtain ⟨hasked, -, -, hfaulty, -⟩ := asked_page_answers_as_read_anew "A" data
  have hnot : ¬Valid data .field := by
    rintro ⟨found, hfound⟩
    obtain ⟨made, hmade⟩ := hfound.exists_made
    have hread := congrArg Except.toOption (readFields_eq_ok_iff.2 ⟨found, hfound, hmade⟩)
    rw [show (readFields data).toOption = none by decide +kernel] at hread
    cases hread
  obtain ⟨reason, hreason⟩ := hfaulty .field hnot
  have hoverloads : (fresh.ask (.methods "m")).1 = .ok (.methods
      [.make "m" [] ⟨"int", []⟩ [], .make "m" [] ⟨"string", []⟩ ["public"]]) :=
    eq_ok_of_toOption (by decide +kernel)
  have hnone : (fresh.ask (.methods "q")).1 = .ok (.methods []) :=
    eq_ok_of_toOption (by decide +kernel)
  refine ⟨reason, (hasked questions).1.trans ?_⟩
  rw [List.map, List.map, List.map, List.map, List.map, List.map, hreason _ rfl, hoverloads,
    hreason _ rfl, hnone]

end Page

/-- What there is to tell of members: nothing without a page, else what the page lists, with its
name. -/
inductive Lookup.Tells {α : Type} (lists : List (Text × Json) → List α → Prop) :
    Lookup → Option (Text × List α) → Prop
  | missing (reason : Text) : Tells lists (.missing reason) none
  | found {page : Page} {entries : List α} (h : lists page.data entries) :
      Tells lists (.found page) (some (page.name, entries))

theorem Lookup.Tells.fresh {α : Type} {lists : List (Text × Json) → List α → Prop}
    {source : Lookup} {told : Option (Text × List α)} (h : source.Tells lists told) :
    source.fresh.Tells lists told := by
  cases h with
  | missing reason => exact .missing reason
  | @found page entries hentries =>
    change (Lookup.found page.fresh).Tells lists (some (page.fresh.name, entries))
    exact .found hentries

end ApiStubs
