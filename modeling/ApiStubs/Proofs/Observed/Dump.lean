import ApiStubs.Observed.Dump
import ApiStubs.Proofs.Json.Stored
import ApiStubs.Proofs.Merge.Malformed
import ApiStubs.Proofs.Observed.Readable
import ApiStubs.Proofs.Validation.Unstopped

/-! Dumps of exposed classes. A dump gives a class for every record of its list, or else one failure
that says why it gives none; and every class that it gives can be merged without a page. -/

namespace ApiStubs

open Json (unstopped_checkMember unstopped_checkMemberOr unstopped_checkModel)

theorem ObservedType.unstopped_checkName (value : Json) : (checkName value).Unstopped := by
  refine (Json.unstopped_checkNonEmptyString value).andThen fun s => ?_
  split
  · exact nofun
  · exact Checked.unstopped_ofFault _ _

theorem ObservedType.unstopped_check (value : Json) : (check value).Unstopped := by
  have hmembers (members : List (Text × Json)) : (checkMembers members).Unstopped :=
    .seq (.map (unstopped_checkMember unstopped_checkName _ _) _)
      (unstopped_checkMemberOr Json.unstopped_checkStrings _ _ _)
  rw [check.eq_def]
  split
  · exact hmembers _
  · exact unstopped_checkModel hmembers _ _

theorem ObservedField.unstopped_check (value : Json) : (check value).Unstopped :=
  unstopped_checkModel (fun _ => .seq (.seq (.seq
    (.map (unstopped_checkMember Json.unstopped_checkNonEmptyString _ _) _)
    (unstopped_checkMember ObservedType.unstopped_check _ _))
    (unstopped_checkMemberOr Json.unstopped_checkStrings _ _ _))
    (unstopped_checkMemberOr Json.unstopped_checkBoolean _ _ _)) _ value

theorem ObservedParam.unstopped_check (value : Json) : (check value).Unstopped :=
  unstopped_checkModel (fun _ => .seq
    (.map (unstopped_checkMember ObservedType.unstopped_check _ _) _)
    (unstopped_checkMemberOr Json.unstopped_checkString _ _ _)) _ value

theorem ObservedMethod.unstopped_check (value : Json) : (check value).Unstopped :=
  unstopped_checkModel (fun _ => .seq (.seq (.seq (.seq
    (.map (unstopped_checkMember Json.unstopped_checkNonEmptyString _ _) _)
    (unstopped_checkMemberOr (Json.unstopped_checkList ObservedParam.unstopped_check) _ _ _))
    (unstopped_checkMemberOr ObservedType.unstopped_check _ _ _))
    (unstopped_checkMemberOr Json.unstopped_checkStrings _ _ _))
    (unstopped_checkMemberOr Json.unstopped_checkBoolean _ _ _)) _ value

theorem ObservedClass.unstopped_check (value : Json) : (check value).Unstopped :=
  unstopped_checkModel (fun _ => .seq (.seq (.seq
    (.map (unstopped_checkMember Json.unstopped_checkNonEmptyString _ _) _)
    (unstopped_checkMemberOr Json.unstopped_checkStrings _ _ _))
    (unstopped_checkMemberOr (Json.unstopped_checkList ObservedField.unstopped_check) _ _ _))
    (unstopped_checkMemberOr (Json.unstopped_checkList ObservedMethod.unstopped_check) _ _ _)) _
    value

namespace Dump

variable {files : FileTree} {path : Path} {classes : List ObservedClass} {value : Json}
  {items : List Json} {problem : DumpProblem}

/-- A list of records stands by itself, or as the member `classes` of an object. -/
inductive ClassList : Json → List Json → Prop
  | bare {items : List Json} : ClassList (.arr items) items
  | wrapped {members : List (Text × Json)} {items : List Json} :
      members.lookup (.ofString "classes") = some (.arr items) → ClassList (.obj members) items

def Describes (items : List Json) (classes : List ObservedClass) : Prop :=
  List.Forall₂ (fun item c => ObservedClass.check item = .ok c) items classes

theorem classList?_eq_some_iff : classList? value = some items ↔ ClassList value items := by
  constructor
  · intro h
    rw [classList?.eq_def] at h
    split at h
    · cases h
      exact .bare
    · split at h
      · cases h
        exact .wrapped ‹_›
      · cases h
    · cases h
  · rintro (_ | hlookup)
    · rfl
    · rw [classList?, hlookup]

theorem checkClasses_eq_ok_iff : checkClasses items = .ok classes ↔ Describes items classes := by
  rw [checkClasses, Checked.result_eq_ok_iff]
  exact Checked.eachFrom_eq_ok_iff

theorem exists_describes_iff :
    (∃ classes, Describes items classes) ↔
      ∀ item ∈ items, ∃ c, ObservedClass.check item = .ok c := by
  refine ⟨?_, exists_forall₂⟩
  rintro ⟨classes, hclasses⟩ item hitem
  obtain ⟨c, -, hc⟩ := exists_of_mem_forall₂ hclasses.flip hitem
  exact ⟨c, hc⟩

theorem exists_complaints {fault : Fault} (h : checkClasses items = .error fault) :
    (∃ complaints, fault = .invalid "list[ReflectedClass]" complaints) ∧
      ∃ item ∈ items, ∀ c, ObservedClass.check item ≠ .ok c := by
  refine ⟨(Checked.unstopped_each ObservedClass.unstopped_check items).exists_complaints h, ?_⟩
  by_contra hall
  push Not at hall
  obtain ⟨classes, hclasses⟩ := exists_describes_iff.2 hall
  rw [checkClasses_eq_ok_iff.2 hclasses] at h
  cases h

theorem ofJson_of_classList (h : ClassList value items) :
    ofJson value = (checkClasses items).mapError .malformed := by
  rw [ofJson, classList?_eq_some_iff.2 h]

theorem ofJson_eq_ok_iff :
    ofJson value = .ok classes ↔ ∃ items, ClassList value items ∧ Describes items classes := by
  constructor
  · intro h
    rw [ofJson] at h
    split at h
    · cases h
    · rename_i items hitems
      exact ⟨items, classList?_eq_some_iff.1 hitems,
        checkClasses_eq_ok_iff.1 (mapError_eq_ok h)⟩
  · rintro ⟨items, hitems, hclasses⟩
    rw [ofJson_of_classList hitems, checkClasses_eq_ok_iff.2 hclasses]
    rfl

variable [Json.DepthLimit]

inductive Fails (files : FileTree) (path : Path) : DumpProblem → Prop
  | unreadable {problem : FileProblem} {asked : Path} :
      files.read path = .error (.refused problem asked) →
        Fails files path (.unreadable problem asked)
  | unnamable {fault : FileFault} :
      files.read path = .error fault → (∀ problem asked, fault ≠ .refused problem asked) →
        Fails files path (.unnamable fault)
  | undecodable {octets : List UInt8} {fault : Utf8.Fault} :
      files.read path = .ok octets → Utf8.decode octets = .error fault →
        Fails files path (.undecodable fault)
  | notJson {text : Text} {fault : Json.ReadFault} :
      files.readText path = .ok text → Json.readText text = .error fault →
        Fails files path (.notJson text fault)
  | noList {value : Json} :
      readJson files path = .ok value → (∀ items, ¬ClassList value items) →
        Fails files path .noList
  | malformed {value : Json} {items : List Json} {complaints : List Complaint} :
      readJson files path = .ok value → ClassList value items →
        checkClasses items = .error (.invalid "list[ReflectedClass]" complaints) →
        (∃ item ∈ items, ∀ c, ObservedClass.check item ≠ .ok c) →
        Fails files path (.malformed (.invalid "list[ReflectedClass]" complaints))

/-- The text of the dump is JSON, or else it is not for its depth that it is none. -/
def Shallow (files : FileTree) (path : Path) : Prop :=
  ∀ text container, files.readText path = .ok text →
    Json.readText text ≠ .error (.beyond (.depth container))

theorem readJson_eq_ok_iff :
    readJson files path = .ok value ↔
      ∃ text, files.readText path = .ok text ∧ Json.readText text = .ok value := by
  rw [readJson]
  constructor
  · intro h
    split at h
    · cases h
    · cases h
    · cases h
    · rename_i text htext
      split at h
      · cases h
      · cases h
      · cases h
        exact ⟨text, htext, ‹_›⟩
  · rintro ⟨text, htext, hvalue⟩
    rw [htext]
    simp only [hvalue]

theorem read_of_readJson (h : readJson files path = .ok value) :
    read files path = (ofJson value).mapError (.failed path) := by
  rw [read, h]
  rfl

theorem read_of_readJson_error {fault : DumpFault} (h : readJson files path = .error fault) :
    read files path = .error fault := by
  rw [read, h]
  rfl

theorem read_eq_ok_iff :
    read files path = .ok classes ↔
      ∃ value, readJson files path = .ok value ∧ ofJson value = .ok classes := by
  rw [read, bind_eq_ok_iff]
  refine exists_congr fun value => and_congr_right fun _ => ⟨mapError_eq_ok, fun h => ?_⟩
  rw [h]
  rfl

theorem shallow_of_readJson (h : readJson files path = .ok value) : Shallow files path := by
  intro text container htext hdeep
  obtain ⟨text', htext', hvalue⟩ := readJson_eq_ok_iff.1 h
  cases htext'.symm.trans htext
  cases hvalue.symm.trans hdeep

theorem readJson_fails (hshallow : Shallow files path) {fault : DumpFault}
    (h : readJson files path = .error fault) :
    ∃ problem, fault = .failed path problem ∧ Fails files path problem := by
  rw [readJson] at h
  split at h
  · rename_i problem asked hread
    cases h
    exact ⟨_, rfl, .unreadable (FileTree.readText_eq_file_iff.1 hread)⟩
  · rename_i fault hrefused hread
    cases h
    exact ⟨_, rfl, .unnamable (FileTree.readText_eq_file_iff.1 hread) hrefused⟩
  · rename_i fault hread
    cases h
    obtain ⟨octets, hoctets, hfault⟩ := FileTree.readText_eq_encoding_iff.1 hread
    exact ⟨_, rfl, .undecodable hoctets hfault⟩
  · rename_i text htext
    split at h
    · rename_i container hdeep
      exact absurd hdeep (hshallow text container htext)
    · rename_i fault _ hfault
      cases h
      exact ⟨_, rfl, .notJson htext hfault⟩
    · cases h

theorem fails_of_read (hshallow : Shallow files path) {fault : DumpFault}
    (h : read files path = .error fault) :
    ∃ problem, fault = .failed path problem ∧ Fails files path problem := by
  cases hjson : readJson files path with
  | error fault' =>
    rw [read_of_readJson_error hjson] at h
    cases h
    exact readJson_fails hshallow hjson
  | ok value =>
    rw [read_of_readJson hjson] at h
    cases hlist : classList? value with
    | none =>
      rw [ofJson, hlist] at h
      cases h
      refine ⟨_, rfl, .noList hjson fun items hitems => ?_⟩
      rw [classList?_eq_some_iff.2 hitems] at hlist
      cases hlist
    | some items =>
      have hitems := classList?_eq_some_iff.1 hlist
      rw [ofJson_of_classList hitems] at h
      cases hchecked : checkClasses items with
      | ok classes =>
        rw [hchecked] at h
        cases h
      | error fault' =>
        obtain ⟨⟨complaints, rfl⟩, hitem⟩ := exists_complaints hchecked
        rw [hchecked] at h
        cases h
        exact ⟨_, rfl, .malformed hjson hitems hchecked hitem⟩

theorem Fails.read_eq (hshallow : Shallow files path) (h : Fails files path problem) :
    read files path = .error (.failed path problem) := by
  cases h with
  | unreadable hread =>
    refine read_of_readJson_error ?_
    rw [readJson, FileTree.readText_eq_file_iff.2 hread]
  | @unnamable fault hread hrefused =>
    refine read_of_readJson_error ?_
    rw [readJson, FileTree.readText_eq_file_iff.2 hread]
    cases fault with
    | refused problem asked => exact absurd rfl (hrefused problem asked)
    | _ => rfl
  | undecodable hread hdecode =>
    refine read_of_readJson_error ?_
    rw [readJson, FileTree.readText_eq_encoding_iff.2 ⟨_, hread, hdecode⟩]
  | @notJson text fault htext hfault =>
    refine read_of_readJson_error ?_
    rw [readJson, htext]
    simp only [hfault]
    rcases fault with ⟨_, _⟩ | (_ | container)
    · rfl
    · rfl
    · exact absurd hfault (hshallow text container htext)
  | @noList value hjson hlist =>
    have hnone : classList? value = none := by
      by_contra hsome
      obtain ⟨items, hitems⟩ := Option.ne_none_iff_exists'.1 hsome
      exact hlist items (classList?_eq_some_iff.1 hitems)
    rw [read_of_readJson hjson, ofJson, hnone]
    rfl
  | malformed hjson hitems hchecked _ =>
    rw [read_of_readJson hjson, ofJson_of_classList hitems, hchecked]
    rfl

theorem accepted_of_read (h : read files path = .ok classes) : ∀ c ∈ classes, c.Accepted := by
  obtain ⟨value, -, hvalue⟩ := read_eq_ok_iff.1 h
  obtain ⟨items, -, hclasses⟩ := ofJson_eq_ok_iff.1 hvalue
  intro c hc
  obtain ⟨item, -, hitem⟩ := exists_of_mem_forall₂ hclasses hc
  exact ⟨item, hitem⟩

theorem readable_of_read (h : read files path = .ok classes) : ∀ c ∈ classes, c.Readable :=
  fun c hc => (accepted_of_read h c hc).readable

end Dump

open Dump (ClassList Describes Fails)

/-- A dump either gives one class for each record of its class list, in order, or fails in one way,
with its reason. It gives classes just where its octets are text, the text is JSON, the value is a
list of records or has one, and each record describes a class. The list alone comes to the same as
an object around it, and all members of the classes can be made and merged without a page. -/
theorem dump_is_read_whole_or_refused [Json.DepthLimit] {files : FileTree} {path : Path}
    (hshallow : Dump.Shallow files path) :
    ((∃ classes, Dump.read files path = .ok classes) ∨
      ∃ problem, Dump.read files path = .error (.failed path problem)) ∧
    (∀ classes, Dump.read files path = .ok classes ↔ ∃ octets text value items,
      files.read path = .ok octets ∧ Utf8.decode octets = .ok text ∧
      Json.readText (Text.unifyNewlines text) = .ok value ∧ ClassList value items ∧
      Describes items classes) ∧
    (∀ problem, Dump.read files path = .error (.failed path problem) ↔
      Fails files path problem) ∧
    (∀ files' items members, Dump.readJson files path = .ok (.arr items) →
      Dump.readJson files' path = .ok (.obj members) →
      members.lookup (.ofString "classes") = some (.arr items) →
      Dump.read files path = Dump.read files' path) ∧
    ∀ classes, Dump.read files path = .ok classes → ∀ c ∈ classes,
      (∀ f ∈ c.fields, ∃ field, f.toField = .ok field) ∧
      (∀ m ∈ c.methods, ∃ method, m.toMethod = .ok method) ∧
      ∀ reason, ∃ stub, ((Merge.wholeClass c).run (.missing reason)).result = .ok stub := by
  refine ⟨?_, fun classes => ?_, fun problem => ⟨fun h => ?_, fun h => h.read_eq hshallow⟩,
    fun files' items members hbare hwrapped hlookup => ?_, fun classes hclasses c hc => ?_⟩
  · cases hread : Dump.read files path with
    | ok classes => exact .inl ⟨classes, rfl⟩
    | error fault =>
      obtain ⟨problem, rfl, -⟩ := Dump.fails_of_read hshallow hread
      exact .inr ⟨problem, rfl⟩
  · simp only [Dump.read_eq_ok_iff, Dump.readJson_eq_ok_iff, FileTree.readText_eq_ok_iff,
      Dump.ofJson_eq_ok_iff]
    constructor
    · rintro ⟨value, ⟨_, ⟨octets, text, hread, hdecode, rfl⟩, hvalue⟩, items, hitems, hclasses⟩
      exact ⟨octets, text, value, items, hread, hdecode, hvalue, hitems, hclasses⟩
    · rintro ⟨octets, text, value, items, hread, hdecode, hvalue, hitems, hclasses⟩
      exact ⟨value, ⟨_, ⟨octets, text, hread, hdecode, rfl⟩, hvalue⟩, items, hitems, hclasses⟩
  · obtain ⟨problem', heq, hfails⟩ := Dump.fails_of_read hshallow h
    cases heq
    exact hfails
  · rw [Dump.read_of_readJson hbare, Dump.read_of_readJson hwrapped,
      Dump.ofJson_of_classList .bare, Dump.ofJson_of_classList (.wrapped hlookup)]
  · have hreadable := Dump.readable_of_read hclasses c hc
    refine ⟨fun f hf => ⟨_, (hreadable.fields f hf).toField_eq⟩, fun m hm => ?_,
      Merge.exists_wholeClass_missing hreadable⟩
    obtain ⟨params, -, hmethod⟩ := (hreadable.methods m hm).exists_toMethod
    exact ⟨_, hmethod⟩

attribute [local instance] Json.DepthLimit.usual

/-- One list of two classes stands alone, in an object, and after an octet that is no text. -/
theorem dump_is_read_whole_or_refused_two_shapes :
    let octets := fun s : String => s.toList.map fun ch => UInt8.ofNat ch.toNat
    let list := "[\x7b\x22name\x22: \x22A\x22\x7d, \x7b\x22name\x22: \x22B\x22, " ++
      "\x22fields\x22: [\x7b\x22name\x22: \x22end\x22, \x22type\x22: \x22Map<K, V>\x22\x7d]\x7d]"
    let holding := fun content => FileTree.mk [(Place.working.enter (octets "d"), .file content)]
    let bare := holding (octets list)
    let wrapped := holding (octets ("\x7b\x22classes\x22: " ++ list ++ "\x7d"))
    let broken := holding (0xFF :: octets list)
    let path := Path.ofText "d"
    let classes : List ObservedClass := [⟨"A", [], [], []⟩,
      ⟨"B", [], [⟨"end", ⟨"Map<K, V>", []⟩, [], false⟩], []⟩]
    Dump.Shallow bare path ∧ Dump.Shallow wrapped path ∧ Dump.Shallow broken path ∧
      Dump.read bare path = .ok classes ∧ Dump.read wrapped path = .ok classes ∧
      (∃ octets text value items, wrapped.read path = .ok octets ∧
        Utf8.decode octets = .ok text ∧ Json.readText (Text.unifyNewlines text) = .ok value ∧
        ClassList value items ∧ Describes items classes) ∧
      (∀ c ∈ classes, ∃ stub,
        ((Merge.wholeClass c).run (.missing "no page")).result = .ok stub) ∧
      ∃ problem, Dump.read broken path = .error (.failed path problem) ∧
        Fails broken path problem := by
  intro octets list holding bare wrapped broken path classes
  have hbare : Dump.read bare path = .ok classes := eq_ok_of_toOption (by decide +kernel)
  have hwrapped : Dump.read wrapped path = .ok classes := eq_ok_of_toOption (by decide +kernel)
  have hbroken : (broken.readText path).toOption = none := by decide +kernel
  obtain ⟨value, hvalue, -⟩ := Dump.read_eq_ok_iff.1 hbare
  obtain ⟨value', hvalue', -⟩ := Dump.read_eq_ok_iff.1 hwrapped
  have hshallow : Dump.Shallow broken path := by
    intro text container htext
    rw [htext] at hbroken
    cases hbroken
  have hnone : ∀ cs, Dump.read broken path ≠ .ok cs := by
    intro cs hcs
    obtain ⟨value, hvalue, -⟩ := Dump.read_eq_ok_iff.1 hcs
    obtain ⟨text, htext, -⟩ := Dump.readJson_eq_ok_iff.1 hvalue
    rw [htext] at hbroken
    cases hbroken
  have hofBare := Dump.shallow_of_readJson hvalue
  have hofWrapped := Dump.shallow_of_readJson hvalue'
  obtain ⟨-, -, -, -, hmerged⟩ := dump_is_read_whole_or_refused hofBare
  obtain ⟨-, hshape, -, -, -⟩ := dump_is_read_whole_or_refused hofWrapped
  obtain ⟨⟨cs, hcs⟩ | ⟨problem, hproblem⟩, -, hfails, -, -⟩ :=
    dump_is_read_whole_or_refused hshallow
  · exact absurd hcs (hnone cs)
  · exact ⟨hofBare, hofWrapped, hshallow, hbare, hwrapped, (hshape classes).1 hwrapped,
      fun c hc => (hmerged classes hbare c hc).2.2 _, problem, hproblem,
      (hfails problem).1 hproblem⟩

end ApiStubs
