import ApiStubs.Validation.Scalar
import Mathlib.Data.List.Forall2

/-! What a check that accepts a value says of its parts. -/

namespace ApiStubs

section Except
variable {ε δ α β : Type}

theorem eq_ok_of_toOption {x : Except ε α} {a : α} (h : x.toOption = some a) : x = .ok a := by
  cases x with
  | ok b => exact congrArg Except.ok (Option.some.inj h)
  | error e => cases h

theorem mapError_eq_ok {f : ε → δ} {x : Except ε α} {a : α} (h : x.mapError f = .ok a) :
    x = .ok a := by
  cases x with
  | error e => cases h
  | ok b => exact congrArg _ (Except.ok.inj h)

theorem bind_eq_ok_iff {x : Except ε α} {f : α → Except ε β} {b : β} :
    x >>= f = .ok b ↔ ∃ a, x = .ok a ∧ f a = .ok b := by
  cases x with
  | ok a => simp [bind, Except.bind]
  | error e => simp [bind, Except.bind]

theorem bind_eq_error_iff {x : Except ε α} {f : α → Except ε β} {e : ε} :
    x >>= f = .error e ↔ x = .error e ∨ ∃ a, x = .ok a ∧ f a = .error e := by
  cases x with
  | ok a => simp [bind, Except.bind]
  | error e => simp [bind, Except.bind]

theorem mapM_eq_ok_iff {f : α → Except ε β} {items : List α} {results : List β} :
    items.mapM f = .ok results ↔ List.Forall₂ (fun a b => f a = .ok b) items results := by
  induction items generalizing results with
  | nil => simp [pure, Except.pure, eq_comm]
  | cons a rest ih =>
    rw [List.mapM_cons, bind_eq_ok_iff, List.forall₂_cons_left_iff]
    constructor
    · rintro ⟨b, hb, h⟩
      obtain ⟨bs, hbs, h⟩ := bind_eq_ok_iff.1 h
      cases h
      exact ⟨b, bs, hb, ih.1 hbs, rfl⟩
    · rintro ⟨b, bs, hb, hbs, rfl⟩
      exact ⟨b, hb, bind_eq_ok_iff.2 ⟨bs, ih.2 hbs, rfl⟩⟩

theorem exists_forall₂ {R : α → β → Prop} {as : List α} (h : ∀ a ∈ as, ∃ b, R a b) :
    ∃ bs, List.Forall₂ R as bs := by
  induction as with
  | nil => exact ⟨[], .nil⟩
  | cons a rest ih =>
    obtain ⟨b, hb⟩ := h a List.mem_cons_self
    obtain ⟨bs, hbs⟩ := ih fun c hc => h c (List.mem_cons_of_mem _ hc)
    exact ⟨b :: bs, .cons hb hbs⟩

theorem exists_mapM_eq_ok {f : α → Except ε β} {items : List α}
    (h : ∀ a ∈ items, ∃ b, f a = .ok b) : ∃ results, items.mapM f = .ok results := by
  simp only [mapM_eq_ok_iff]
  exact exists_forall₂ h

theorem mapM_eq_ok_map {f : α → Except ε β} {g : α → β} {items : List α}
    (h : ∀ a ∈ items, f a = .ok (g a)) : items.mapM f = .ok (items.map g) := by
  rw [mapM_eq_ok_iff]
  induction items with
  | nil => exact .nil
  | cons a rest ih =>
    exact .cons (h a List.mem_cons_self) (ih fun b hb => h b (List.mem_cons_of_mem _ hb))

theorem exists_of_mem_forall₂ {R : α → β → Prop} {as : List α} {bs : List β}
    (h : List.Forall₂ R as bs) {b : β} (hb : b ∈ bs) : ∃ a ∈ as, R a b := by
  induction h with
  | nil => simp at hb
  | cons hab _ ih =>
    rcases List.mem_cons.1 hb with rfl | hb
    · exact ⟨_, List.mem_cons_self, hab⟩
    · obtain ⟨a, ha, hr⟩ := ih hb
      exact ⟨a, List.mem_cons_of_mem _ ha, hr⟩

theorem exists_getElem?_of_forall₂ {R : α → β → Prop} {as : List α} {bs : List β}
    (h : List.Forall₂ R as bs) {i : Nat} {a : α} (ha : as[i]? = some a) :
    ∃ b, bs[i]? = some b ∧ R a b := by
  induction h generalizing i with
  | nil => cases ha
  | cons hab _ ih =>
    cases i with
    | zero =>
      cases ha
      exact ⟨_, rfl, hab⟩
    | succ i => exact ih ha

end Except

namespace Checked
variable {α β : Type}

theorem result_eq_ok_iff {model : Text} {x : Checked α} {a : α} :
    x.result model = .ok a ↔ x = .ok a := by
  cases x <;> simp [result]

theorem map_eq_ok_iff {f : α → β} {x : Checked α} {b : β} :
    f <$> x = .ok b ↔ ∃ a, x = .ok a ∧ f a = b := by
  change map f x = .ok b ↔ _
  cases x <;> simp [map]

theorem seq_eq_ok_iff {f : Checked (α → β)} {x : Checked α} {b : β} :
    f <*> x = .ok b ↔ ∃ g a, f = .ok g ∧ x = .ok a ∧ g a = b := by
  change apply f (fun _ => x) = .ok b ↔ _
  cases f <;> cases x <;> simp [apply]

theorem map_eq_ok {f : α → β} {x : Checked α} {a : α} (hx : x = .ok a) : f <$> x = .ok (f a) :=
  map_eq_ok_iff.2 ⟨a, hx, rfl⟩

theorem seq_eq_ok {f : Checked (α → β)} {x : Checked α} {g : α → β} {a : α} (hf : f = .ok g)
    (hx : x = .ok a) : f <*> x = .ok (g a) :=
  seq_eq_ok_iff.2 ⟨g, a, hf, hx, rfl⟩

theorem pure_eq_ok_iff {a b : α} : (pure a : Checked α) = .ok b ↔ a = b := by
  change Checked.ok a = .ok b ↔ _
  simp

theorem under_eq_ok_iff {step : Step} {x : Checked α} {a : α} :
    x.under step = .ok a ↔ x = .ok a := by
  cases x <;> simp [under]

theorem andThen_eq_ok_iff {x : Checked α} {f : α → Checked β} {b : β} :
    x.andThen f = .ok b ↔ ∃ a, x = .ok a ∧ f a = .ok b := by
  cases x <;> simp [andThen]

theorem refuse_ne_ok {issue : Issue} {input : Json} {a : α} : refuse issue input ≠ .ok a := nofun

theorem ofFault_ne_ok {fault : Fault} {input : Json} {a : α} : ofFault fault input ≠ .ok a := by
  cases fault <;> simp [ofFault, refuse]

theorem eachFrom_eq_ok_iff {check : α → Checked β} {index : Nat} {items : List α}
    {results : List β} :
    eachFrom check index items = .ok results ↔
      List.Forall₂ (fun a b => check a = .ok b) items results := by
  induction items generalizing index results with
  | nil => simp [eachFrom, eq_comm]
  | cons a rest ih =>
    rw [eachFrom, seq_eq_ok_iff, List.forall₂_cons_left_iff]
    constructor
    · rintro ⟨g, bs, hg, hbs, rfl⟩
      obtain ⟨b, hb, rfl⟩ := map_eq_ok_iff.1 hg
      exact ⟨b, bs, under_eq_ok_iff.1 hb, ih.1 hbs, rfl⟩
    · rintro ⟨b, bs, hb, hbs, rfl⟩
      exact ⟨List.cons b, bs, map_eq_ok_iff.2 ⟨b, under_eq_ok_iff.2 hb, rfl⟩, ih.2 hbs, rfl⟩

theorem exists_of_mem_each {check : α → Checked β} {items : List α} {results : List β}
    (h : each check items = .ok results) {b : β} (hb : b ∈ results) :
    ∃ a ∈ items, check a = .ok b :=
  exists_of_mem_forall₂ (eachFrom_eq_ok_iff.1 h) hb

theorem each_map {check : β → Checked α} {write : α → β} {items : List α}
    (h : ∀ a ∈ items, check (write a) = .ok a) : each check (items.map write) = .ok items := by
  rw [each, eachFrom_eq_ok_iff, List.forall₂_map_left_iff, List.forall₂_same]
  exact h

end Checked

namespace Json
variable {α : Type}

theorem checkModel_eq_ok {model : Text} {check : List (Text × Json) → Checked α} {value : Json}
    {a : α} (h : value.checkModel model check = .ok a) : ∃ members, check members = .ok a := by
  cases value with
  | obj members => exact ⟨members, h⟩
  | _ => exact absurd h Checked.refuse_ne_ok

theorem checkMember_eq_ok_of_lookup {members : List (Text × Json)} {key : Text} {value : Json}
    {check : Json → Checked α} {a : α} (h : members.lookup key = some value)
    (hvalue : check value = .ok a) : checkMember members key check = .ok a := by
  rw [checkMember, h, Checked.under_eq_ok_iff]
  exact hvalue

theorem checkMemberOr_eq_ok_of_lookup {absent : α} {members : List (Text × Json)} {key : Text}
    {value : Json} {check : Json → Checked α} {a : α} (h : members.lookup key = some value)
    (hvalue : check value = .ok a) : checkMemberOr absent members key check = .ok a := by
  rw [checkMemberOr, h]
  exact Checked.under_eq_ok_iff.2 hvalue

theorem checkMember_eq_ok {members : List (Text × Json)} {key : Text} {check : Json → Checked α}
    {a : α} (h : checkMember members key check = .ok a) : ∃ value, check value = .ok a := by
  rw [checkMember, Checked.under_eq_ok_iff] at h
  split at h
  · exact ⟨_, h⟩
  · exact absurd h Checked.refuse_ne_ok

theorem checkMemberOr_eq_ok {absent : α} {members : List (Text × Json)} {key : Text}
    {check : Json → Checked α} {a : α} (h : checkMemberOr absent members key check = .ok a) :
    a = absent ∨ ∃ value, check value = .ok a := by
  rw [checkMemberOr] at h
  split at h
  · exact .inr ⟨_, Checked.under_eq_ok_iff.1 h⟩
  · cases h
    exact .inl rfl

theorem checkList_eq_ok {check : Json → Checked α} {value : Json} {items : List α}
    (h : value.checkList check = .ok items) {a : α} (ha : a ∈ items) :
    ∃ item, check item = .ok a := by
  cases value with
  | arr values =>
    obtain ⟨item, -, hitem⟩ := Checked.exists_of_mem_each h ha
    exact ⟨item, hitem⟩
  | _ => exact absurd h Checked.refuse_ne_ok

theorem checkTuple_eq_ok {check : Json → Checked α} {value : Json} {items : List α}
    (h : value.checkTuple check = .ok items) {a : α} (ha : a ∈ items) :
    ∃ item, check item = .ok a := by
  cases value with
  | arr values =>
    obtain ⟨item, -, hitem⟩ := Checked.exists_of_mem_each h ha
    exact ⟨item, hitem⟩
  | _ => exact absurd h Checked.refuse_ne_ok

theorem exists_of_mem_listOr {check : Json → Checked α} {members : List (Text × Json)} {key : Text}
    {items : List α} (h : checkMemberOr [] members key (checkList check) = .ok items) {a : α}
    (ha : a ∈ items) : ∃ item, check item = .ok a := by
  rcases checkMemberOr_eq_ok h with rfl | ⟨value, hvalue⟩
  · cases ha
  · exact checkList_eq_ok hvalue ha

theorem exists_of_mem_tupleOr {check : Json → Checked α} {members : List (Text × Json)}
    {key : Text} {items : List α}
    (h : checkMemberOr [] members key (checkTuple check) = .ok items) {a : α} (ha : a ∈ items) :
    ∃ item, check item = .ok a := by
  rcases checkMemberOr_eq_ok h with rfl | ⟨value, hvalue⟩
  · cases ha
  · exact checkTuple_eq_ok hvalue ha

section Written

variable {check : Json → Checked α} {toJson : α → Json} {items : List α}
  (h : ∀ a ∈ items, check (toJson a) = .ok a)
include h

theorem checkList_map : checkList check (.arr (items.map toJson)) = .ok items :=
  Checked.each_map h

theorem checkTuple_map : checkTuple check (.arr (items.map toJson)) = .ok items :=
  Checked.each_map h

end Written

theorem checkNonEmpty_eq_ok_iff {s t : Text} :
    checkNonEmpty s = .ok t ↔ s.isTorn = false ∧ s ≠ [] ∧ t = s := by
  rw [checkNonEmpty]
  split_ifs with htorn hempty
  · simp [htorn, Checked.refuse]
  · have hnil : s = [] := hempty
    simp [hnil, Checked.refuse]
  · have hnil : s ≠ [] := hempty
    simp [htorn, hnil, eq_comm]

end Json
end ApiStubs
