import ApiStubs.Documented.Store
import ApiStubs.Proofs.Validation.Checked

/-! Pages of which sections may have been read already. What was read before never shows: every
question is answered as by a fresh page with the same data. -/

namespace ApiStubs

namespace Page

def fresh (p : Page) : Page := ofData p.name p.data

structure Sound (p : Page) : Prop where
  fields : ∀ kept, p.keptFields = some kept → readFields p.data = .ok kept
  methods : ∀ kept, p.keptMethods = some kept → readMethods p.data = .ok kept

/-- Pages as they come about: made of data, and then asked. -/
inductive Opened : Page → Prop
  | ofData (name : Text) (data : List (Text × Json)) : Opened (.ofData name data)
  | field {p : Page} (h : Opened p) (name : Text) : Opened (p.field? name).2
  | methods {p : Page} (h : Opened p) (name : Text) : Opened (p.methodsNamed name).2

/-- A question to which it does not matter how much of a page was read before. -/
structure Steady {α : Type} (question : Page → Except DetailFault α × Page) : Prop where
  answer : ∀ p, p.Sound → (question p).1 = (question p.fresh).1
  sound : ∀ p, p.Sound → (question p).2.Sound
  fresh : ∀ p, p.Sound → (question p).2.fresh = p.fresh

theorem sound_ofData (name : Text) (data : List (Text × Json)) : (ofData name data).Sound :=
  ⟨nofun, nofun⟩

theorem fresh_fresh (p : Page) : p.fresh.fresh = p.fresh := rfl

theorem sound_fresh (p : Page) : p.fresh.Sound := sound_ofData p.name p.data

theorem steady_fields : Steady fields where
  answer p h := by
    cases hkept : p.keptFields with
    | none =>
      simp only [fields, hkept, fresh, ofData]
      split <;> rfl
    | some kept => simp only [fields, hkept, fresh, ofData, h.fields kept hkept]
  sound p h := by
    cases hkept : p.keptFields with
    | none =>
      simp only [fields, hkept]
      split
      · rename_i read hread
        exact ⟨fun kept hsome => Option.some.inj hsome ▸ hread, h.methods⟩
      · exact h
    | some kept => simpa only [fields, hkept] using h
  fresh p _ := by
    simp only [fields]
    split
    · rfl
    · split <;> rfl

theorem steady_methods : Steady methods where
  answer p h := by
    cases hkept : p.keptMethods with
    | none =>
      simp only [methods, hkept, fresh, ofData]
      split <;> rfl
    | some kept => simp only [methods, hkept, fresh, ofData, h.methods kept hkept]
  sound p h := by
    cases hkept : p.keptMethods with
    | none =>
      simp only [methods, hkept]
      split
      · rename_i read hread
        exact ⟨h.fields, fun kept hsome => Option.some.inj hsome ▸ hread⟩
      · exact h
    | some kept => simpa only [methods, hkept] using h
  fresh p _ := by
    simp only [methods]
    split
    · rfl
    · split <;> rfl

theorem Steady.map {α β : Type} {question : Page → Except DetailFault α × Page}
    (h : Steady question) (f : α → β) :
    Steady fun p => ((question p).1.map f, (question p).2) where
  answer p hp := congrArg (Except.map f) (h.answer p hp)
  sound := h.sound
  fresh := h.fresh

theorem answer_field? (p : Page) (name : Text) :
    (p.field? name).1 = p.fields.1.map fun found => found.find? (·.name == name) := rfl

theorem answer_methodsNamed (p : Page) (name : Text) :
    (p.methodsNamed name).1 = p.methods.1.map fun found => found.filter (·.name == name) := rfl

theorem steady_field? (name : Text) : Steady fun p => p.field? name :=
  Steady.map (β := Option Field) steady_fields fun found => found.find? (·.name == name)

theorem steady_methodsNamed (name : Text) : Steady fun p => p.methodsNamed name :=
  Steady.map (β := List Method) steady_methods fun found => found.filter (·.name == name)

theorem Opened.sound {p : Page} (h : Opened p) : p.Sound := by
  induction h with
  | ofData name data => exact sound_ofData name data
  | field _ name ih => exact (steady_field? name).sound _ ih
  | methods _ name ih => exact (steady_methodsNamed name).sound _ ih

end Page

namespace Lookup

def fresh : Lookup → Lookup
  | .found page => .found page.fresh
  | .missing reason => .missing reason

def Sound : Lookup → Prop
  | .found page => page.Sound
  | .missing _ => True

theorem fresh_fresh (l : Lookup) : l.fresh.fresh = l.fresh := by
  cases l <;> rfl

theorem sound_fresh (l : Lookup) : l.fresh.Sound := by
  cases l with
  | found page => exact page.sound_fresh
  | missing reason => trivial

def isFound : Lookup → Bool
  | .found _ => true
  | .missing _ => false

/-- Nothing is read but what is on the page `source`, of which more or less may have been read. -/
structure Shows (source l : Lookup) : Prop where
  sound : l.Sound
  same : l.fresh = source

theorem Sound.shows {l : Lookup} (h : l.Sound) : l.fresh.Shows l := ⟨h, rfl⟩

theorem Shows.refl {source : Lookup} (h : source.fresh = source) : source.Shows source :=
  ⟨h ▸ sound_fresh source, h⟩

end Lookup
end ApiStubs
