import ApiStubs.Proofs.Validation.Checked

/-! Checks of two values that come out alike: both accept, or both refuse in the same words. -/

namespace ApiStubs.Checked

variable {α β γ δ : Type} {R : α → β → Prop} {S : γ → δ → Prop} {x : Checked α} {y : Checked β}

inductive Alike (R : α → β → Prop) : Checked α → Checked β → Prop
  | ok {a : α} {b : β} : R a b → Alike R (.ok a) (.ok b)
  | faulty {complaints : List Complaint} : Alike R (.faulty complaints) (.faulty complaints)
  | stopped {fault : Fault} : Alike R (.stopped fault) (.stopped fault)

namespace Alike

theorem refl {R : α → α → Prop} (h : ∀ a, R a a) (x : Checked α) : Alike R x x := by
  cases x with
  | ok a => exact .ok (h a)
  | faulty complaints => exact .faulty
  | stopped fault => exact .stopped

theorem map (h : Alike R x y) {f : α → γ} {g : β → δ} (hfg : ∀ a b, R a b → S (f a) (g b)) :
    Alike S (f <$> x) (g <$> y) := by
  change Alike S (Checked.map f x) (Checked.map g y)
  cases h with
  | ok hab => exact .ok (hfg _ _ hab)
  | faulty => exact .faulty
  | stopped => exact .stopped

theorem seq {f : Checked (α → γ)} {g : Checked (β → δ)}
    (hfg : Alike (fun f g => ∀ a b, R a b → S (f a) (g b)) f g) (h : Alike R x y) :
    Alike S (f <*> x) (g <*> y) := by
  change Alike S (apply f fun _ => x) (apply g fun _ => y)
  cases hfg with
  | ok hfg => cases h with
    | ok hab => exact .ok (hfg _ _ hab)
    | faulty => exact .faulty
    | stopped => exact .stopped
  | faulty => cases h with
    | ok => exact .faulty
    | faulty => exact .faulty
    | stopped => exact .stopped
  | stopped => exact .stopped

theorem result (h : Alike R x y) (model : Text) :
    (∃ a b, x.result model = .ok a ∧ y.result model = .ok b ∧ R a b) ∨
      ∃ fault, x.result model = .error fault ∧ y.result model = .error fault := by
  cases h with
  | ok hab => exact .inl ⟨_, _, rfl, rfl, hab⟩
  | faulty => exact .inr ⟨_, rfl, rfl⟩
  | stopped => exact .inr ⟨_, rfl, rfl⟩

end Alike
end ApiStubs.Checked
