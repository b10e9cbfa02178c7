import ApiStubs.Proofs.Documented.Loading
import ApiStubs.Proofs.Files.Tree

/-! Stores of pages. A store goes on answering as it did at first, so that it never matters who asked
before or how much of a page was read. -/

namespace ApiStubs

namespace Lookup

def Opened : Lookup → Prop
  | .found page => page.Opened
  | .missing _ => True

theorem Opened.sound {l : Lookup} (h : l.Opened) : l.Sound := by
  cases l with
  | found page => exact Page.Opened.sound h
  | missing reason => trivial

end Lookup

namespace PageStore

variable {files : FileTree} {pagePath : Text} {s s₀ : PageStore}

def Opened (s : PageStore) : Prop := ∀ entry ∈ s.shelf, entry.2.lookup.Opened

def Sound (s : PageStore) : Prop :=
  ∀ pagePath shelved, s.kept? pagePath = some shelved → shelved.lookup.Sound

theorem opened_ofRoot (root : Path) : (ofRoot root).Opened := nofun

theorem Opened.sound (h : s.Opened) : s.Sound := by
  intro pagePath shelved hkept
  have hmem : (pagePath, shelved) ∈ s.shelf := mem_of_lookup hkept
  exact (h _ hmem).sound

theorem kept?_keep (s : PageStore) (pagePath other : Text) (shelved : Shelved) :
    (s.keep pagePath shelved).kept? other =
      if other = pagePath then some shelved else s.kept? other := by
  rw [kept?, keep, List.lookup_cons, kept?]
  by_cases h : other = pagePath
  · simp [h]
  · rw [if_neg h, beq_eq_false_iff_ne.2 h]
    exact lookup_filter_ne h

theorem Sound.keep (h : s.Sound) {shelved : Shelved} (hsound : shelved.lookup.Sound) :
    (s.keep pagePath shelved).Sound := by
  intro other kept hkept
  rw [kept?_keep] at hkept
  split_ifs at hkept
  · exact Option.some.inj hkept ▸ hsound
  · exact h other kept hkept

theorem Sound.update (h : s.Sound) {shelved : Shelved} (hsound : shelved.lookup.Sound) :
    (s.update pagePath shelved).Sound := by
  rw [PageStore.update]
  split
  · split_ifs
    · exact h.keep hsound
    · exact h
  · exact h

theorem root_update (s : PageStore) (pagePath : Text) (shelved : Shelved) :
    (s.update pagePath shelved).root = s.root := by
  rw [update]
  split
  · split_ifs <;> rfl
  · rfl

variable [Json.DepthLimit]

theorem root_fetch (files : FileTree) (pagePath : Text) (s : PageStore) :
    (s.fetch files pagePath).2.root = s.root := by
  rw [fetch]
  split
  · rfl
  · split <;> rfl

def answer (files : FileTree) (s : PageStore) (pagePath : Text) : Except PageFault Lookup :=
  match s.kept? pagePath with
  | some shelved => .ok shelved.lookup.fresh
  | none => load files s.root pagePath

theorem answer_of_kept {shelved : Shelved} (h : s.kept? pagePath = some shelved) :
    s.answer files pagePath = .ok shelved.lookup.fresh := by
  rw [answer, h]

theorem answer_of_not_kept (h : s.kept? pagePath = none) :
    s.answer files pagePath = load files s.root pagePath := by
  rw [answer, h]

theorem fresh_of_answer {l : Lookup} (h : s.answer files pagePath = .ok l) : l.fresh = l := by
  rw [answer] at h
  split at h
  · cases h
    exact Lookup.fresh_fresh _
  · exact fresh_of_load h

/-- Nobody who asks `s` is answered otherwise than by `s₀`. -/
structure AnswersAs (files : FileTree) (s₀ s : PageStore) : Prop where
  root : s.root = s₀.root
  sound : s.Sound
  same : ∀ pagePath, s.answer files pagePath = s₀.answer files pagePath

theorem AnswersAs.refl (h : s.Sound) : AnswersAs files s s := ⟨rfl, h, fun _ => rfl⟩

theorem AnswersAs.number (h : AnswersAs files s₀ s) (l : Lookup) :
    AnswersAs files s₀ (s.number l).2 := ⟨h.root, h.sound, h.same⟩

theorem AnswersAs.keep (h : AnswersAs files s₀ s) {shelved : Shelved}
    (hsound : shelved.lookup.Sound)
    (hanswer : s₀.answer files pagePath = .ok shelved.lookup.fresh) :
    AnswersAs files s₀ (s.keep pagePath shelved) := by
  refine ⟨h.root, h.sound.keep hsound, fun other => ?_⟩
  by_cases hother : other = pagePath
  · rw [answer_of_kept (by rw [kept?_keep, if_pos hother]), hother, hanswer]
  · rw [← h.same other, answer, answer, kept?_keep, if_neg hother]
    rfl

theorem AnswersAs.update (h : AnswersAs files s₀ s) {shelved : Shelved}
    (hsound : shelved.lookup.Sound)
    (hanswer : s₀.answer files pagePath = .ok shelved.lookup.fresh) :
    AnswersAs files s₀ (s.update pagePath shelved) := by
  rw [PageStore.update]
  split
  · split_ifs
    · exact h.keep hsound hanswer
    · exact h
  · exact h

theorem AnswersAs.fetch (h : AnswersAs files s₀ s) (pagePath : Text) :
    AnswersAs files s₀ (s.fetch files pagePath).2 ∧
      ((s.fetch files pagePath).1.map fun shelved => shelved.lookup.fresh) =
        s₀.answer files pagePath ∧
      ∀ shelved, (s.fetch files pagePath).1 = .ok shelved → shelved.lookup.Sound := by
  rw [← h.same pagePath]
  cases hkept : s.kept? pagePath with
  | some shelved =>
    rw [answer_of_kept hkept, PageStore.fetch, hkept]
    exact ⟨h, rfl, fun _ heq => Except.ok.inj heq ▸ h.sound pagePath shelved hkept⟩
  | none =>
    rw [answer_of_not_kept hkept, PageStore.fetch, hkept]
    cases hload : load files s.root pagePath with
    | error fault => exact ⟨h, rfl, nofun⟩
    | ok l =>
      have hfresh := fresh_of_load hload
      have hsound : l.Sound := hfresh ▸ l.sound_fresh
      have hanswer : s₀.answer files pagePath = .ok l.fresh := by
        rw [← h.same, answer_of_not_kept hkept, hload, hfresh]
      refine ⟨(h.number l).keep hsound hanswer, congrArg Except.ok hfresh, ?_⟩
      rintro shelved heq
      cases heq
      exact hsound

end PageStore
end ApiStubs
