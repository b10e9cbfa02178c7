import ApiStubs.Merge.Basic
import ApiStubs.Proofs.Documented.Page
import ApiStubs.Proofs.Traced

/-! Merging over one page. How much of the page was read before never shows in what merging gives or
reports, and nothing stops it but a section that cannot be read. -/

namespace ApiStubs.Merging

variable {α β : Type} {source : Lookup} {P : α → Prop} {Q : β → Prop}

/-- However much of the page was read before, the work comes to this. -/
def RunsTo (source : Lookup) (result : Except MergeFault α) (reports : List Diagnostic)
    (x : Merging α) : Prop :=
  ∀ l, source.Shows l → ∃ l', source.Shows l' ∧ x.run l = ⟨result, reports, l'⟩

namespace RunsTo

theorem result_eq {result : Except MergeFault α} {reports : List Diagnostic} {x : Merging α}
    {l : Lookup} (h : RunsTo source result reports x) (hl : source.Shows l) :
    (x.run l).result = result := by
  obtain ⟨l', -, hrun⟩ := h l hl
  rw [hrun]

theorem pure (a : α) : RunsTo source (.ok a) [] (Pure.pure a) := fun l hl => ⟨l, hl, rfl⟩

theorem report (d : Diagnostic) : RunsTo source (.ok ()) [d] (Traced.report d) :=
  fun l hl => ⟨l, hl, rfl⟩

theorem made {x : Except Fault α} {a : α} (h : x = .ok a) :
    RunsTo source (.ok a) [] (Merging.made x) := by
  rw [h]
  exact .pure a

theorem bind {x : Merging α} {f : α → Merging β} {a : α} {result : Except MergeFault β}
    {reports more : List Diagnostic} (hx : RunsTo source (.ok a) reports x)
    (hf : RunsTo source result more (f a)) : RunsTo source result (reports ++ more) (x >>= f) := by
  intro l hl
  obtain ⟨l', hl', hrun⟩ := hx l hl
  obtain ⟨l'', hl'', hrun'⟩ := hf l' hl'
  refine ⟨l'', hl'', ?_⟩
  rw [Traced.bind_run_ok f hrun, hrun']

theorem bind_error {x : Merging α} {f : α → Merging β} {fault : MergeFault}
    {reports : List Diagnostic} (hx : RunsTo source (.error fault) reports x) :
    RunsTo source (.error fault) reports (x >>= f) := by
  intro l hl
  obtain ⟨l', hl', hrun⟩ := hx l hl
  exact ⟨l', hl', Traced.bind_run_error f hrun⟩

theorem ask_missing (reason : Text) (question : Page → Except DetailFault α × Page) :
    RunsTo (.missing reason) (.ok none) [] (Merging.ask question) := by
  rintro l hl
  refine ⟨l, hl, ?_⟩
  obtain ⟨-, hsame⟩ := hl
  cases l with
  | missing reason' => rfl
  | found page => cases hsame

theorem ask_found {question : Page → Except DetailFault α × Page} (h : Page.Steady question)
    (page : Page) :
    RunsTo (.found page) (((question page).1.map fun a => some (page.name, a)).mapError .detail) []
      (Merging.ask question) := by
  rintro l ⟨hsound, hsame⟩
  cases l with
  | missing reason => cases hsame
  | found p =>
    have hpage : p.fresh = page := Lookup.found.inj hsame
    refine ⟨.found (question p).2, ⟨h.sound p hsound, ?_⟩, ?_⟩
    · exact congrArg Lookup.found ((h.fresh p hsound).trans hpage)
    · have hname : page.name = p.name := by
        rw [← hpage]
        rfl
      rw [hname, ← hpage, ← h.answer p hsound]
      rfl

theorem ask_ok {question : Page → Except DetailFault α × Page} {page : Page} {a : α}
    (h : Page.Steady question) (ha : (question page).1 = .ok a) :
    RunsTo (.found page) (.ok (some (page.name, a))) [] (Merging.ask question) := by
  have hrun := ask_found h page
  rw [ha] at hrun
  exact hrun

theorem ask_error {question : Page → Except DetailFault α × Page} {page : Page}
    {fault : DetailFault} (h : Page.Steady question) (hfault : (question page).1 = .error fault) :
    RunsTo (.found page) (.error (.detail fault)) [] (Merging.ask question) := by
  have hrun := ask_found h page
  rw [hfault] at hrun
  exact hrun

end RunsTo

/-- Merging ends with something that `P` holds of, or at a section of a page. -/
inductive Settles (source : Lookup) (P : α → Prop) : Except MergeFault α → Prop
  | ok {a : α} (h : P a) : Settles source P (.ok a)
  | unreadable (fault : DetailFault) (h : source.isFound = true) :
      Settles source P (.error (.detail fault))

def Reads (source : Lookup) (P : α → Prop) (x : Merging α) : Prop :=
  ∃ result reports, Settles source P result ∧
    ∀ l, source.Shows l → ∃ l', source.Shows l' ∧ x.run l = ⟨result, reports, l'⟩

theorem Reads.pure {a : α} (h : P a) : Reads source P (Pure.pure a) :=
  ⟨.ok a, [], .ok h, RunsTo.pure a⟩

theorem Reads.bind {x : Merging α} {f : α → Merging β} (hx : Reads source P x)
    (hf : ∀ a, P a → Reads source Q (f a)) : Reads source Q (x >>= f) := by
  obtain ⟨result, reports, hsettles, hruns⟩ := hx
  cases hsettles with
  | unreadable fault hfound =>
    exact ⟨.error (.detail fault), reports, .unreadable fault hfound, RunsTo.bind_error hruns⟩
  | @ok a ha =>
    obtain ⟨result, more, hsettles, hrest⟩ := hf a ha
    exact ⟨result, reports ++ more, hsettles, RunsTo.bind hruns hrest⟩

theorem Reads.mono {x : Merging α} {P' : α → Prop} (hx : Reads source P x)
    (h : ∀ a, P a → P' a) : Reads source P' x := by
  obtain ⟨result, reports, hsettles, hruns⟩ := hx
  refine ⟨result, reports, ?_, hruns⟩
  cases hsettles with
  | ok ha => exact .ok (h _ ha)
  | unreadable fault hfound => exact .unreadable fault hfound

theorem Reads.of_ok {x : Merging α} {l : Lookup} {a : α} (hx : Reads source P x)
    (hl : source.Shows l) (hresult : (x.run l).result = .ok a) : P a := by
  obtain ⟨result, reports, hsettles, hruns⟩ := hx
  obtain ⟨l', -, hrun⟩ := hruns l hl
  rw [hrun] at hresult
  cases hsettles with
  | ok h => exact Except.ok.inj hresult ▸ h
  | unreadable fault hfound => cases hresult

theorem Reads.exists_ok {x : Merging α} {reason : Text} (hx : Reads (.missing reason) P x) :
    ∃ a, (x.run (.missing reason)).result = .ok a ∧ P a := by
  obtain ⟨result, reports, hsettles, hruns⟩ := hx
  obtain ⟨l', -, hrun⟩ := hruns (.missing reason) (.refl rfl)
  rw [hrun]
  cases hsettles with
  | ok h => exact ⟨_, rfl, h⟩
  | unreadable fault hfound => cases hfound

theorem Reads.report (d : Diagnostic) : Reads source (fun _ => True) (Traced.report d) :=
  ⟨.ok (), [d], .ok trivial, RunsTo.report d⟩

theorem Reads.made {x : Except Fault α} {a : α} (hx : x = .ok a) (h : P a) :
    Reads source P (Merging.made x) := ⟨.ok a, [], .ok h, RunsTo.made hx⟩

def Answers (question : Page → Except DetailFault α × Page) :
    Lookup → Option (Text × α) → Prop
  | .missing _, answer => answer = none
  | .found page, answer => ∃ a, (question page).1 = .ok a ∧ answer = some (page.name, a)

theorem Reads.ask {question : Page → Except DetailFault α × Page} (h : Page.Steady question) :
    Reads source (Answers question source) (Merging.ask question) := by
  cases source with
  | missing reason => exact ⟨.ok none, [], .ok rfl, RunsTo.ask_missing reason question⟩
  | found page =>
    refine ⟨_, [], ?_, RunsTo.ask_found h page⟩
    cases hanswer : (question page).1 with
    | ok a => exact .ok ⟨a, hanswer, rfl⟩
    | error fault => exact .unreadable fault rfl

end ApiStubs.Merging
