import ApiStubs.CommandLine.Run

/-! Steps of a command, by what they do to the files: those that only read leave them as they are,
whatever they show and however they stop. -/

namespace ApiStubs.CommandLine

variable {α β : Type} {files : FileTree} {P P' : Stop → Prop} {Q : α → Prop} {R : β → Prop}
  {x : Doing α} {w w' : World}

theorem bind_run (x : Doing α) (f : α → Doing β) (w : World) :
    (x >>= f).run w =
      match x.run w with
      | (.ok a, w') => (f a).run w'
      | (.error stop, w') => (.error stop, w') := by
  unfold ExceptT.run
  simp only [bind, ExceptT.bind, ExceptT.mk, StateT.bind]
  rcases x w with ⟨stop | a, w'⟩ <;> rfl

theorem bind_run_ok {a : α} (f : α → Doing β) (h : x.run w = (.ok a, w')) :
    (x >>= f).run w = (f a).run w' := by
  rw [bind_run, h]

theorem bind_run_error {stop : Stop} (f : α → Doing β) (h : x.run w = (.error stop, w')) :
    (x >>= f).run w = (.error stop, w') := by
  rw [bind_run, h]

theorem get_run (w : World) : (MonadState.get : Doing World).run w = (.ok w, w) := rfl

theorem modify_run (change : World → World) (w : World) :
    (modify change : Doing Unit).run w = (.ok (), change w) := rfl

theorem orCrash_ok_run {ε : Type} (crash : ε → Crash) (a : α) (w : World) :
    (orCrash crash (.ok a)).run w = (.ok a, w) := rfl

/-- The step leaves these files as they are. It comes to what `Q` holds of, or stops as `P` says. -/
def Reads (files : FileTree) (P : Stop → Prop) (Q : α → Prop) (x : Doing α) : Prop :=
  ∀ screen, ∃ screen',
    (∃ a, x.run ⟨screen, files⟩ = (.ok a, ⟨screen', files⟩) ∧ Q a) ∨
      ∃ stop, x.run ⟨screen, files⟩ = (.error stop, ⟨screen', files⟩) ∧ P stop

namespace Reads

theorem pure {a : α} (h : Q a) : Reads files P Q (Pure.pure a) :=
  fun screen => ⟨screen, .inl ⟨a, rfl, h⟩⟩

theorem throw {stop : Stop} (h : P stop) : Reads files P Q (MonadExcept.throw stop) :=
  fun screen => ⟨screen, .inr ⟨stop, rfl, h⟩⟩

theorem get : Reads files P (fun w : World => w.files = files) MonadState.get :=
  fun screen => ⟨screen, .inl ⟨⟨screen, files⟩, rfl, rfl⟩⟩

theorem modify {change : World → World} (h : ∀ w, (change w).files = w.files) :
    Reads files P (fun _ => True) (modify change : Doing Unit) := by
  intro screen
  have hfiles : (change ⟨screen, files⟩).files = files := h ⟨screen, files⟩
  exact ⟨(change ⟨screen, files⟩).screen, .inl ⟨(), congrArg (Prod.mk (Except.ok ()))
    (congrArg (World.mk (change ⟨screen, files⟩).screen) hfiles), trivial⟩⟩

theorem bind {f : α → Doing β} (hx : Reads files P Q x) (hf : ∀ a, Q a → Reads files P R (f a)) :
    Reads files P R (x >>= f) := by
  intro screen
  obtain ⟨screen', ⟨a, hrun, ha⟩ | ⟨stop, hrun, hstop⟩⟩ := hx screen
  · obtain ⟨screen'', hrest⟩ := hf a ha screen'
    rw [bind_run_ok f hrun]
    exact ⟨screen'', hrest⟩
  · exact ⟨screen', .inr ⟨stop, bind_run_error f hrun, hstop⟩⟩

theorem mono (h : Reads files P Q x) {Q' : α → Prop} (hP : ∀ stop, P stop → P' stop)
    (hQ : ∀ a, Q a → Q' a) : Reads files P' Q' x := fun screen =>
  (h screen).imp fun _ hend => hend.imp (fun ⟨a, hrun, ha⟩ => ⟨a, hrun, hQ a ha⟩)
    fun ⟨stop, hrun, hstop⟩ => ⟨stop, hrun, hP stop hstop⟩

theorem orStop {ε : Type} {stop : ε → Stop} {result : Except ε α}
    (hstop : ∀ e, result = .error e → P (stop e)) (hok : ∀ a, result = .ok a → Q a) :
    Reads files P Q (orStop stop result) := by
  cases result with
  | ok a => exact .pure (hok a rfl)
  | error e => exact .throw (hstop e rfl)

end Reads

/-- The step leaves these files as they are until it stops as `P` says, or until what is left of it
is one of the steps that `S` holds of. -/
def GoesOn (files : FileTree) (P : Stop → Prop) (S : Doing β → Prop) (x : Doing β) : Prop :=
  ∀ screen, ∃ screen',
    (∃ y, x.run ⟨screen, files⟩ = y.run ⟨screen', files⟩ ∧ S y) ∨
      ∃ stop, x.run ⟨screen, files⟩ = (.error stop, ⟨screen', files⟩) ∧ P stop

namespace GoesOn

variable {S : Doing β → Prop}

theorem start {y : Doing β} (h : S y) : GoesOn files P S y := fun screen =>
  ⟨screen, .inl ⟨y, rfl, h⟩⟩

theorem bind {f : α → Doing β} (hx : Reads files P Q x) (hf : ∀ a, Q a → GoesOn files P S (f a)) :
    GoesOn files P S (x >>= f) := by
  intro screen
  obtain ⟨screen', ⟨a, hrun, ha⟩ | ⟨stop, hrun, hstop⟩⟩ := hx screen
  · rw [bind_run_ok f hrun]
    exact hf a ha screen'
  · exact ⟨screen', .inr ⟨stop, bind_run_error f hrun, hstop⟩⟩

end GoesOn

def Stop.IsCrash (stop : Stop) : Prop := ∃ cause, stop = .crashed cause

theorem reads_orCrash {ε : Type} {crash : ε → Crash} (result : Except ε α) :
    Reads files Stop.IsCrash (fun a => result = .ok a) (orCrash crash result) :=
  .orStop (fun e _ => ⟨crash e, rfl⟩) fun _ h => h

def Crash.isConsole : Crash → Bool
  | .markup _ | .unprintable _ => true
  | _ => false

def Stop.IsConsole (stop : Stop) : Prop := ∃ cause, stop = .crashed cause ∧ cause.isConsole = true

theorem Reads.isCrash {Q : α → Prop} (h : Reads files Stop.IsConsole Q x) :
    Reads files Stop.IsCrash Q x :=
  h.mono (fun _ ⟨cause, hcause, _⟩ => ⟨cause, hcause⟩) fun _ => id

theorem encodable_run (lines : List Text) (w : World) :
    (encodable lines).run w = (.ok (), w) ∨
      ∃ fault, (encodable lines).run w = (.error (.crashed (.unprintable fault)), w) := by
  rw [encodable]
  cases Utf8.encode lines.flatten with
  | ok octets => exact .inl rfl
  | error fault => exact .inr ⟨fault, rfl⟩

theorem print_run (markup : Text) (w : World) :
    (∃ lines, Screen.textLines markup = .ok lines ∧ (print markup).run w = (.ok (),
      { w with screen := { w.screen with
        lines := w.screen.lines ++ lines.filter fun line => !line.isEmpty } })) ∨
    ∃ cause, cause.isConsole = true ∧ (print markup).run w = (.error (.crashed cause), w) := by
  rw [print]
  cases Screen.textLines markup with
  | error fault => exact .inr ⟨.markup fault, rfl, rfl⟩
  | ok lines =>
    rw [bind_run_ok _ (orCrash_ok_run _ lines w)]
    rcases encodable_run lines w with hrun | ⟨fault, hrun⟩
    · rw [bind_run_ok _ hrun]
      exact .inl ⟨lines, rfl, rfl⟩
    · rw [bind_run_error _ hrun]
      exact .inr ⟨.unprintable fault, rfl, rfl⟩

theorem printPanel_run (markup : Text) (w : World) :
    (∃ panel, (printPanel markup).run w =
      (.ok (), { w with screen := { w.screen with panel := panel } })) ∨
    ∃ cause, cause.isConsole = true ∧ (printPanel markup).run w = (.error (.crashed cause), w) := by
  rw [printPanel]
  cases Screen.panelLines markup with
  | error fault => exact .inr ⟨.markup fault, rfl, rfl⟩
  | ok lines =>
    rw [bind_run_ok _ (orCrash_ok_run _ lines w)]
    rcases encodable_run lines w with hrun | ⟨fault, hrun⟩
    · rw [bind_run_ok _ hrun]
      exact .inl ⟨lines, rfl⟩
    · rw [bind_run_error _ hrun]
      exact .inr ⟨.unprintable fault, rfl, rfl⟩

theorem reads_print (markup : Text) :
    Reads files Stop.IsConsole (fun _ => True) (print markup) := by
  intro screen
  rcases print_run markup ⟨screen, files⟩ with ⟨lines, -, hrun⟩ | ⟨cause, hcause, hrun⟩
  · exact ⟨_, .inl ⟨(), hrun, trivial⟩⟩
  · exact ⟨_, .inr ⟨_, hrun, cause, rfl, hcause⟩⟩

theorem reads_printPanel (markup : Text) :
    Reads files Stop.IsConsole (fun _ => True) (printPanel markup) := by
  intro screen
  rcases printPanel_run markup ⟨screen, files⟩ with ⟨panel, hrun⟩ | ⟨cause, hcause, hrun⟩
  · exact ⟨_, .inl ⟨(), hrun, trivial⟩⟩
  · exact ⟨_, .inr ⟨_, hrun, cause, rfl, hcause⟩⟩

theorem reads_showResult (path : Path) (r : Compilation) (reports : List Diagnostic) :
    Reads files Stop.IsConsole (fun _ => True) (showResult path r reports) := by
  refine .bind (.modify fun _ => rfl) fun _ _ => ?_
  dsimp only
  split
  · exact .bind (reads_print _) fun _ _ => reads_print _
  · exact reads_print _

end ApiStubs.CommandLine
