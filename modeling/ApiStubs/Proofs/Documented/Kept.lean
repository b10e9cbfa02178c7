import ApiStubs.Proofs.Documented.Section
import ApiStubs.Proofs.Documented.Store

/-! Stores of pages whose files change all the time. A page that was given out stays, however the
files change, and a fault is forgotten at once; who asks for one page never meddles with another. -/

namespace ApiStubs

/-- Faults pass, and the first success stands for everything after it. -/
def firstStays {ε α : Type} : List (Except ε α) → List (Except ε α)
  | [] => []
  | .error e :: rest => .error e :: firstStays rest
  | .ok a :: rest => .ok a :: rest.map fun _ => .ok a

namespace PageStore

variable {files : FileTree} {pagePath : Text} {s s' : PageStore} {shelved : Shelved}

structure Numbered (s : PageStore) : Prop where
  sound : s.Sound
  below : ∀ pagePath shelved, s.kept? pagePath = some shelved → shelved.serial < s.loads
  apart : ∀ p q a b, s.kept? p = some a → s.kept? q = some b → a.serial = b.serial → p = q

/-- Where `s` has a page, `s'` has the same one, of which more may have been read. -/
def Keeps (s s' : PageStore) : Prop :=
  ∀ pagePath shelved, s.kept? pagePath = some shelved → ∃ kept, s'.kept? pagePath = some kept ∧
    kept.serial = shelved.serial ∧ kept.lookup.fresh = shelved.lookup.fresh

theorem Keeps.refl (s : PageStore) : Keeps s s := fun _ shelved h => ⟨shelved, h, rfl, rfl⟩

theorem Keeps.trans {s'' : PageStore} (h : Keeps s s') (h' : Keeps s' s'') : Keeps s s'' := by
  intro pagePath shelved hkept
  obtain ⟨kept, hkept, hserial, hfresh⟩ := h pagePath shelved hkept
  obtain ⟨last, hlast, hserial', hfresh'⟩ := h' pagePath kept hkept
  exact ⟨last, hlast, hserial'.trans hserial, hfresh'.trans hfresh⟩

theorem numbered_ofRoot (root : Path) : (ofRoot root).Numbered :=
  ⟨nofun, nofun, nofun⟩

/-- What may happen to a store: a page is asked for, the files being what they are by then, or a
page that was given out is asked a question. -/
inductive Event
  | get (files : FileTree) (pagePath : Text)
  | ask (pagePath : Text) (question : Question)

section

variable [Json.DepthLimit]

def after (s : PageStore) : Event → PageStore
  | .get files pagePath => (s.fetch files pagePath).2
  | .ask pagePath question =>
      match s.kept? pagePath with
      | some ⟨serial, .found page⟩ => s.update pagePath ⟨serial, .found (page.ask question).2⟩
      | _ => s

def afterAll (s : PageStore) (events : List Event) : PageStore := events.foldl after s

def answers (s : PageStore) (pagePath : Text) : List Event → List (Except PageFault Shelved)
  | [] => []
  | .get files asked :: rest =>
      let later := (s.after (.get files asked)).answers pagePath rest
      if asked = pagePath then (s.fetch files asked).1 :: later else later
  | .ask asked question :: rest => (s.after (.ask asked question)).answers pagePath rest

def loadsOf (root : Path) (pagePath : Text) : List Event → List (Except PageFault Lookup)
  | [] => []
  | .get files asked :: rest =>
      let later := loadsOf root pagePath rest
      if asked = pagePath then load files root asked :: later else later
  | .ask _ _ :: rest => loadsOf root pagePath rest

theorem fetch_of_kept (h : s.kept? pagePath = some shelved) :
    s.fetch files pagePath = (.ok shelved, s) := by
  rw [fetch, h]

theorem fetch_of_load_error {fault : PageFault} (h : s.kept? pagePath = none)
    (hload : load files s.root pagePath = .error fault) :
    s.fetch files pagePath = (.error fault, s) := by
  rw [fetch, h, hload]

theorem fetch_of_load_ok {l : Lookup} (h : s.kept? pagePath = none)
    (hload : load files s.root pagePath = .ok l) :
    s.fetch files pagePath =
      (.ok ⟨s.loads, l⟩, { s with loads := s.loads + 1 }.keep pagePath ⟨s.loads, l⟩) := by
  rw [fetch, h, hload]
  rfl

theorem fetch_of_error {fault : PageFault} (h : (s.fetch files pagePath).1 = .error fault) :
    s.kept? pagePath = none ∧ (s.fetch files pagePath).2 = s := by
  cases hkept : s.kept? pagePath with
  | some shelved => rw [fetch_of_kept hkept] at h; cases h
  | none =>
    cases hload : load files s.root pagePath with
    | ok l => rw [fetch_of_load_ok hkept hload] at h; cases h
    | error fault' => exact ⟨rfl, by rw [fetch_of_load_error hkept hload]⟩

theorem kept?_of_fetch_ok (h : (s.fetch files pagePath).1 = .ok shelved) :
    (s.fetch files pagePath).2.kept? pagePath = some shelved := by
  cases hkept : s.kept? pagePath with
  | some kept =>
    rw [fetch_of_kept hkept] at h ⊢
    cases h
    exact hkept
  | none =>
    cases hload : load files s.root pagePath with
    | error fault => rw [fetch_of_load_error hkept hload] at h; cases h
    | ok l =>
      rw [fetch_of_load_ok hkept hload] at h ⊢
      cases h
      rw [kept?_keep, if_pos rfl]

/-- What an event can do to a store: nothing, put a page on the shelf that was not there, or read
more of one that was. -/
inductive Change (s : PageStore) : Event → PageStore → Prop
  | idle (event : Event) : Change s event s
  | shelve {files : FileTree} {pagePath : Text} {l : Lookup} (hnew : s.kept? pagePath = none)
      (hload : load files s.root pagePath = .ok l) :
      Change s (.get files pagePath)
        ({ s with loads := s.loads + 1 }.keep pagePath ⟨s.loads, l⟩)
  | read {pagePath : Text} {question : Question} {serial : Nat} {page : Page}
      (hkept : s.kept? pagePath = some ⟨serial, .found page⟩) :
      Change s (.ask pagePath question)
        (s.keep pagePath ⟨serial, .found (page.ask question).2⟩)

theorem change_after (s : PageStore) (event : Event) : Change s event (s.after event) := by
  cases event with
  | get files pagePath =>
    rw [after]
    cases hkept : s.kept? pagePath with
    | some shelved => rw [fetch_of_kept hkept]; exact .idle _
    | none =>
      cases hload : load files s.root pagePath with
      | error fault => rw [fetch_of_load_error hkept hload]; exact .idle _
      | ok l => rw [fetch_of_load_ok hkept hload]; exact .shelve hkept hload
  | ask pagePath question =>
    rw [after]
    split
    · rename_i serial page hkept
      rw [update, hkept]
      dsimp only
      rw [if_pos rfl]
      exact .read hkept
    · exact .idle _

variable {event : Event}

theorem Change.root_eq (h : Change s event s') : s'.root = s.root := by
  cases h <;> rfl

theorem Change.numbered (h : Change s event s') (hs : s.Numbered) : s'.Numbered := by
  cases h with
  | idle => exact hs
  | @shelve files pagePath l hnew hload =>
    have hfresh := fresh_of_load hload
    refine ⟨?_, fun other shelved hkept => ?_, fun p q a b ha hb hserial => ?_⟩
    · exact Sound.keep (s := { s with loads := s.loads + 1 }) hs.sound (hfresh ▸ l.sound_fresh)
    · rw [kept?_keep] at hkept
      split_ifs at hkept
      · cases hkept
        exact Nat.lt_succ_self _
      · exact Nat.lt_succ_of_lt (hs.below other shelved hkept)
    · -- the new serial number is above all that are on the shelf
      rw [kept?_keep] at ha hb
      split_ifs at ha hb with hp hq hq
      · exact hp.trans hq.symm
      · cases ha
        exact absurd (hserial ▸ hs.below q b hb) (Nat.lt_irrefl _)
      · cases hb
        exact absurd (hserial ▸ hs.below p a ha) (Nat.lt_irrefl _)
      · exact hs.apart p q a b ha hb hserial
  | @read pagePath question serial page hkept =>
    have hpage : page.Sound := hs.sound pagePath _ hkept
    -- the page that was read further has the number that it had before
    have hold : ∀ other shelved,
        (s.keep pagePath ⟨serial, .found (page.ask question).2⟩).kept? other = some shelved →
          ∃ old, s.kept? other = some old ∧ old.serial = shelved.serial := by
      intro other shelved hother
      rw [kept?_keep] at hother
      split_ifs at hother with heq
      · cases hother
        exact ⟨⟨serial, .found page⟩, heq ▸ hkept, rfl⟩
      · exact ⟨shelved, hother, rfl⟩
    refine ⟨?_, fun other shelved hother => ?_, fun p q a b ha hb hserial => ?_⟩
    · exact hs.sound.keep ((Page.steady_ask question).sound page hpage)
    · obtain ⟨old, hold, hserial⟩ := hold other shelved hother
      exact hserial ▸ hs.below other old hold
    · obtain ⟨a', ha', haserial⟩ := hold p a ha
      obtain ⟨b', hb', hbserial⟩ := hold q b hb
      exact hs.apart p q a' b' ha' hb' (haserial.trans (hserial.trans hbserial.symm))

theorem Change.keeps (h : Change s event s') (hs : s.Sound) : Keeps s s' := by
  intro other shelved hkept
  cases h with
  | idle => exact ⟨shelved, hkept, rfl, rfl⟩
  | @shelve files pagePath l hnew hload =>
    have hne : other ≠ pagePath := by
      rintro rfl
      rw [hnew] at hkept
      cases hkept
    exact ⟨shelved, by rwa [kept?_keep, if_neg hne], rfl, rfl⟩
  | @read pagePath question serial page hpage =>
    by_cases heq : other = pagePath
    · subst heq
      rw [hpage] at hkept
      cases hkept
      refine ⟨⟨serial, .found (page.ask question).2⟩, by rw [kept?_keep, if_pos rfl], rfl, ?_⟩
      exact congrArg Lookup.found ((Page.steady_ask question).fresh page (hs other _ hpage))
    · exact ⟨shelved, by rwa [kept?_keep, if_neg heq], rfl, rfl⟩

theorem Change.kept?_eq (h : Change s event s') (hkept : s.kept? pagePath = some shelved)
    (hask : ∀ question, event ≠ .ask pagePath question) : s'.kept? pagePath = some shelved := by
  cases h with
  | idle => exact hkept
  | @shelve files other l hnew hload =>
    have hne : pagePath ≠ other := by
      rintro rfl
      rw [hnew] at hkept
      cases hkept
    rwa [kept?_keep, if_neg hne]
  | @read other question serial page hpage =>
    have hne : pagePath ≠ other := by
      rintro rfl
      exact hask question rfl
    rwa [kept?_keep, if_neg hne]

theorem root_afterAll (events : List Event) : (s.afterAll events).root = s.root := by
  induction events generalizing s with
  | nil => rfl
  | cons event rest ih => exact ih.trans (change_after s event).root_eq

theorem Numbered.afterAll (h : s.Numbered) (events : List Event) :
    (s.afterAll events).Numbered := by
  induction events generalizing s with
  | nil => exact h
  | cons event rest ih => exact ih ((change_after s event).numbered h)

theorem Numbered.keeps_afterAll (h : s.Numbered) (events : List Event) :
    Keeps s (s.afterAll events) := by
  induction events generalizing s with
  | nil => exact .refl s
  | cons event rest ih =>
    have hchange := change_after s event
    exact (hchange.keeps h.sound).trans (ih (hchange.numbered h))

theorem kept?_afterAll {events : List Event} (hkept : s.kept? pagePath = some shelved)
    (hask : ∀ question, .ask pagePath question ∉ events) :
    (s.afterAll events).kept? pagePath = some shelved := by
  induction events generalizing s with
  | nil => exact hkept
  | cons event rest ih =>
    refine ih ((change_after s event).kept?_eq hkept fun question heq => ?_)
      fun question hmem => hask question (List.mem_cons_of_mem _ hmem)
    exact hask question (heq ▸ List.mem_cons_self)

/-- Whoever was given a page was given the one that is there in the end. -/
theorem kept?_of_mem_answers {events : List Event} (h : s.Numbered)
    (hmem : .ok shelved ∈ s.answers pagePath events) :
    ∃ kept, (s.afterAll events).kept? pagePath = some kept ∧ kept.serial = shelved.serial := by
  induction events generalizing s with
  | nil => cases hmem
  | cons event rest ih =>
    have hrest := ih ((change_after s event).numbered h)
    cases event with
    | ask asked question => exact hrest hmem
    | get files asked =>
      rw [answers] at hmem
      split_ifs at hmem with hasked
      · rcases List.mem_cons.1 hmem with hfetch | hmem
        · subst hasked
          have hkept := kept?_of_fetch_ok hfetch.symm
          have hnumbered : (s.fetch files asked).2.Numbered :=
            (change_after s (.get files asked)).numbered h
          obtain ⟨kept, hkept, hserial, -⟩ := hnumbered.keeps_afterAll rest asked shelved hkept
          exact ⟨kept, hkept, hserial⟩
        · exact hrest hmem
      · exact hrest hmem

theorem Change.kept?_eq_none (h : Change s event s') (hkept : s.kept? pagePath = none)
    (hget : ∀ files, event ≠ .get files pagePath) : s'.kept? pagePath = none := by
  cases h with
  | idle => exact hkept
  | @shelve files other l hnew hload =>
    have hne : pagePath ≠ other := by
      rintro rfl
      exact hget files rfl
    rwa [kept?_keep, if_neg hne]
  | @read other question serial page hpage =>
    have hne : pagePath ≠ other := by
      rintro rfl
      rw [hpage] at hkept
      cases hkept
    rwa [kept?_keep, if_neg hne]

def contents (answers : List (Except PageFault Shelved)) : List (Except PageFault Lookup) :=
  answers.map (Except.map fun shelved => shelved.lookup.fresh)

theorem contents_of_kept (events : List Event) (h : s.Numbered)
    (hkept : s.kept? pagePath = some shelved) :
    contents (s.answers pagePath events) =
      (loadsOf s.root pagePath events).map fun _ => .ok shelved.lookup.fresh := by
  induction events generalizing s shelved with
  | nil => rfl
  | cons event rest ih =>
    have hchange := change_after s event
    obtain ⟨kept, hafter, -, hfresh⟩ := hchange.keeps h.sound pagePath shelved hkept
    have hrest := ih (hchange.numbered h) hafter
    rw [hchange.root_eq, hfresh] at hrest
    cases event with
    | ask asked question => exact hrest
    | get files asked =>
      rw [answers, loadsOf]
      split_ifs with hasked
      · subst hasked
        rw [contents, List.map_cons, List.map_cons, fetch_of_kept hkept]
        exact congrArg _ hrest
      · exact hrest

/-- The first time that there was something to give, it was given for good. -/
theorem contents_of_not_kept {events : List Event} (h : s.Numbered)
    (hkept : s.kept? pagePath = none) :
    contents (s.answers pagePath events) = firstStays (loadsOf s.root pagePath events) := by
  induction events generalizing s with
  | nil => rfl
  | cons event rest ih =>
    have hchange := change_after s event
    have hnumbered := hchange.numbered h
    have hrest : (s.after event).kept? pagePath = none →
        contents ((s.after event).answers pagePath rest) =
          firstStays (loadsOf s.root pagePath rest) :=
      fun hnone => hchange.root_eq ▸ ih hnumbered hnone
    cases event with
    | ask asked question => exact hrest (hchange.kept?_eq_none hkept nofun)
    | get files asked =>
      rw [answers, loadsOf]
      split_ifs with hasked
      · subst hasked
        rw [contents, List.map_cons]
        cases hload : load files s.root asked with
        | error fault =>
          have hfetch := fetch_of_load_error hkept hload
          have hsame : s.after (.get files asked) = s := congrArg Prod.snd hfetch
          rw [hfetch]
          exact congrArg _ (hrest (by rwa [hsame]))
        | ok l =>
          have hfetch := fetch_of_load_ok hkept hload
          have hafter : (s.after (.get files asked)).kept? asked = some ⟨s.loads, l⟩ := by
            rw [after, hfetch, kept?_keep, if_pos rfl]
          have hlater := contents_of_kept rest hnumbered hafter
          rw [hchange.root_eq] at hlater
          dsimp only at hlater
          rw [fresh_of_load hload] at hlater
          rw [hfetch, firstStays]
          exact congrArg₂ _ (congrArg _ (fresh_of_load hload)) hlater
      · exact hrest (hchange.kept?_eq_none hkept fun other heq => hasked (by cases heq; rfl))

/-- Whatever happens to a store and to the files, a page that was given out is given out again, and
only its reader changes it; a fault is not remembered, so that the files decide anew; what is
answered for one page hangs on when that page was asked for and on nothing else; and each page path
has one page of its own. -/
theorem given_pages_stay (root : Path) (events : List Event) :
    let s := (ofRoot root).afterAll events
    (∀ files pagePath shelved, (s.fetch files pagePath).1 = .ok shelved →
      ∀ (more : List Event) files', ∃ again,
        (((s.fetch files pagePath).2.afterAll more).fetch files' pagePath).1 = .ok again ∧
          again.serial = shelved.serial ∧ again.lookup.fresh = shelved.lookup.fresh ∧
          ((∀ question, .ask pagePath question ∉ more) → again = shelved)) ∧
      (∀ files pagePath fault, (s.fetch files pagePath).1 = .error fault →
        (s.fetch files pagePath).2 = s ∧
          ∀ files', (s.fetch files' pagePath).1.map Shelved.lookup =
            load files' root pagePath) ∧
      (∀ pagePath, contents ((ofRoot root).answers pagePath events) =
        firstStays (loadsOf root pagePath events)) ∧
      ∀ p q a b, .ok a ∈ (ofRoot root).answers p events → .ok b ∈ (ofRoot root).answers q events →
        (a.serial = b.serial ↔ p = q) := by
  intro s
  have hroot : s.root = root := root_afterAll events
  have hnumbered : s.Numbered := (numbered_ofRoot root).afterAll events
  refine ⟨fun files pagePath shelved h more files' => ?_, fun files pagePath fault h => ?_,
    fun pagePath => contents_of_not_kept (numbered_ofRoot root) rfl, fun p q a b ha hb => ?_⟩
  · have hkept := kept?_of_fetch_ok h
    have hafter : (s.fetch files pagePath).2.Numbered :=
      (change_after s (.get files pagePath)).numbered hnumbered
    obtain ⟨again, hagain, hserial, hfresh⟩ := hafter.keeps_afterAll more pagePath shelved hkept
    refine ⟨again, by rw [fetch_of_kept hagain], hserial, hfresh, fun hask => ?_⟩
    exact Option.some.inj (hagain.symm.trans (kept?_afterAll hkept hask))
  · obtain ⟨hnone, hsame⟩ := fetch_of_error h
    refine ⟨hsame, fun files' => ?_⟩
    rw [← hroot]
    cases hload : load files' s.root pagePath with
    | error fault' => rw [fetch_of_load_error hnone hload]; rfl
    | ok l => rw [fetch_of_load_ok hnone hload]; rfl
  · obtain ⟨kept, hkept, hserial⟩ := kept?_of_mem_answers (numbered_ofRoot root) ha
    obtain ⟨kept', hkept', hserial'⟩ := kept?_of_mem_answers (numbered_ofRoot root) hb
    constructor
    · exact fun heq => hnumbered.apart p q kept kept' hkept hkept'
        (hserial.trans (heq.trans hserial'.symm))
    · rintro rfl
      rw [hkept] at hkept'
      cases hkept'
      exact hserial.symm.trans hserial'

end

attribute [local instance] Json.DepthLimit.usual

/-- The file cannot be decoded, then it can, then all files are gone; another page is asked for in
between, and there is none. -/
theorem given_pages_stay_torn_and_gone :
    let octets := fun s : String => s.toList.map fun ch => UInt8.ofNat ch.toNat
    let docs : Place := Place.working.enter (octets "docs")
    let holding := fun content : List UInt8 =>
      FileTree.mk [(docs, .directory), (docs.enter (octets "Box.json"), .file content)]
    let torn := holding [0xFF]
    let whole := holding (octets "\x7b\x22methods\x22: 3\x7d")
    let root := Path.ofText "docs"
    let before : List Event := [.get torn "Box.html", .get torn "Bag.html"]
    let after : List Event := [.ask "Box.html" (.methods "m"), .get torn "Bag.html"]
    let s := (ofRoot root).afterAll before
    ∃ fault shelved again, (s.fetch torn "Box.html").1 = .error fault ∧
      (s.fetch whole "Box.html").1 = .ok shelved ∧
      (((s.fetch whole "Box.html").2.afterAll after).fetch .empty "Box.html").1 = .ok again ∧
      again.serial = shelved.serial ∧ again.lookup.fresh = shelved.lookup.fresh ∧
      contents ((ofRoot root).answers "Box.html" (before ++ [.get torn "Box.html"])) =
        [.error fault, .error fault] := by
  intro octets docs holding torn whole root before after s
  obtain ⟨hstay, hfault, -, -⟩ := given_pages_stay root before
  obtain ⟨-, -, hanswers, -⟩ := given_pages_stay root (before ++ [.get torn "Box.html"])
  have hnone : (s.fetch torn "Box.html").1.toOption = none := by decide +kernel
  have hsome : (s.fetch whole "Box.html").1.toOption.isSome := by decide +kernel
  cases htorn : (s.fetch torn "Box.html").1 with
  | ok shelved => rw [htorn] at hnone; cases hnone
  | error fault =>
    cases hwhole : (s.fetch whole "Box.html").1 with
    | error other => rw [hwhole] at hsome; cases hsome
    | ok shelved =>
      obtain ⟨again, hagain, hserial, hfresh, -⟩ :=
        hstay whole "Box.html" shelved hwhole after .empty
      refine ⟨fault, shelved, again, rfl, rfl, hagain, hserial, hfresh, (hanswers _).trans ?_⟩
      have hload : load torn root "Box.html" = .error fault := by
        rw [← (hfault torn "Box.html" fault htorn).2 torn, htorn]
        rfl
      have hother : ("Bag.html" : Text) ≠ "Box.html" := by decide
      change firstStays (loadsOf root "Box.html"
        [.get torn "Box.html", .get torn "Bag.html", .get torn "Box.html"]) = _
      rw [loadsOf, loadsOf, loadsOf, loadsOf, if_pos rfl, if_neg hother, hload]
      rfl

end PageStore
end ApiStubs
