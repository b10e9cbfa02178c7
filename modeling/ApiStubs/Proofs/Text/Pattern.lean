import ApiStubs.Text.Pattern
import Mathlib.Data.List.Induction
import Mathlib.Data.List.TakeWhile

/-! Matching one character, and matching a run behind which no character of the run can go on. What
is left of a text when the matches of a pattern are taken out. -/

namespace ApiStubs.Pattern

section Removal

/-- A match is looked for at every place, and behind a match in the text as it was. No match may be
empty. -/
def removeFrom (p : Pattern) : Nat → Place → Text
  | 0, place => place.rest
  | fuel + 1, place =>
      match p.matchAt place some with
      | some next => removeFrom p fuel next
      | none =>
          match place.rest with
          | [] => []
          | c :: _ => c :: removeFrom p fuel (place.skip [c])

def remove (p : Pattern) (text : Text) : Text := removeFrom p (text.length + 1) (.start text)

variable {p : Pattern} {place : Place} (fuel : Nat)

theorem removeFrom_of_some {next : Place} (h : p.matchAt place some = some next) :
    removeFrom p (fuel + 1) place = removeFrom p fuel next := by
  simp only [removeFrom, h]

theorem removeFrom_of_none {c : CodePoint} {rest : Text} (h : p.matchAt place some = none)
    (hrest : place.rest = c :: rest) :
    removeFrom p (fuel + 1) place = c :: removeFrom p fuel (place.skip [c]) := by
  simp only [removeFrom, h, hrest]

theorem removeFrom_nil (h : p.matchAt place some = none) (hrest : place.rest = []) :
    removeFrom p (fuel + 1) place = [] := by
  simp only [removeFrom, h, hrest]

end Removal

section Steps

variable {p : CodePoint → Bool} {place : Place} {go : Place → Option Place}

theorem matchAt_here (q : Option CodePoint → Option CodePoint → Bool) :
    (here q).matchAt place go = if q place.before place.rest.head? then go place else none := by
  rw [matchAt]

theorem matchAt_both (a b : Pattern) :
    (both a b).matchAt place go = a.matchAt place fun next => b.matchAt next go := by
  rw [matchAt]

theorem matchAt_empty : empty.matchAt place go = go place := by
  rw [empty, matchAt_here, if_pos rfl]

theorem matchAt_one_of_pos {c : CodePoint} {rest : Text} (hrest : place.rest = c :: rest)
    (hc : p c = true) : (one p).matchAt place go = go (place.skip [c]) := by
  have hpassed : place.runHere p (some 1) = [c] := by
    simp [Place.runHere, hrest, hc]
  simp [one, matchAt, runStep, hpassed]

theorem matchAt_one_of_neg (h : ∀ c rest, place.rest = c :: rest → p c = false) :
    (one p).matchAt place go = none := by
  have hpassed : place.runHere p (some 1) = [] := by
    cases hrest : place.rest with
    | nil => simp [Place.runHere, hrest]
    | cons c rest => simp [Place.runHere, hrest, h c rest hrest]
  simp [one, matchAt, runStep, hpassed]

theorem skip_nil : place.skip [] = place := by
  simp [Place.skip]

theorem rest_skip_takeWhile (p : CodePoint → Bool) (place : Place) :
    (place.skip (place.rest.takeWhile p)).rest = place.rest.dropWhile p := by
  have hdrop : (place.rest.takeWhile p ++ place.rest.dropWhile p).drop
      (place.rest.takeWhile p).length = place.rest.dropWhile p := List.drop_left
  rwa [List.takeWhile_append_dropWhile] at hdrop

theorem skip_concat (passed : Text) (c : CodePoint) :
    place.skip (passed ++ [c]) = (place.skip passed).skip [c] := by
  simp [Place.skip, Nat.add_assoc]

theorem along_eq {passed : Text} (h : passed <+: place.rest) :
    ∃ others, place.along passed = place.skip passed :: others ∧
      ∀ next ∈ others, ∃ c ∈ passed, ∃ rest, next.rest = c :: rest := by
  induction passed using List.reverseRecOn with
  | nil => exact ⟨[], by rw [skip_nil]; rfl, nofun⟩
  | append_singleton passed c ih =>
    obtain ⟨rest, hrest⟩ := h
    have hbefore : passed <+: place.rest := ⟨c :: rest, by rw [← hrest]; simp⟩
    have hfront : (place.skip passed).rest = c :: rest := by
      simp [Place.skip, ← hrest]
    obtain ⟨others, halong, hothers⟩ := ih hbefore
    refine ⟨place.skip passed :: others, ?_, ?_⟩
    · have hstep : place.along (passed ++ [c]) = (place.skip passed).skip [c] ::
          place.skip passed :: others := by
        rw [Place.along, List.foldl_append]
        rw [Place.along] at halong
        rw [halong]
        simp [Place.skip]
      rw [hstep, skip_concat]
    · intro next hnext
      rcases List.mem_cons.1 hnext with heq | hnext
      · exact ⟨c, by simp, rest, heq ▸ hfront⟩
      · obtain ⟨d, hd, hinside⟩ := hothers next hnext
        exact ⟨d, by simp [hd], hinside⟩

/-- Nothing is tried but the whole run if what follows cannot start inside it. -/
theorem matchAt_run_of_barred
    (h : ∀ next c rest, next.rest = c :: rest → p c = true → go next = none) :
    (run .most 0 none p).matchAt place go = go (place.skip (place.rest.takeWhile p)) := by
  obtain ⟨others, halong, hothers⟩ := along_eq (List.takeWhile_prefix p (l := place.rest))
  have hfail : others.findSome? go = none := by
    rw [List.findSome?_eq_none_iff]
    intro next hnext
    obtain ⟨c, hc, rest, hrest⟩ := hothers next hnext
    exact h next c rest hrest (List.mem_takeWhile_imp hc)
  have hpassed : place.runHere p none = place.rest.takeWhile p := rfl
  rw [matchAt, runStep, hpassed, if_neg (Nat.not_lt_zero _)]
  simp only [List.take_zero, List.drop_zero, skip_nil, halong, List.findSome?_cons, hfail]
  cases go (place.skip (place.rest.takeWhile p)) <;> rfl

end Steps

end ApiStubs.Pattern
