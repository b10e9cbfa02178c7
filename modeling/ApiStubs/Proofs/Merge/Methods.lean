import ApiStubs.Merge.Methods
import ApiStubs.Proofs.Distinct
import ApiStubs.Proofs.Documented.Entry
import ApiStubs.Proofs.Merge.Reading

/-! Methods of a merged class. The overload that takes a method's place depends on the erased
signature alone and has the same one, so repetitions stay repetitions. -/

namespace ApiStubs

def Lookup.overload? (source : Lookup) (erased : Text × List Text) : Option Method :=
  match source with
  | .missing _ => none
  | .found page =>
      match page.methods.1 with
      | .ok documented => documented.find? fun m => Method.erase (m.signature true) = erased
      | .error _ => none

namespace Merge

open Merging (Reads Answers)

variable {source : Lookup} {c : ObservedClass} {o : Method}

def overloadOr (source : Lookup) (o : Method) : Method :=
  (source.overload? (Method.erase (o.signature true))).getD o

theorem erase_of_overload? {erased : Text × List Text} {m : Method}
    (h : source.overload? erased = some m) : Method.erase (m.signature true) = erased := by
  cases source with
  | missing reason => cases h
  | found page =>
    rw [Lookup.overload?] at h
    split at h
    · simpa using List.find?_some h
    · cases h

theorem erase_overloadOr (source : Lookup) (o : Method) :
    Method.erase ((overloadOr source o).signature true) = Method.erase (o.signature true) := by
  rw [overloadOr]
  cases hoverload : source.overload? (Method.erase (o.signature true)) with
  | none => rfl
  | some m => exact erase_of_overload? hoverload

theorem constructed_overloadOr (hsource : source.Sound) (ho : o.Constructed) :
    (overloadOr source o).Constructed := by
  rw [overloadOr]
  cases hoverload : source.overload? (Method.erase (o.signature true)) with
  | none => exact ho
  | some m =>
    cases source with
    | missing reason => cases hoverload
    | found page =>
      rw [Lookup.overload?] at hoverload
      split at hoverload
      · rename_i documented hdocumented
        exact Page.Sound.constructed hsource hdocumented m (List.mem_of_find?_eq_some hoverload)
      · cases hoverload

theorem find?_named {documented : List Method} (erased : Text × List Text) :
    (documented.filter (·.name == erased.1)).find?
        (fun m => Method.erase (m.signature true) = erased) =
      documented.find? fun m => Method.erase (m.signature true) = erased := by
  rw [List.find?_filter]
  congr 1
  funext m
  rw [Method.erase_signature]
  by_cases hname : m.name = erased.1
  · simp [hname]
  · have hne : (m.name, m.params.map fun p => TypeExpr.baseOfText p.typeText) ≠ erased :=
      fun h => hname (congrArg Prod.fst h)
    simp [hname, hne]

theorem chooseMethod_reads (className : Text) (hsource : source.Sound) (ho : o.Constructed)
    {answer : Option (Text × List Method)}
    (h : Answers (fun p => p.methodsNamed o.name) source answer) :
    Reads source (· = overloadOr source o) (chooseMethod className o answer) := by
  cases source with
  | missing reason =>
    cases h
    exact .pure rfl
  | found page =>
    obtain ⟨overloads, hoverloads, rfl⟩ := h
    rw [Page.answer_methodsNamed] at hoverloads
    cases hmethods : page.methods.1 with
    | error fault => rw [hmethods] at hoverloads; cases hoverloads
    | ok documented =>
      rw [hmethods] at hoverloads
      cases hoverloads
      have hconstructed := Page.Sound.constructed hsource hmethods
      have hbucket : ∀ m ∈ documented.filter (·.name == (Method.erase (o.signature true)).1),
          m.Constructed := fun m hm => hconstructed m (List.mem_filter.1 hm).1
      have hfind := Method.findMatch?_eq ho hbucket
      rw [find?_named] at hfind
      have hoverload : overloadOr (.found page) o =
          (documented.find? fun m =>
            Method.erase (m.signature true) = Method.erase (o.signature true)).getD o := by
        rw [overloadOr, Lookup.overload?, hmethods]
      rw [hoverload]
      refine .bind (.made (P := (· = _)) hfind rfl) fun found hfound => ?_
      rw [← hfound]
      cases found with
      | some m => exact .pure rfl
      | none => exact .bind (.report _) fun _ _ => .pure rfl

structure Describes (m : ObservedMethod) (o : Method) : Prop where
  made : m.toMethod = .ok o
  constructed : o.Constructed
  name : o.name = m.name

theorem exists_describes {m : ObservedMethod} (h : m.Readable) : ∃ o, Describes m o := by
  obtain ⟨params, hparams, hmade⟩ := h.exists_toMethod
  refine ⟨_, hmade, ?_, rfl⟩
  intro p hp
  obtain ⟨q, -, hq⟩ := exists_of_mem_forall₂ (mapM_eq_ok_iff.1 hparams) hp
  exact .made hq

theorem resolveMethod_reads {m : ObservedMethod} (className : Text) (hsource : source.Sound)
    (h : Describes m o) :
    Reads source (· = overloadOr source o) (resolveMethod className m) := by
  rw [resolveMethod]
  refine .bind (.made (P := (· = o)) h.made rfl) fun observed hobserved => ?_
  subst hobserved
  refine .bind (.ask (Page.steady_methodsNamed m.name)) fun answer hanswer => ?_
  rw [← h.name] at hanswer
  exact chooseMethod_reads className hsource h.constructed hanswer

def countedMethods (methods : List ObservedMethod) : List ObservedMethod :=
  methods.filter fun m => !m.synthetic

/-- What is left of the chosen overloads when signatures in `taken` and repetitions are left out. -/
structure Chosen (source : Lookup) (taken : List (Text × List Text))
    (observed methods : List Method) : Prop where
  signatures : methods.map (Method.signature true) =
    ((observed.map fun o => (overloadOr source o).signature true).filter
      fun s => !taken.contains s).eraseDups
  sublist : methods.Sublist (observed.map (overloadOr source))

theorem methodsFrom_reads {methods : List ObservedMethod} {observed : List Method}
    (className : Text) (taken : List (Text × List Text)) (hsource : source.Sound)
    (h : List.Forall₂ Describes (countedMethods methods) observed) :
    Reads source (Chosen source taken observed) (methodsFrom className taken methods) := by
  -- `taken` grows with every method that is kept, so it is not fixed in the induction
  induction methods generalizing taken observed with
  | nil =>
    cases h
    exact .pure ⟨rfl, .slnil⟩
  | cons m rest ih =>
    rw [methodsFrom]
    split_ifs with hsynthetic
    · refine ih taken ?_
      simpa [countedMethods, hsynthetic] using h
    · have hcounted : countedMethods (m :: rest) = m :: countedMethods rest := by
        simp [countedMethods, hsynthetic]
      rw [hcounted] at h
      obtain ⟨o, os, hdescribes, hrest, rfl⟩ := List.forall₂_cons_left_iff.1 h
      refine .bind (resolveMethod_reads className hsource hdescribes) fun r hr => ?_
      subst hr
      dsimp only
      split_ifs with htaken
      · refine (ih taken hrest).mono fun out hout => ⟨?_, hout.sublist.cons _⟩
        rw [hout.signatures, List.map_cons, List.filter_cons_of_neg (by simpa using htaken)]
      · refine .bind (ih _ hrest) fun out hout => .pure ⟨?_, hout.sublist.cons_cons _⟩
        rw [List.map_cons, List.map_cons, hout.signatures,
          List.filter_cons_of_pos (by simpa using htaken), List.eraseDups_cons, List.filter_filter]
        congr 3
        funext s
        rw [List.contains_cons, Bool.not_or]

theorem exists_observed (hc : c.Readable) :
    ∃ observed, List.Forall₂ Describes (countedMethods c.methods) observed :=
  exists_forall₂ fun m (hm : m ∈ countedMethods c.methods) =>
    exists_describes (hc.methods m (List.mem_filter.1 hm).1)

variable {observed methods : List Method}

theorem erasedSignatures_of_describes
    (h : List.Forall₂ Describes (countedMethods c.methods) observed) :
    (countedMethods c.methods).mapM ObservedMethod.erasedSignature =
      .ok (observed.map fun o => Method.erase (o.signature true)) := by
  rw [mapM_eq_ok_iff, List.forall₂_map_right_iff]
  refine h.imp fun m o hdescribes => ?_
  rw [ObservedMethod.erasedSignature, hdescribes.made]
  exact hdescribes.constructed.erasedSignature_eq

theorem erase_overloads (source : Lookup) (observed : List Method) :
    (observed.map fun o => (overloadOr source o).signature true).map Method.erase =
      observed.map fun o => Method.erase (o.signature true) := by
  rw [List.map_map]
  exact List.map_congr_left fun o _ => erase_overloadOr source o

namespace Chosen

theorem nodup {taken : List (Text × List Text)} (h : Chosen source taken observed methods) :
    (methods.map (Method.signature true)).Nodup :=
  h.signatures ▸ Distinct.nodup_eraseDups _

theorem erased_signatures (h : Chosen source [] observed methods) :
    methods.map (fun m => Method.erase (m.signature true)) =
      (observed.map fun o => (overloadOr source o).signature true).eraseDups.map Method.erase := by
  have hall : (observed.map fun o => (overloadOr source o).signature true).filter
      (fun s => !([] : List (Text × List Text)).contains s) =
        observed.map fun o => (overloadOr source o).signature true :=
    List.filter_eq_self.2 fun _ _ => rfl
  rw [← hall, ← h.signatures, List.map_map]
  rfl

theorem constructed {taken : List (Text × List Text)} (h : Chosen source taken observed methods)
    (hsource : source.Sound) (hobserved : ∀ o ∈ observed, o.Constructed) :
    ∀ m ∈ methods, m.Constructed := by
  intro m hm
  obtain ⟨o, ho, rfl⟩ := List.mem_map.1 (h.sublist.subset hm)
  exact constructed_overloadOr hsource (hobserved o ho)

/-- Each erased signature is there, at the place where it was first observed. -/
theorem eraseDups_erased (h : Chosen source [] observed methods) :
    (methods.map fun m => Method.erase (m.signature true)).eraseDups =
      (observed.map fun o => Method.erase (o.signature true)).eraseDups := by
  rw [h.erased_signatures, Distinct.eraseDups_map_eraseDups, erase_overloads]

theorem erased_eq (h : Chosen source [] observed methods)
    (hobserved : ∀ o ∈ observed, Method.erase (o.signature true) = o.signature true) :
    methods.map (fun m => Method.erase (m.signature true)) =
      (observed.map fun o => Method.erase (o.signature true)).eraseDups := by
  have hone : ∀ s ∈ observed.map fun o => (overloadOr source o).signature true,
      ∀ s' ∈ observed.map fun o => (overloadOr source o).signature true,
        Method.erase s = Method.erase s' → s = s' := by
    intro s hs s' hs' herase
    obtain ⟨o, ho, rfl⟩ := List.mem_map.1 hs
    obtain ⟨o', ho', rfl⟩ := List.mem_map.1 hs'
    -- both ask for the same documented overload, and without one each stands for itself
    rw [erase_overloadOr, erase_overloadOr] at herase
    rw [overloadOr, overloadOr, herase]
    cases source.overload? (Method.erase (o'.signature true)) with
    | some m => rfl
    | none => exact (hobserved o ho).symm.trans (herase.trans (hobserved o' ho'))
  rw [h.erased_signatures, Distinct.map_eraseDups hone, erase_overloads]

end Chosen

end Merge
end ApiStubs
