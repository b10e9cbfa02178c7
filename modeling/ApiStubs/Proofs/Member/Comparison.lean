import ApiStubs.Proofs.Member.Param
import ApiStubs.Proofs.Member.Signature
import ApiStubs.Proofs.TypeExpr.Head

/-! Methods compared whole and short. All that counts is the name and the base names of the
parameter types, so both comparisons are equivalences, the whole one is the finer, and matching takes
the first entry that agrees. -/

namespace ApiStubs

theorem Param.Constructed.baseName_true {p : Param} (h : p.Constructed) :
    p.baseName true = TypeExpr.headOf p.typeText := by
  obtain ⟨text, t, name, ht, rfl⟩ := h.exists_parse
  rw [TypeExpr.headOf_render ht]
  exact TypeExpr.baseOfText_eq (TypeExpr.parse_render ht)

theorem Param.Constructed.baseName_false {p : Param} (h : p.Constructed) :
    p.baseName false = TypeExpr.headOf p.shortTypeText := by
  have hhead : TypeExpr.baseOfText p.typeText = TypeExpr.headOf p.typeText := h.baseName_true
  rw [Param.shortTypeText, TypeExpr.headOf_shorten, ← hhead]
  rfl

namespace Method

variable {a b c : Method} {qualified : Bool}

/-- One name, and parameters with the same bases in pairs, whatever else the methods are. -/
structure SameBases (a b : Method) : Prop where
  name : a.name = b.name
  params : List.Forall₂ Param.SameBase a.params b.params

theorem comparedBy_of_true (qualified : Bool) (h : a.comparedBy true = b.comparedBy true) :
    a.comparedBy qualified = b.comparedBy qualified := by
  obtain ⟨hname, hbases⟩ := Prod.mk.inj h
  have hshort : a.params.map (Param.baseName false) = b.params.map (Param.baseName false) := by
    have hmap (m : Method) : m.params.map (Param.baseName false) =
        (m.params.map (Param.baseName true)).map Lua.shorten := by
      rw [List.map_map]
      rfl
    rw [hmap, hmap, hbases]
  cases qualified with
  | true => exact h
  | false => exact Prod.ext hname hshort

theorem sameBases_iff (ha : a.Constructed) (hb : b.Constructed) :
    a.SameBases b ↔ a.comparedBy true = b.comparedBy true := by
  have hparams := Param.forall₂_sameBase_iff ha hb
  constructor
  · intro h
    exact Prod.ext h.name (hparams.1 h.params)
  · intro h
    obtain ⟨hname, hbases⟩ := Prod.mk.inj h
    exact ⟨hname, hparams.2 hbases⟩

/-- The short signature tells the short bases, though it has the arguments as well. -/
theorem Constructed.comparedBy_false (h : a.Constructed) :
    a.comparedBy false =
      ((a.signature false).1, (a.signature false).2.map TypeExpr.headOf) := by
  have hparams : ∀ p ∈ a.params, p.baseName false = TypeExpr.headOf p.shortTypeText :=
    fun p hp => (h p hp).baseName_false
  simpa [comparedBy, signature] using hparams

section Agreement

theorem agrees_eq_true_iff (ha : a.Constructed) (hb : b.Constructed) :
    a.agrees qualified b = .ok true ↔ a.comparedBy qualified = b.comparedBy qualified := by
  simp [agrees_eq_decide qualified ha hb]

theorem agrees_equivalence (qualified : Bool) :
    Equivalence fun a b : {m : Method // m.Constructed} => a.1.agrees qualified b.1 = .ok true where
  refl a := (agrees_eq_true_iff a.2 a.2).2 rfl
  symm {a b} h := by
    rw [agrees_eq_true_iff a.2 b.2] at h
    exact (agrees_eq_true_iff b.2 a.2).2 h.symm
  trans {a b c} hab hbc := by
    rw [agrees_eq_true_iff a.2 b.2] at hab
    rw [agrees_eq_true_iff b.2 c.2] at hbc
    exact (agrees_eq_true_iff a.2 c.2).2 (hab.trans hbc)

theorem agrees_congr {a' b' : Method} (qualified : Bool) (ha : a.Constructed) (hb : b.Constructed)
    (ha' : a'.Constructed) (hb' : b'.Constructed) (hleft : a'.SameBases a)
    (hright : b'.SameBases b) : a'.agrees qualified b' = a.agrees qualified b := by
  have hleft := comparedBy_of_true qualified ((sameBases_iff ha' ha).1 hleft)
  have hright := comparedBy_of_true qualified ((sameBases_iff hb' hb).1 hright)
  rw [agrees_eq_decide qualified ha' hb', agrees_eq_decide qualified ha hb, hleft, hright]

theorem agrees_of_signature_eq (ha : a.Constructed) (hb : b.Constructed)
    (h : a.signature qualified = b.signature qualified) : a.agrees qualified b = .ok true := by
  rw [agrees_eq_true_iff ha hb]
  cases qualified with
  | true => rw [comparedBy_true, comparedBy_true, h]
  | false => rw [ha.comparedBy_false, hb.comparedBy_false, h]

theorem agrees_false_of_true (ha : a.Constructed) (hb : b.Constructed)
    (h : a.agrees true b = .ok true) : a.agrees false b = .ok true := by
  rw [agrees_eq_true_iff ha hb] at h ⊢
  exact comparedBy_of_true false h

end Agreement

section Matching

variable {wanted : Method} {bucket : List Method}

structure FirstAgreeing (qualified : Bool) (wanted : Method) (bucket : List Method) (i : Nat)
    (m : Method) : Prop where
  entry : bucket[i]? = some m
  agrees : m.agrees qualified wanted = .ok true
  earlier : ∀ j e, j < i → bucket[j]? = some e → e.agrees qualified wanted = .ok false

theorem firstMatch?_append {i : Nat} (h : firstMatch? qualified wanted bucket = .ok (some i))
    (more : List Method) : firstMatch? qualified wanted (bucket ++ more) = .ok (some i) := by
  induction bucket generalizing i with
  | nil => cases h
  | cons m rest ih =>
    rw [List.cons_append, firstMatch?]
    rw [firstMatch?] at h
    obtain ⟨answer, hanswer, h⟩ := bind_eq_ok_iff.1 h
    rw [hanswer]
    cases answer with
    -- what stands behind a match is never looked at
    | true => exact h
    | false =>
      obtain ⟨found, hfound, h⟩ := bind_eq_ok_iff.1 h
      cases found with
      | none => cases h
      | some j =>
        have hrest := ih hfound
        change (do return (← firstMatch? qualified wanted (rest ++ more)).map (· + 1)) = _
        rw [hrest]
        exact h

variable (hwanted : wanted.Constructed) (hbucket : ∀ m ∈ bucket, m.Constructed)
include hwanted hbucket

theorem agrees_of_mem (qualified : Bool) {m : Method} (hm : m ∈ bucket) :
    m.agrees qualified wanted =
      .ok (decide (m.comparedBy qualified = wanted.comparedBy qualified)) :=
  agrees_eq_decide qualified (hbucket m hm) hwanted

theorem firstMatch?_eq_some_iff {i : Nat} :
    firstMatch? qualified wanted bucket = .ok (some i) ↔
      ∃ m, FirstAgreeing qualified wanted bucket i m := by
  have hmem : ∀ {j m}, bucket[j]? = some m → m ∈ bucket := List.mem_of_getElem?
  rw [firstMatch?_eq qualified hwanted hbucket, Except.ok.injEq,
    List.findIdx?_eq_some_iff_getElem]
  constructor
  · rintro ⟨hi, hagrees, hearlier⟩
    refine ⟨bucket[i], List.getElem?_eq_getElem hi, ?_, fun j e hj he => ?_⟩
    · rw [agrees_of_mem hwanted hbucket qualified (List.getElem_mem hi), hagrees]
    · obtain ⟨hlength, rfl⟩ := List.getElem?_eq_some_iff.1 he
      rw [agrees_of_mem hwanted hbucket qualified (List.getElem_mem hlength)]
      simpa using hearlier j hj
  · rintro ⟨m, h⟩
    obtain ⟨hi, rfl⟩ := List.getElem?_eq_some_iff.1 h.entry
    have hagrees := h.agrees
    rw [agrees_of_mem hwanted hbucket qualified (List.getElem_mem hi)] at hagrees
    refine ⟨hi, by simpa using hagrees, fun j hj => ?_⟩
    have hbefore := h.earlier j _ hj (List.getElem?_eq_getElem (hj.trans hi))
    rw [agrees_of_mem hwanted hbucket qualified (List.getElem_mem _)] at hbefore
    simpa using hbefore

theorem firstMatch?_eq_none_iff :
    firstMatch? qualified wanted bucket = .ok none ↔
      ∀ m ∈ bucket, m.agrees qualified wanted = .ok false := by
  rw [firstMatch?_eq qualified hwanted hbucket, Except.ok.injEq, List.findIdx?_eq_none_iff]
  refine forall₂_congr fun m hm => ?_
  rw [agrees_of_mem hwanted hbucket qualified hm, Except.ok.injEq]

theorem exists_firstMatch? (qualified : Bool) :
    ∃ found, firstMatch? qualified wanted bucket = .ok found :=
  ⟨_, firstMatch?_eq qualified hwanted hbucket⟩

theorem FirstAgreeing.findMatch?_eq {i : Nat} {m : Method}
    (h : FirstAgreeing qualified wanted bucket i m) :
    wanted.findMatch? qualified bucket = .ok (some m) := by
  have hfirst := (firstMatch?_eq_some_iff hwanted hbucket).2 ⟨m, h⟩
  rw [findMatch?, hfirst]
  exact congrArg Except.ok h.entry

theorem findMatch?_eq_some_iff {m : Method} :
    wanted.findMatch? qualified bucket = .ok (some m) ↔
      ∃ i, FirstAgreeing qualified wanted bucket i m := by
  constructor
  · intro h
    obtain ⟨found, hfound, hentry⟩ := bind_eq_ok_iff.1 h
    cases found with
    | none => cases hentry
    | some i =>
      obtain ⟨m', hfirst⟩ := (firstMatch?_eq_some_iff hwanted hbucket).1 hfound
      have hsame : bucket[i]? = some m := Except.ok.inj hentry
      rw [hfirst.entry] at hsame
      exact ⟨i, Option.some.inj hsame ▸ hfirst⟩
  · intro h
    obtain ⟨i, hfirst⟩ := h
    exact hfirst.findMatch?_eq hwanted hbucket

theorem findMatch?_eq_none_iff :
    wanted.findMatch? qualified bucket = .ok none ↔
      ∀ m ∈ bucket, m.agrees qualified wanted = .ok false := by
  rw [← firstMatch?_eq_none_iff hwanted hbucket]
  constructor
  · intro h
    obtain ⟨found, hfound⟩ := exists_firstMatch? hwanted hbucket qualified
    cases found with
    | none => exact hfound
    | some i =>
      obtain ⟨m, hfirst⟩ := (firstMatch?_eq_some_iff hwanted hbucket).1 hfound
      rw [hfirst.findMatch?_eq hwanted hbucket] at h
      cases h
  · intro h
    rw [findMatch?, h]
    rfl

theorem FirstAgreeing.findMatch?_append {i : Nat} {m : Method}
    (h : FirstAgreeing qualified wanted bucket i m) (more : List Method) :
    wanted.findMatch? qualified (bucket ++ more) = .ok (some m) := by
  have hfirst := (firstMatch?_eq_some_iff hwanted hbucket).2 ⟨m, h⟩
  have hlength : i < bucket.length := (List.getElem?_eq_some_iff.1 h.entry).1
  rw [findMatch?, firstMatch?_append hfirst]
  change Except.ok (bucket ++ more)[i]? = _
  rw [List.getElem?_append_left hlength, h.entry]

/-- What agrees whole agrees short, so the first of these stands no later. -/
theorem FirstAgreeing.exists_short {i : Nat} {m : Method}
    (h : FirstAgreeing true wanted bucket i m) :
    ∃ j m', j ≤ i ∧ FirstAgreeing false wanted bucket j m' := by
  have hfirst := (firstMatch?_eq_some_iff hwanted hbucket).2 ⟨m, h⟩
  rw [firstMatch?_eq true hwanted hbucket, Except.ok.injEq] at hfirst
  have hcoarser : ∀ m ∈ bucket, decide (m.comparedBy true = wanted.comparedBy true) = true →
      decide (m.comparedBy false = wanted.comparedBy false) = true := by
    intro m _ hwhole
    exact decide_eq_true (comparedBy_of_true false (of_decide_eq_true hwhole))
  obtain ⟨j, hj, hshort⟩ := List.findIdx?_eq_some_le_of_findIdx?_eq_some hcoarser hfirst
  have hfound : firstMatch? false wanted bucket = .ok (some j) := by
    rw [firstMatch?_eq false hwanted hbucket, hshort]
  obtain ⟨m', hfirst'⟩ := (firstMatch?_eq_some_iff hwanted hbucket).1 hfound
  exact ⟨j, m', hj, hfirst'⟩

end Matching

end Method

open Method

/-- Methods agree by an equivalence, whole and short, that only names and base names count for. A
whole signature decides more than whole agreement, and that more than short agreement. A bucket is
searched for its first entry that agrees, and searching the short way stops no later. -/
theorem matching_takes_first_of_equivalent :
    (∀ qualified, Equivalence fun a b : {m : Method // m.Constructed} =>
      a.1.agrees qualified b.1 = .ok true) ∧
    (∀ qualified (a b : Method), a.Constructed → b.Constructed →
      (∃ answer, a.agrees qualified b = .ok answer) ∧
      ∀ a' b' : Method, a'.Constructed → b'.Constructed → a'.SameBases a → b'.SameBases b →
        a'.agrees qualified b' = a.agrees qualified b) ∧
    (∀ a b : Method, a.Constructed → b.Constructed →
      (a.signature true = b.signature true → a.agrees true b = .ok true) ∧
      (a.agrees true b = .ok true → a.agrees false b = .ok true) ∧
      (a.signature false = b.signature false → a.agrees false b = .ok true)) ∧
    ∀ (wanted : Method) (bucket : List Method), wanted.Constructed →
      (∀ m ∈ bucket, m.Constructed) →
      (∀ qualified,
        (∃ found, wanted.findMatch? qualified bucket = .ok found) ∧
        (∀ m, wanted.findMatch? qualified bucket = .ok (some m) ↔
          ∃ i, FirstAgreeing qualified wanted bucket i m) ∧
        (wanted.findMatch? qualified bucket = .ok none ↔
          ∀ m ∈ bucket, m.agrees qualified wanted = .ok false) ∧
        ∀ i m more, FirstAgreeing qualified wanted bucket i m →
          wanted.findMatch? qualified (bucket ++ more) = .ok (some m)) ∧
      ∀ i m, FirstAgreeing true wanted bucket i m →
        ∃ j m', j ≤ i ∧ FirstAgreeing false wanted bucket j m' := by
  refine ⟨agrees_equivalence, fun qualified a b ha hb => ⟨?_, ?_⟩, fun a b ha hb => ⟨?_, ?_, ?_⟩,
    fun wanted bucket hwanted hbucket => ⟨fun qualified => ⟨?_, ?_, ?_, ?_⟩, ?_⟩⟩
  · exact ⟨_, agrees_eq_decide qualified ha hb⟩
  · exact fun a' b' ha' hb' => agrees_congr qualified ha hb ha' hb'
  · exact agrees_of_signature_eq ha hb
  · exact agrees_false_of_true ha hb
  · exact agrees_of_signature_eq ha hb
  · obtain ⟨found, hfound⟩ := exists_firstMatch? hwanted hbucket qualified
    exact ⟨_, bind_eq_ok_iff.2 ⟨found, hfound, rfl⟩⟩
  · exact fun m => findMatch?_eq_some_iff hwanted hbucket
  · exact findMatch?_eq_none_iff hwanted hbucket
  · exact fun i m more h => h.findMatch?_append hwanted hbucket more
  · exact fun i m h => h.exists_short hwanted hbucket

/-- The first overload agrees only short, the second whole, with other arguments and another name of
its parameter. -/
theorem matching_takes_first_of_equivalent_overloads :
    let put (typeText name : Text) : Method := ⟨"put", [⟨typeText, name⟩], noValue, []⟩
    let short := put "Map" "source"
    let second := put "java.util.Map<K, V>" "source"
    let wanted : Method := { put "java.util.Map<a.B>" "other" with modifiers := ["public"] }
    let bucket := [short, second, put "java.util.Map" "source"]
    (wanted.Constructed ∧ ∀ m ∈ bucket, m.Constructed) ∧
      wanted.SameBases second ∧ wanted.agrees true short = second.agrees true short ∧
      (put "Map" "other").signature false = short.signature false ∧
      (put "Map" "other").agrees false short = .ok true ∧
      wanted.agrees true second = .ok true ∧ wanted.agrees false second = .ok true ∧
      FirstAgreeing true wanted bucket 1 second ∧
      wanted.findMatch? true (bucket ++ [wanted]) = .ok (some second) ∧
      ∃ j m, j ≤ 1 ∧ FirstAgreeing false wanted bucket j m := by
  intro put short second wanted bucket
  have hparam (typeText name : Text) (h : Param.make typeText name = .ok ⟨typeText, name⟩) :
      (put typeText name).Constructed := constructed_of_made h rfl
  have hwanted : wanted.Constructed := hparam _ _ (eq_ok_of_toOption (by decide +kernel))
  have hother : (put "Map" "other").Constructed :=
    hparam _ _ (eq_ok_of_toOption (by decide +kernel))
  have hshort : short.Constructed := hparam _ _ (eq_ok_of_toOption (by decide +kernel))
  have hsecond : second.Constructed := hparam _ _ (eq_ok_of_toOption (by decide +kernel))
  have hbucket : ∀ m ∈ bucket, m.Constructed := by
    simp only [bucket, List.forall_mem_cons]
    exact ⟨hshort, hsecond, hparam _ _ (eq_ok_of_toOption (by decide +kernel)), nofun⟩
  have hbases : wanted.SameBases second := (sameBases_iff hwanted hsecond).2 (by decide +kernel)
  have hagrees : wanted.agrees true second = .ok true := eq_ok_of_toOption (by decide +kernel)
  have hfirst : FirstAgreeing true wanted bucket 1 second := by
    refine ⟨rfl, eq_ok_of_toOption (by decide +kernel), fun j e hj he => ?_⟩
    obtain rfl : j = 0 := by omega
    cases he
    exact eq_ok_of_toOption (by decide +kernel)
  obtain ⟨-, hcongr, hchain, hmatching⟩ := matching_takes_first_of_equivalent
  obtain ⟨hway, hsooner⟩ := hmatching wanted bucket hwanted hbucket
  have hsame := (hcongr true second short hsecond hshort).2 wanted short hwanted hshort hbases
    ((sameBases_iff hshort hshort).2 rfl)
  exact ⟨⟨hwanted, hbucket⟩, hbases, hsame, rfl, (hchain _ _ hother hshort).2.2 rfl, hagrees,
    (hchain _ _ hwanted hsecond).2.1 hagrees, hfirst, (hway true).2.2.2 1 second [wanted] hfirst,
    hsooner 1 second hfirst⟩

end ApiStubs
