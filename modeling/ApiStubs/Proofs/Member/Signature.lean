import ApiStubs.Member.Matching
import ApiStubs.Observed.Class
import ApiStubs.Proofs.Observed.Readable

/-! Signatures with type arguments erased, which is what methods are paired by. They can be told from
the texts of a signature. -/

namespace ApiStubs

def TypeExpr.baseOfText (text : Text) : Text := ((parse text).toOption.map name).getD []

theorem TypeExpr.baseOfText_eq {text : Text} {t : TypeExpr} (h : parse text = .ok t) :
    baseOfText text = t.name := by
  simp [baseOfText, h, Except.toOption]

theorem Param.Constructed.type_name {p : Param} (h : p.Constructed) :
    p.type.map TypeExpr.name = .ok (TypeExpr.baseOfText p.typeText) := by
  obtain ⟨t, ht, -⟩ := h.exists_type
  rw [TypeExpr.baseOfText_eq ht, ht]
  rfl

def Param.SameBase (p q : Param) : Prop :=
  ∃ t u, p.type = .ok t ∧ q.type = .ok u ∧ t.name = u.name

theorem Param.Constructed.sameBase_iff {p q : Param} (hp : p.Constructed) (hq : q.Constructed) :
    p.SameBase q ↔ TypeExpr.baseOfText p.typeText = TypeExpr.baseOfText q.typeText := by
  obtain ⟨t, ht, -⟩ := hp.exists_type
  obtain ⟨u, hu, -⟩ := hq.exists_type
  rw [TypeExpr.baseOfText_eq ht, TypeExpr.baseOfText_eq hu]
  constructor
  · rintro ⟨t', u', ht', hu', heq⟩
    rw [ht] at ht'
    rw [hu] at hu'
    cases ht'
    cases hu'
    exact heq
  · exact fun heq => ⟨t, u, ht, hu, heq⟩

theorem Param.forall₂_sameBase_iff {as bs : List Param} (ha : ∀ p ∈ as, p.Constructed)
    (hb : ∀ p ∈ bs, p.Constructed) :
    List.Forall₂ SameBase as bs ↔
      as.map (fun p => TypeExpr.baseOfText p.typeText) =
        bs.map fun p => TypeExpr.baseOfText p.typeText := by
  induction as generalizing bs with
  | nil => cases bs <;> simp
  | cons a as ih =>
    cases bs with
    | nil => simp
    | cons b bs =>
      obtain ⟨ha, has⟩ := List.forall_mem_cons.1 ha
      obtain ⟨hb, hbs⟩ := List.forall_mem_cons.1 hb
      rw [List.forall₂_cons, ih has hbs, ha.sameBase_iff hb, List.map_cons, List.map_cons,
        List.cons.injEq]

def Param.baseName (qualified : Bool) (p : Param) : Text :=
  if qualified then TypeExpr.baseOfText p.typeText
  else Lua.shorten (TypeExpr.baseOfText p.typeText)

theorem Param.Constructed.type_baseName {p : Param} (h : p.Constructed) (qualified : Bool) :
    ∃ t, p.type = .ok t ∧ t.baseName qualified = p.baseName qualified := by
  obtain ⟨t, ht, -⟩ := h.exists_type
  refine ⟨t, ht, ?_⟩
  rw [Param.baseName, TypeExpr.baseOfText_eq ht]
  rfl

theorem Param.agreePairwise_eq (qualified : Bool) {as bs : List Param}
    (ha : ∀ p ∈ as, p.Constructed) (hb : ∀ p ∈ bs, p.Constructed)
    (hlength : as.length = bs.length) :
    agreePairwise qualified as bs = .ok (decide (
      as.map (Param.baseName qualified) = bs.map (Param.baseName qualified))) := by
  induction as generalizing bs with
  | nil =>
    cases bs with
    | nil => rfl
    | cons b bs => cases hlength
  | cons a as ih =>
    cases bs with
    | nil => cases hlength
    | cons b bs =>
      obtain ⟨t, ht, hat⟩ := (ha a List.mem_cons_self).type_baseName qualified
      obtain ⟨u, hu, hbu⟩ := (hb b List.mem_cons_self).type_baseName qualified
      have hrest := ih (fun p hp => ha p (List.mem_cons_of_mem _ hp))
        (fun p hp => hb p (List.mem_cons_of_mem _ hp)) (Nat.succ.inj hlength)
      rw [agreePairwise, ht, hu]
      change (if t.sameBase qualified u then agreePairwise qualified as bs else .ok false) = _
      rw [hrest, TypeExpr.sameBase, hat, hbu]
      simp only [List.map_cons, List.cons.injEq, beq_iff_eq]
      split_ifs with h <;> simp [h]

namespace Method

def erasedSignature (m : Method) : Except Fault (Text × List Text) := do
  return (m.name, ← m.params.mapM fun p => p.type.map TypeExpr.name)

def erase (signature : Text × List Text) : Text × List Text :=
  (signature.1, signature.2.map TypeExpr.baseOfText)

def Constructed (m : Method) : Prop := ∀ p ∈ m.params, p.Constructed

theorem constructed_of_made {m : Method} {p : Param} {typeText name : Text}
    (h : Param.make typeText name = .ok p) (hparams : m.params = [p]) : m.Constructed := by
  intro q hq
  rw [hparams, List.mem_singleton] at hq
  exact hq ▸ .made h

theorem erase_signature (m : Method) :
    erase (m.signature true) = (m.name, m.params.map fun p => TypeExpr.baseOfText p.typeText) := by
  simp [erase, signature]

theorem Constructed.erasedSignature_eq {m : Method} (h : m.Constructed) :
    m.erasedSignature = .ok (erase (m.signature true)) := by
  rw [erasedSignature, mapM_eq_ok_map fun p hp => (h p hp).type_name, erase_signature]
  rfl

/-- Name and base names of the parameter types, which are all that methods are compared by. -/
def comparedBy (qualified : Bool) (m : Method) : Text × List Text :=
  (m.name, m.params.map (Param.baseName qualified))

theorem comparedBy_true (m : Method) : m.comparedBy true = erase (m.signature true) := by
  rw [erase_signature]
  rfl

theorem agrees_eq_decide (qualified : Bool) {a b : Method} (ha : a.Constructed)
    (hb : b.Constructed) :
    a.agrees qualified b = .ok (decide (a.comparedBy qualified = b.comparedBy qualified)) := by
  rw [agrees]
  simp only [comparedBy, Prod.mk.injEq]
  split_ifs with hname
  · rw [Param.agree]
    split_ifs with hlength
    · rw [Param.agreePairwise_eq qualified ha hb hlength]
      simp [hname]
    · have hne : a.params.map (Param.baseName qualified) ≠
          b.params.map (Param.baseName qualified) :=
        fun h => hlength (by simpa using congrArg List.length h)
      simp [hne, pure, Except.pure]
  · simp [hname, pure, Except.pure]

theorem agrees_eq {a b : Method} (ha : a.Constructed) (hb : b.Constructed) :
    a.agrees true b = .ok (decide (erase (a.signature true) = erase (b.signature true))) := by
  rw [agrees_eq_decide true ha hb, comparedBy_true, comparedBy_true]

theorem firstMatch?_eq (qualified : Bool) {wanted : Method} {bucket : List Method}
    (hwanted : wanted.Constructed) (hbucket : ∀ m ∈ bucket, m.Constructed) :
    firstMatch? qualified wanted bucket =
      .ok (bucket.findIdx? fun m => m.comparedBy qualified = wanted.comparedBy qualified) := by
  induction bucket with
  | nil => rfl
  | cons m rest ih =>
    have hrest := ih fun m' hm' => hbucket m' (List.mem_cons_of_mem _ hm')
    rw [firstMatch?, agrees_eq_decide qualified (hbucket m List.mem_cons_self) hwanted, hrest,
      List.findIdx?_cons]
    by_cases h : m.comparedBy qualified = wanted.comparedBy qualified <;>
      simp [h, bind, Except.bind, pure, Except.pure]

theorem findMatch?_eq {wanted : Method} {bucket : List Method} (hwanted : wanted.Constructed)
    (hbucket : ∀ m ∈ bucket, m.Constructed) :
    wanted.findMatch? true bucket =
      .ok (bucket.find? fun m => erase (m.signature true) = erase (wanted.signature true)) := by
  rw [findMatch?, firstMatch?_eq true hwanted hbucket, List.find?_eq_bind_findIdx?_getElem?]
  simp only [comparedBy_true]
  rfl

end Method

def ObservedMethod.erasedSignature (m : ObservedMethod) : Except Fault (Text × List Text) := do
  (← m.toMethod).erasedSignature

end ApiStubs
