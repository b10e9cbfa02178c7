import ApiStubs.Proofs.Json.Scalar

/-! Reading what was written. A value without floating numbers is read back from its text, provided
that its strings are whole, its keys distinct and its numbers and its nesting within the limits. -/

namespace ApiStubs.Json

/-- A value that its text says in full, with at most so many arrays and objects in each other. -/
inductive Plain : Nat → Json → Prop
  | null {levels : Nat} : Plain levels .null
  | bool {levels : Nat} {b : Bool} : Plain levels (.bool b)
  | int {levels : Nat} {i : Int} :
    (decimal i.natAbs).length ≤ Digits.limit → Plain levels (.int i)
  | str {levels : Nat} {s : Text} : s.isTorn = false → Plain levels (.str s)
  | arr {levels : Nat} {items : List Json} :
      (∀ item ∈ items, Plain levels item) → Plain (levels + 1) (.arr items)
  | obj {levels : Nat} {members : List (Text × Json)} :
      (members.map Prod.fst).Nodup → (∀ member ∈ members, member.1.isTorn = false) →
        (∀ member ∈ members, Plain levels member.2) → Plain (levels + 1) (.obj members)

def IsBeginning (c : CodePoint) : Prop :=
  isSpace c = false ∧ c ≠ ']' ∧ c ≠ '}' ∧ c ≠ .ofNat 0xFEFF

instance (c : CodePoint) : Decidable (IsBeginning c) := inferInstanceAs (Decidable (_ ∧ _))

theorem isBeginning_of_isDigit {c : CodePoint} (hc : Digits.isDigit c = true) : IsBeginning c := by
  have hne := ne_of_isDigit hc
  refine ⟨?_, (hne ']' rfl).symm, (hne '}' rfl).symm, ?_⟩
  · simp [isSpace, (hne ' ' rfl).symm, (hne '\t' rfl).symm, (hne '\n' rfl).symm,
      (hne '\r' rfl).symm]
  · rintro rfl
    exact absurd hc (by decide)

def Begins (text : Text) : Prop := ∃ c more, text = c :: more ∧ IsBeginning c

namespace Begins

variable {text : Text}

theorem append (h : Begins text) (rest : Text) : Begins (text ++ rest) := by
  obtain ⟨c, more, rfl, hc⟩ := h
  exact ⟨c, more ++ rest, rfl, hc⟩

theorem skipSpace (h : Begins text) : skipSpace text = text := by
  obtain ⟨c, more, rfl, hspace, -⟩ := h
  exact List.dropWhile_cons_of_neg (by simp [hspace])

theorem length_pos (h : Begins text) : 0 < text.length := by
  obtain ⟨c, more, rfl, -⟩ := h
  exact Nat.zero_lt_succ _

end Begins

theorem skipSpace_newline (depth : Nat) (text : Text) :
    skipSpace (newline depth ++ text) = skipSpace text := by
  have hspaces : ∀ c ∈ newline depth, isSpace c = true := by
    intro c hc
    rcases List.mem_cons.1 hc with rfl | hc
    · rfl
    · rw [List.eq_of_mem_replicate hc]
      rfl
  exact List.dropWhile_append_of_pos hspaces

theorem ends_newline (depth : Nat) (text : Text) : Ends (newline depth ++ text) := by
  rintro c ⟨⟩
  exact .inr rfl

theorem ends_comma (text : Text) : Ends (.char ',' :: text) := by
  rintro c ⟨⟩
  exact .inl rfl

theorem stringText_append (s rest : Text) :
    stringText s ++ rest = .char '"' :: (s.flatMap escape ++ .char '"' :: rest) := by
  have hquote : Text.ofString "\"" = [.char '"'] := rfl
  rw [stringText, hquote]
  simp

theorem begins_stringText (s : Text) : Begins (stringText s) := by
  rw [← List.append_nil (stringText s), stringText_append]
  exact ⟨'"', _, rfl, by decide⟩

theorem length_stringText (s : Text) : s.length + 2 ≤ (stringText s).length := by
  have hescape := length_le_escape s
  have hlength := congrArg List.length (stringText_append s [])
  simp only [List.append_nil, List.length_cons, List.length_append, List.length_nil] at hlength
  omega

section Pieces

variable {levels fuel : Nat} {text rest after : Text} {j : Json}

theorem readValue_str {s : Text} (h : readString fuel text = .ok (s, rest)) :
    readValue levels (fuel + 1) (.char '"' :: text) = .ok (.str s, rest) := by
  rw [readValue, h]
  rfl

section Brackets

variable {body : Text} (hbody : skipSpace text = body) (hbegins : Begins body)

include hbody hbegins

theorem readValue_arr {items : List Json} (h : readItems levels fuel body = .ok (items, rest)) :
    readValue (levels + 1) (fuel + 1) (.char '[' :: text) = .ok (.arr items, rest) := by
  obtain ⟨c, more, rfl, -, hclose, -⟩ := hbegins
  rw [readValue, hbody]
  split
  · rename_i heq
    exact absurd (List.cons.inj heq).1 hclose
  · rw [h]
    rfl

theorem readValue_obj {members : List (Text × Json)}
    (h : readMembers levels fuel [] body = .ok (members, rest)) :
    readValue (levels + 1) (fuel + 1) (.char '{' :: text) = .ok (.obj members, rest) := by
  obtain ⟨c, more, rfl, -, -, hclose, -⟩ := hbegins
  rw [readValue, hbody]
  split
  · rename_i heq
    exact absurd (List.cons.inj heq).1 hclose
  · rw [h]
    rfl

end Brackets

theorem readValue_scalar {c : CodePoint} (hc : c ≠ '"' ∧ c ≠ '{' ∧ c ≠ '[') :
    readValue levels (fuel + 1) (c :: text) = readScalar (c :: text) := by
  rw [readValue]
  all_goals simp_all

theorem readItems_last {item : Json} (h : readValue levels fuel text = .ok (item, after))
    (hafter : skipSpace after = .char ']' :: rest) :
    readItems levels (fuel + 1) text = .ok ([item], rest) := by
  simp only [readItems, h, hafter, bind, Except.bind]
  rfl

theorem readItems_more {item : Json} {items : List Json}
    (h : readValue levels fuel text = .ok (item, .char ',' :: after))
    (hmore : readItems levels fuel (skipSpace after) = .ok (items, rest)) :
    readItems levels (fuel + 1) text = .ok (item :: items, rest) := by
  have hcomma : skipSpace (.char ',' :: after) = .char ',' :: after := rfl
  simp only [readItems, h, hcomma, hmore, bind, Except.bind]
  rfl

section Members

variable {read : List (Text × Json)} {key written : Text} (hkey : key.isTorn = false)
  (hfuel : key.length < fuel) (hwritten : skipSpace text = written)

include hkey hfuel hwritten

theorem readMembers_last (h : readValue levels fuel written = .ok (j, after))
    (hafter : skipSpace after = .char '}' :: rest) :
    readMembers levels (fuel + 1) read (stringText key ++ .char ':' :: text) =
      .ok (insert read key j, rest) := by
  have hcolon : skipSpace (.char ':' :: text) = .char ':' :: text := rfl
  rw [stringText_append]
  simp only [readMembers, readString_escape hkey hfuel, hcolon, hwritten, h, hafter, bind,
    Except.bind]
  rfl

theorem readMembers_more {members : List (Text × Json)}
    (h : readValue levels fuel written = .ok (j, .char ',' :: after))
    (hmore : readMembers levels fuel (insert read key j) (skipSpace after) = .ok (members, rest)) :
    readMembers levels (fuel + 1) read (stringText key ++ .char ':' :: text) =
      .ok (members, rest) := by
  have hcolon : skipSpace (.char ':' :: text) = .char ':' :: text := rfl
  have hcomma : skipSpace (.char ',' :: after) = .char ',' :: after := rfl
  rw [stringText_append]
  simp only [readMembers, readString_escape hkey hfuel, hcolon, hwritten, h, hcomma, hmore, bind,
    Except.bind]

end Members
end Pieces

theorem insert_of_new {members : List (Text × Json)} {key : Text}
    (h : key ∉ members.map Prod.fst) (j : Json) : insert members key j = members ++ [(key, j)] := by
  induction members with
  | nil => rfl
  | cons first rest ih =>
    rw [List.map_cons, List.mem_cons, not_or] at h
    rw [insert, if_neg (Ne.symm h.1), ih h.2]
    rfl

/-- Wherever the value is written in a longer text, it is read and the rest is left. -/
def ReadsBack (levels : Nat) (j : Json) : Prop :=
  ∀ depth fuel rest, Ends rest → 2 * (j.pretty depth).length ≤ fuel →
    readValue levels fuel (j.pretty depth ++ rest) = .ok (j, rest)

theorem begins_enclose {opening closing : CodePoint} (h : IsBeginning opening) (depth : Nat)
    (contents : Text) : Begins (enclose opening closing depth contents) := by
  rw [enclose]
  split
  · exact ⟨opening, _, rfl, h⟩
  · exact ⟨opening, _, rfl, h⟩

theorem Plain.begins {levels : Nat} {j : Json} (h : Plain levels j) (depth : Nat) :
    Begins (j.pretty depth) := by
  cases h with
  | null => exact ⟨'n', _, rfl, by decide⟩
  | @bool _ b =>
    cases b with
    | true => exact ⟨'t', _, rfl, by decide⟩
    | false => exact ⟨'f', _, rfl, by decide⟩
  | @int _ i =>
    obtain ⟨c, more, htext, rfl | hdigit⟩ := exists_cons_int i
    · exact ⟨'-', more, htext, by decide⟩
    · exact ⟨c, more, htext, isBeginning_of_isDigit hdigit⟩
  | @str _ s => exact begins_stringText s
  | arr _ =>
    rw [pretty]
    exact begins_enclose (by decide) _ _
  | obj _ _ _ =>
    rw [pretty]
    exact begins_enclose (by decide) _ _

section Contents

variable {levels depth : Nat}

theorem prettyItems_cons (item next : Json) (more : List Json) :
    prettyItems depth (item :: next :: more) =
      item.pretty depth ++ .char ',' :: (newline depth ++ prettyItems depth (next :: more)) := by
  rw [prettyItems]
  · simp [Text.ofString]
  · simp

theorem prettyMembers_cons (key : Text) (j : Json) (next : Text × Json)
    (more : List (Text × Json)) :
    prettyMembers depth ((key, j) :: next :: more) =
      stringText key ++ .char ':' :: .char ' ' :: (j.pretty depth ++
        .char ',' :: (newline depth ++ prettyMembers depth (next :: more))) := by
  rw [prettyMembers]
  · simp [Text.ofString]
  · simp

theorem prettyMembers_singleton (key : Text) (j : Json) :
    prettyMembers depth [(key, j)] =
      stringText key ++ .char ':' :: .char ' ' :: j.pretty depth := by
  rw [prettyMembers]
  simp [Text.ofString]

theorem begins_prettyMembers (member : Text × Json) (more : List (Text × Json)) :
    Begins (prettyMembers depth (member :: more)) := by
  obtain ⟨key, j⟩ := member
  have hkey : Begins (stringText key) := begins_stringText key
  cases more with
  | nil =>
    rw [prettyMembers_singleton]
    exact hkey.append _
  | cons next more =>
    rw [prettyMembers_cons]
    exact hkey.append _

theorem begins_prettyItems {item : Json} (h : Begins (item.pretty depth)) (more : List Json) :
    Begins (prettyItems depth (item :: more)) := by
  cases more with
  | nil => exact h
  | cons next more => exact prettyItems_cons item next more ▸ h.append _

theorem readItems_pretty {items : List Json} (hne : items ≠ [])
    (hbegins : ∀ item ∈ items, Begins (item.pretty depth))
    (hreads : ∀ item ∈ items, ReadsBack levels item) {fuel : Nat}
    (hfuel : 2 * (prettyItems depth items).length < fuel) (outer : Nat) (rest : Text) :
    readItems levels fuel
      (prettyItems depth items ++ (newline outer ++ .char ']' :: rest)) = .ok (items, rest) := by
  induction items generalizing fuel with
  | nil => exact absurd rfl hne
  | cons item more ih =>
    obtain ⟨fuel, rfl⟩ := Nat.exists_eq_succ_of_ne_zero (Nat.ne_of_gt (Nat.zero_lt_of_lt hfuel))
    have hitem := hreads item List.mem_cons_self
    cases more with
    | nil =>
      have hvalue := hitem depth fuel _ (ends_newline outer (.char ']' :: rest))
        (Nat.le_of_lt_succ hfuel)
      exact readItems_last hvalue (skipSpace_newline outer _)
    | cons next more =>
      rw [prettyItems_cons] at hfuel ⊢
      simp only [List.length_append, List.length_cons] at hfuel
      rw [List.append_assoc, List.cons_append, List.append_assoc]
      refine readItems_more (hitem depth fuel _ (ends_comma _) (by omega)) ?_
      have hnext := begins_prettyItems (hbegins next (by simp)) more
      rw [skipSpace_newline, (hnext.append _).skipSpace]
      exact ih (List.cons_ne_nil _ _) (fun d hd => hbegins d (List.mem_cons_of_mem _ hd))
        (fun d hd => hreads d (List.mem_cons_of_mem _ hd)) (by omega)

theorem readMembers_pretty {members : List (Text × Json)} (hne : members ≠ [])
    (htorn : ∀ member ∈ members, member.1.isTorn = false)
    (hbegins : ∀ member ∈ members, Begins (member.2.pretty depth))
    (hreads : ∀ member ∈ members, ReadsBack levels member.2) {fuel : Nat}
    (hfuel : 2 * (prettyMembers depth members).length < fuel) (outer : Nat) (rest : Text)
    {before : List (Text × Json)} (hnew : ((before ++ members).map Prod.fst).Nodup) :
    readMembers levels fuel before
      (prettyMembers depth members ++ (newline outer ++ .char '}' :: rest)) =
        .ok (before ++ members, rest) := by
  induction members generalizing fuel before with
  | nil => exact absurd rfl hne
  | cons member more ih =>
    obtain ⟨fuel, rfl⟩ := Nat.exists_eq_succ_of_ne_zero (Nat.ne_of_gt (Nat.zero_lt_of_lt hfuel))
    obtain ⟨key, j⟩ := member
    have hj : ReadsBack levels j := hreads (key, j) List.mem_cons_self
    have hkey : key.isTorn = false := htorn (key, j) List.mem_cons_self
    have hlength := length_stringText key
    have hspace (text : Text) : skipSpace (.char ' ' :: (j.pretty depth ++ text)) =
        j.pretty depth ++ text :=
      ((hbegins (key, j) List.mem_cons_self).append text).skipSpace
    have hinsert : insert before key j = before ++ [(key, j)] := by
      refine insert_of_new (fun hold => ?_) j
      rw [List.map_append] at hnew
      exact (List.nodup_append.1 hnew).2.2 key hold key List.mem_cons_self rfl
    cases more with
    | nil =>
      rw [prettyMembers_singleton] at hfuel ⊢
      simp only [List.length_append, List.length_cons] at hfuel
      rw [← hinsert, List.append_assoc, List.cons_append, List.cons_append]
      exact readMembers_last hkey (by omega) (hspace _)
        (hj depth fuel _ (ends_newline outer _) (by omega)) (skipSpace_newline outer _)
    | cons next more =>
      rw [prettyMembers_cons] at hfuel ⊢
      simp only [List.length_append, List.length_cons] at hfuel
      rw [List.append_assoc, List.cons_append, List.cons_append, List.append_assoc,
        List.cons_append, List.append_assoc]
      refine readMembers_more hkey (by omega) (hspace _)
        (hj depth fuel _ (ends_comma _) (by omega)) ?_
      have hnext : Begins (prettyMembers depth (next :: more)) := begins_prettyMembers next more
      have hsplit := List.append_cons before (key, j) (next :: more)
      rw [skipSpace_newline, (hnext.append _).skipSpace, hinsert, hsplit]
      exact ih (List.cons_ne_nil _ _) (fun d hd => htorn d (List.mem_cons_of_mem _ hd))
        (fun d hd => hbegins d (List.mem_cons_of_mem _ hd))
        (fun d hd => hreads d (List.mem_cons_of_mem _ hd)) (by omega) (hsplit ▸ hnew)

end Contents

theorem enclose_append {contents : Text} (hne : contents ≠ []) (opening closing : CodePoint)
    (depth : Nat) (rest : Text) :
    enclose opening closing depth contents ++ rest =
      opening :: (newline (depth + 1) ++ (contents ++ (newline depth ++ closing :: rest))) := by
  rw [enclose, if_neg (by simpa using hne)]
  simp

theorem length_enclose {contents : Text} (hne : contents ≠ []) (opening closing : CodePoint)
    (depth : Nat) :
    contents.length + 2 ≤ (enclose opening closing depth contents).length := by
  have hlength := congrArg List.length (enclose_append hne opening closing depth [])
  simp only [List.append_nil, List.length_cons, List.length_append, List.length_nil] at hlength
  omega

theorem ReadsBack.of_succ {levels : Nat} {j : Json} (hbegins : ∀ depth, Begins (j.pretty depth))
    (h : ∀ depth fuel rest, Ends rest → 2 * (j.pretty depth).length ≤ fuel + 1 →
      readValue levels (fuel + 1) (j.pretty depth ++ rest) = .ok (j, rest)) :
    ReadsBack levels j := by
  intro depth fuel rest hrest hfuel
  have hpos := (hbegins depth).length_pos
  obtain ⟨fuel, rfl⟩ : ∃ k, fuel = k + 1 := Nat.exists_eq_succ_of_ne_zero (by omega)
  exact h depth fuel rest hrest hfuel

theorem Plain.readsBack {levels : Nat} {j : Json} (h : Plain levels j) : ReadsBack levels j := by
  refine .of_succ h.begins ?_
  induction h with
  | null => exact fun _ _ _ _ _ => rfl
  | @bool _ b => cases b <;> exact fun _ _ _ _ _ => rfl
  | @int levels i h =>
    intro depth fuel rest hrest hfuel
    obtain ⟨c, more, htext, hc⟩ := exists_cons_int i
    have hmark : c ≠ '"' ∧ c ≠ '{' ∧ c ≠ '[' := by
      rcases hc with rfl | hdigit
      · decide
      · have hne := ne_of_isDigit hdigit
        exact ⟨(hne '"' rfl).symm, (hne '{' rfl).symm, (hne '[' rfl).symm⟩
    rw [pretty, ← readScalar_int h hrest, htext]
    exact readValue_scalar hmark
  | @str _ s h =>
    intro depth fuel rest hrest hfuel
    have hlength := length_stringText s
    rw [pretty] at hfuel
    rw [pretty, stringText_append]
    exact readValue_str (readString_escape h (by omega) rest)
  | @arr _ items hplain ih =>
    intro depth fuel rest hrest hfuel
    cases items with
    | nil => rfl
    | cons item more =>
      have hbegins : Begins (prettyItems (depth + 1) (item :: more)) :=
        begins_prettyItems ((hplain item List.mem_cons_self).begins (depth + 1)) more
      have hne := List.ne_nil_of_length_pos hbegins.length_pos
      have hlength := length_enclose hne '[' ']' depth
      rw [pretty] at hfuel
      rw [pretty, enclose_append hne]
      refine readValue_arr ((skipSpace_newline _ _).trans (hbegins.append _).skipSpace)
        (hbegins.append _) ?_
      exact readItems_pretty (List.cons_ne_nil _ _) (fun d hd => (hplain d hd).begins _)
        (fun d hd => .of_succ (hplain d hd).begins (ih d hd)) (by omega) depth rest
  | @obj _ members hkeys htorn hplain ih =>
    intro depth fuel rest hrest hfuel
    cases members with
    | nil => rfl
    | cons member more =>
      have hbegins : Begins (prettyMembers (depth + 1) (member :: more)) :=
        begins_prettyMembers member more
      have hne := List.ne_nil_of_length_pos hbegins.length_pos
      have hlength := length_enclose hne '{' '}' depth
      rw [pretty] at hfuel
      rw [pretty, enclose_append hne]
      refine readValue_obj ((skipSpace_newline _ _).trans (hbegins.append _).skipSpace)
        (hbegins.append _) ?_
      exact readMembers_pretty (List.cons_ne_nil _ _) htorn (fun d hd => (hplain d hd).begins _)
        (fun d hd => .of_succ (hplain d hd).begins (ih d hd)) (by omega) depth rest hkeys

theorem readText_write [DepthLimit] {j : Json} (h : Plain DepthLimit.levels j) :
    readText j.write = .ok j := by
  have hbegins := h.begins 0
  have hread := h.readsBack 0 (2 * (j.pretty 0).length + 2) [] nofun (Nat.le_add_right _ _)
  have hmark : (j.pretty 0).head? ≠ some (.ofNat 0xFEFF) := by
    obtain ⟨c, more, htext, -, -, -, hc⟩ := hbegins
    rw [htext]
    exact fun h => hc (Option.some.inj h)
  rw [List.append_nil] at hread
  rw [write, readText, if_neg hmark, hbegins.skipSpace]
  simp only [hread, bind, Except.bind]
  rfl

end ApiStubs.Json
