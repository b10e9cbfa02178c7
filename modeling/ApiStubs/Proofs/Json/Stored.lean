import ApiStubs.Files.Tree
import ApiStubs.Proofs.Json.Reading
import ApiStubs.Proofs.Number.Shortest
import ApiStubs.Proofs.Text.Lines
import ApiStubs.Proofs.Text.Utf8

/-! JSON text in files. Its only line ends are line feeds, so that no reader of files changes it, and
no half of a surrogate pair stands in it unescaped. -/

namespace ApiStubs

/-- What was written for a text without carriage returns is read as that text. -/
theorem FileTree.readText_of_read {t : FileTree} {p : Path} {text : Text} {octets : List UInt8}
    (hread : t.read p = .ok octets) (hencode : Utf8.encode text = .ok octets)
    (hreturn : .char '\r' ∉ text) : t.readText p = .ok text := by
  rw [readText, hread]
  simp only [Utf8.decode_of_encode hencode, Text.unifyNewlines_of_not_mem hreturn]

namespace Json

def isPrinted (c : CodePoint) : Bool := c != .char '\r' && !c.isSurrogate

def Printed (text : Text) : Prop := ∀ c ∈ text, isPrinted c = true

instance (text : Text) : Decidable (Printed text) :=
  inferInstanceAs (Decidable (∀ c ∈ text, isPrinted c = true))

theorem Printed.append {s t : Text} (hs : Printed s) (ht : Printed t) : Printed (s ++ t) :=
  List.forall_mem_append.2 ⟨hs, ht⟩

theorem Printed.cons {c : CodePoint} {s : Text} (hc : isPrinted c = true) (hs : Printed s) :
    Printed (c :: s) :=
  List.forall_mem_cons.2 ⟨hc, hs⟩

theorem printed_hexDigits (width n : Nat) : Printed (Text.hexDigits width n) := by
  have hdigit : ∀ n < 16, isPrinted (Text.hexDigit n) = true := by decide
  induction width generalizing n with
  | zero => exact List.forall_mem_nil _
  | succ width ih =>
    exact (ih _).append (List.forall_mem_singleton.2 (hdigit _ (Nat.mod_lt n (by decide))))

theorem printed_escape (c : CodePoint) : Printed (escape c) := by
  rw [escape]
  split_ifs with hmark hnewline hreturn htab hback hfeed hcontrol
  · rcases hmark with rfl | rfl <;> decide
  · decide
  · decide
  · decide
  · decide
  · decide
  · exact .cons rfl (.cons rfl (printed_hexDigits 4 c.toNat))
  · refine List.forall_mem_singleton.2 ?_
    simp_all [isPrinted]

theorem printed_stringText (s : Text) : Printed (stringText s) := by
  refine Printed.append (.append (by decide) fun c hc => ?_) (by decide)
  obtain ⟨d, -, hd⟩ := List.mem_flatMap.1 hc
  exact printed_escape d c hd

theorem printed_chars {cs : List Char} (h : '\r' ∉ cs) : Printed (cs.map .char) := by
  intro c hc
  obtain ⟨d, hd, rfl⟩ := List.mem_map.1 hc
  have hreturn : d ≠ '\r' := fun heq => h (heq ▸ hd)
  simp [isPrinted, hreturn, CodePoint.isSurrogate]

theorem printed_decimal (n : Nat) : Printed (decimal n) :=
  printed_chars fun h => by cases Nat.isDigit_of_mem_toDigits (by decide) (by decide) h

theorem printed_toString (i : Int) : Printed (Text.ofString (toString i)) := by
  rw [ofString_toString_int]
  split
  · exact .cons rfl (printed_decimal _)
  · exact printed_decimal _

theorem printed_floatText (x : Binary64) : Printed (floatText x) := by
  cases x with
  | nan => decide
  | infinity negative => cases negative <;> decide
  | finite negative mantissa exponent =>
    exact printed_chars fun h => by cases Binary64.isOfNumber_text h

section Contents

variable {depth : Nat}

theorem printed_newline (depth : Nat) : Printed (newline depth) := by
  refine .cons rfl fun c hc => ?_
  rw [List.eq_of_mem_replicate hc]
  rfl

theorem printed_enclose {opening closing : CodePoint} {contents : Text}
    (hmarks : Printed [opening, closing]) (h : Printed contents) :
    Printed (enclose opening closing depth contents) := by
  rw [enclose]
  split
  · exact hmarks
  · obtain ⟨hopening, hclosing⟩ := List.forall_mem_cons.1 hmarks
    exact .append (.append (.append (.cons hopening (printed_newline _)) h) (printed_newline _))
      hclosing

end Contents

mutual

theorem printed_pretty (depth : Nat) (j : Json) : Printed (j.pretty depth) := by
  cases j with
  | null =>
    rw [pretty]
    decide
  | bool b =>
    rw [pretty]
    revert b
    decide
  | int i =>
    rw [pretty]
    exact printed_toString i
  | float x =>
    rw [pretty]
    exact printed_floatText x
  | str s =>
    rw [pretty]
    exact printed_stringText s
  | arr items =>
    rw [pretty]
    exact printed_enclose (by decide) (printed_prettyItems (depth + 1) items)
  | obj members =>
    rw [pretty]
    exact printed_enclose (by decide) (printed_prettyMembers (depth + 1) members)

theorem printed_prettyItems (depth : Nat) (items : List Json) :
    Printed (prettyItems depth items) := by
  match items with
  | [] => exact List.forall_mem_nil _
  | [item] =>
    rw [prettyItems]
    exact printed_pretty depth item
  | item :: next :: rest =>
    rw [prettyItems_cons]
    exact (printed_pretty depth item).append (.cons rfl ((printed_newline depth).append
      (printed_prettyItems depth (next :: rest))))

theorem printed_prettyMembers (depth : Nat) (members : List (Text × Json)) :
    Printed (prettyMembers depth members) := by
  match members with
  | [] => exact List.forall_mem_nil _
  | [(key, value)] =>
    rw [prettyMembers_singleton]
    exact (printed_stringText key).append (.cons rfl (.cons rfl (printed_pretty depth value)))
  | (key, value) :: next :: rest =>
    rw [prettyMembers_cons]
    exact (printed_stringText key).append (.cons rfl (.cons rfl ((printed_pretty depth value).append
      (.cons rfl ((printed_newline depth).append (printed_prettyMembers depth (next :: rest)))))))

end

theorem not_mem_write (j : Json) : .char '\r' ∉ j.write := fun h => by
  cases printed_pretty 0 j _ h

theorem exists_encode_write (j : Json) : ∃ octets, Utf8.encode j.write = .ok octets := by
  refine Utf8.exists_encode_iff.2 (List.any_eq_false.2 fun c hc hsurrogate => ?_)
  have hprinted := printed_pretty 0 j c hc
  simp [isPrinted, hsurrogate] at hprinted

end Json
end ApiStubs
