import ApiStubs.Files.Tree
import ApiStubs.Proofs.Files.Path
import ApiStubs.Proofs.Validation.Checked

/-! Names that a file can be asked for by. A path of such names can be asked for, so that what keeps
its file from being read is said by those who keep the files. -/

namespace ApiStubs

namespace Utf8

variable {text : Text}

/-- Octets of a name stand for each code point, and none of them is null. -/
def Nameable (text : Text) : Prop :=
  ∀ c ∈ text, ∃ octets, octetsInName? c = some octets ∧ 0 ∉ octets

theorem Nameable.subset {part : Text} (h : Nameable text) (hsub : part ⊆ text) : Nameable part :=
  fun c hc => h c (hsub hc)

theorem encodeWith_eq_ok_iff {octets? : CodePoint → Option (List UInt8)} {octets : List UInt8} :
    encodeWith octets? text = .ok octets ↔ (∀ c ∈ text, (octets? c).isSome = true) ∧
      octets = text.flatMap fun c => (octets? c).getD [] := by
  have hall : (text.dropWhile fun c => (octets? c).isSome) = [] ↔
      ∀ c ∈ text, (octets? c).isSome = true := List.dropWhile_eq_nil_iff
  rw [encodeWith, ← hall]
  cases text.dropWhile fun c => (octets? c).isSome <;> simp [eq_comm]

theorem nameable_iff : Nameable text ↔ ∃ octets, encodeName text = .ok octets ∧ 0 ∉ octets := by
  simp only [encodeName, encodeWith_eq_ok_iff]
  constructor
  · intro h
    refine ⟨_, ⟨fun c hc => ?_, rfl⟩, fun hnull => ?_⟩
    · obtain ⟨octets, hoctets, -⟩ := h c hc
      rw [hoctets]
      rfl
    · obtain ⟨c, hc, hnull⟩ := List.mem_flatMap.1 hnull
      obtain ⟨octets, hoctets, hnot⟩ := h c hc
      rw [hoctets] at hnull
      exact hnot hnull
  · rintro ⟨_, ⟨hall, rfl⟩, hnull⟩ c hc
    obtain ⟨octets, hoctets⟩ := Option.isSome_iff_exists.1 (hall c hc)
    refine ⟨octets, hoctets, fun hmem => hnull (List.mem_flatMap.2 ⟨c, hc, ?_⟩)⟩
    rw [hoctets]
    exact hmem

end Utf8

open Utf8 (Nameable)

namespace Path

variable {p : Path} {text : Text}

def Nameable (p : Path) : Prop := ∀ segment ∈ p.segments, Utf8.Nameable segment

theorem nameable_ofText (h : Utf8.Nameable text) : (ofText text).Nameable := by
  intro segment hsegment
  exact h.subset fun c hc => Text.mem_of_mem_splitWhen (List.mem_of_mem_filter hsegment) hc

theorem Nameable.render (h : p.Nameable) : Utf8.Nameable p.render := by
  have hmarks : ∀ c ∈ Text.ofString "./", ∃ octets, Utf8.octetsInName? c = some octets ∧
      0 ∉ octets := by
    intro c hc
    rcases List.mem_pair.1 hc with rfl | rfl
    · exact ⟨_, rfl, by decide⟩
    · exact ⟨_, rfl, by decide⟩
  intro c hc
  rw [Path.render] at hc
  split_ifs at hc
  · exact hmarks c (List.mem_append_left (Text.ofString "/") hc)
  · rcases List.mem_append.1 hc with hc | hc
    · rw [List.eq_of_mem_replicate hc]
      exact hmarks _ (List.mem_cons_of_mem _ List.mem_cons_self)
    · rcases Text.mem_of_mem_join hc with hc | ⟨segment, hsegment, hc⟩
      · exact hmarks c (List.mem_append_right (Text.ofString ".") hc)
      · exact h segment hsegment c hc

end Path

namespace FileTree

variable {t : FileTree} {p : Path} {fault : FileFault}

theorem refused_of_locate (hp : p.Nameable) (h : t.locate p = .error fault) :
    ∃ problem asked, fault = .refused problem asked := by
  obtain ⟨octets, hoctets, hnull⟩ := Utf8.nameable_iff.1 hp.render
  obtain ⟨names, hnames⟩ : ∃ names, p.segments.mapM Utf8.encodeName = .ok names :=
    exists_mapM_eq_ok fun segment hsegment =>
      (Utf8.nameable_iff.1 (hp segment hsegment)).imp fun _ => And.left
  have hcontains : octets.contains 0 = false := by simpa using hnull
  rw [locate, hoctets, hnames] at h
  change (if octets.contains 0 = true then _ else _) = _ at h
  rw [if_neg (Bool.eq_false_iff.1 hcontains)] at h
  split_ifs at h
  · cases hwalk : t.walk (Place.ofSlashes p.slashes) names with
    | ok place =>
      rw [hwalk] at h
      cases h
    | error problem =>
      rw [hwalk] at h
      cases h
      exact ⟨problem, p, rfl⟩
  · cases h
    exact ⟨_, _, rfl⟩

theorem refused_of_read (hp : p.Nameable) (h : t.read p = .error fault) :
    ∃ problem asked, fault = .refused problem asked := by
  rcases bind_eq_error_iff.1 h with hnode | ⟨node, -, hnode⟩
  · rcases bind_eq_error_iff.1 hnode with hlocate | ⟨place, -, hplace⟩
    · exact refused_of_locate hp hlocate
    · split at hplace
      · cases hplace
      · cases hplace
        exact ⟨_, _, rfl⟩
  · cases node with
    | file octets => cases hnode
    | directory =>
      cases hnode
      exact ⟨_, _, rfl⟩

end FileTree
end ApiStubs
