import ApiStubs.Files.Tree
import ApiStubs.Proofs.Files.Path
import ApiStubs.Proofs.Validation.Checked

/-! Trees of files that agree below a root. What is read below the root is then the same, as when a
file at the top comes to be and the root is named from the working directory. -/

namespace ApiStubs

theorem mem_of_lookup {α β : Type} [BEq α] [LawfulBEq α] {entries : List (α × β)} {key : α}
    {value : β} (h : entries.lookup key = some value) : (key, value) ∈ entries := by
  obtain ⟨before, after, hentries, -⟩ := List.lookup_eq_some_iff.1 h
  rw [hentries]
  exact List.mem_append_right before List.mem_cons_self

theorem lookup_filter_ne {α β : Type} [BEq α] [LawfulBEq α] [DecidableEq α]
    {entries : List (α × β)} {key other : α} (h : other ≠ key) :
    (entries.filter (·.1 ≠ key)).lookup other = entries.lookup other := by
  induction entries with
  | nil => rfl
  | cons entry rest ih =>
    by_cases hkey : entry.1 = key
    · have hne : (other == entry.1) = false := by simpa [hkey] using h
      rw [List.filter_cons_of_neg (by simp [hkey]), ih, List.lookup_cons, hne]
    · rw [List.filter_cons_of_pos (by simpa using hkey), List.lookup_cons, List.lookup_cons, ih]

theorem Place.base_up_ne_top {place : Place} (h : place.base ≠ .top) : place.up.base ≠ .top := by
  rw [Place.up]
  split
  · exact h
  · exact nofun
  · exact h

namespace FileTree

variable {root file : Path} {t files₁ files₂ : FileTree} {place target : Place} {node : Node}

def AgreeUnder (root : Path) (files₁ files₂ : FileTree) : Prop :=
  ∀ file : Path, file.IsUnder root → files₁.nodeAt file = files₂.nodeAt file

theorem AgreeUnder.isFile_eq (h : AgreeUnder root files₁ files₂) (hfile : file.IsUnder root) :
    files₁.isFile file = files₂.isFile file := by
  rw [isFile, isFile, look, look, h file hfile]

theorem AgreeUnder.readText_eq (h : AgreeUnder root files₁ files₂) (hfile : file.IsUnder root) :
    files₁.readText file = files₂.readText file := by
  rw [readText, readText, read, read, h file hfile]

theorem node?_put_of_ne (h : place ≠ target) :
    (t.put target node).node? place = t.node? place := by
  rw [node?, node?, put, List.lookup_cons, beq_eq_false_iff_ne.2 h]
  dsimp only
  rw [lookup_filter_ne h]

/-- A walk that does not start at the top never comes there. -/
theorem base_walk_ne_top (hplace : place.base ≠ .top) {names : List (List UInt8)} {goal : Place}
    (h : t.walk place names = .ok goal) : goal.base ≠ .top := by
  induction names generalizing place with
  | nil => exact Except.ok.inj h ▸ hplace
  | cons name rest ih =>
    rw [walk] at h
    split at h
    · cases h
    · cases h
    · split_ifs at h
      · exact ih (Place.base_up_ne_top hplace) h
      · have hentered : (place.enter name).base ≠ .top := hplace
        exact ih hentered h

theorem walk_put_top (htarget : target.base = .top) (hplace : place.base ≠ .top)
    (names : List (List UInt8)) :
    (t.put target node).walk place names = t.walk place names := by
  induction names generalizing place with
  | nil => rfl
  | cons name rest ih =>
    have hnode : (t.put target node).node? place = t.node? place :=
      node?_put_of_ne fun heq => hplace (heq ▸ htarget)
    rw [walk, walk, hnode]
    split
    · rfl
    · rfl
    · split_ifs
      · exact ih (Place.base_up_ne_top hplace)
      · have hentered : (place.enter name).base ≠ .top := hplace
        exact ih hentered
      · rfl

theorem base_locate_ne_top {goal : Place} (hfile : file.slashes = 0)
    (h : t.locate file = .ok goal) : goal.base ≠ .top := by
  obtain ⟨octets, -, h⟩ := bind_eq_ok_iff.1 h
  obtain ⟨names, -, h⟩ := bind_eq_ok_iff.1 h
  split_ifs at h
  refine base_walk_ne_top ?_ (mapError_eq_ok h)
  rw [hfile]
  exact nofun

theorem locate_put_top (htarget : target.base = .top) (hfile : file.slashes = 0) :
    (t.put target node).locate file = t.locate file := by
  have hstart : (Place.ofSlashes file.slashes).base ≠ .top := by
    rw [hfile]
    exact nofun
  simp only [locate, walk_put_top htarget hstart]

theorem agreeUnder_put_top (hroot : root.slashes = 0) (htarget : target.base = .top)
    (t : FileTree) (node : Node) : AgreeUnder root t (t.put target node) := by
  rintro file ⟨below, -, -, hfile⟩
  have hslashes : file.slashes = 0 := by rw [hfile, hroot]
  rw [nodeAt, nodeAt, locate_put_top htarget hslashes]
  cases hlocate : t.locate file with
  | error fault => rfl
  | ok place =>
    -- no walk from the working directory comes to a place at the top
    have hnode : (t.put target node).node? place = t.node? place :=
      node?_put_of_ne fun heq => base_locate_ne_top hslashes hlocate (heq ▸ htarget)
    simp only [bind, Except.bind, hnode]

theorem readText_eq_ok_iff {text : Text} :
    t.readText file = .ok text ↔ ∃ octets decoded, t.read file = .ok octets ∧
      Utf8.decode octets = .ok decoded ∧ Text.unifyNewlines decoded = text := by
  rw [FileTree.readText]
  cases t.read file with
  | error fault => simp
  | ok octets => cases hdecoded : Utf8.decode octets <;> simp [hdecoded]

theorem readText_eq_encoding_iff {fault : Utf8.Fault} :
    t.readText file = .error (.encoding fault) ↔
      ∃ octets, t.read file = .ok octets ∧ Utf8.decode octets = .error fault := by
  rw [FileTree.readText]
  cases t.read file with
  | error fault => simp
  | ok octets => cases hdecoded : Utf8.decode octets <;> simp [hdecoded]

theorem readText_eq_file_iff {fault : FileFault} :
    t.readText file = .error (.file fault) ↔ t.read file = .error fault := by
  rw [FileTree.readText]
  cases t.read file with
  | error fault => simp
  | ok octets => cases hdecoded : Utf8.decode octets <;> simp [hdecoded]

end FileTree
end ApiStubs
