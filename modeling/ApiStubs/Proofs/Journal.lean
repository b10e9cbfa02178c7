import ApiStubs.Diagnostic
import Mathlib.Algebra.BigOperators.Group.List.Basic
import Mathlib.Algebra.GroupWithZero.Nat

/-! Journals of whole runs, and what they count of each kind. -/

namespace ApiStubs

theorem DiagnosticKind.mem_all (kind : DiagnosticKind) : kind ∈ all := by
  cases kind <;> decide

theorem DiagnosticKind.name_inj {kind other : DiagnosticKind} (h : kind.name = other.name) :
    kind = other := by
  have hnames : ∀ k ∈ all, ∀ o ∈ all, k.name = o.name → k = o := by decide
  exact hnames kind (mem_all kind) other (mem_all other) h

section Counts

variable {count : DiagnosticKind → Nat}

theorem lookup_counts (kinds : List DiagnosticKind) (kind : DiagnosticKind) :
    ((((kinds.map fun k => (k, count k)).filter (·.2 ≠ 0)).map fun counted =>
        (counted.1.name, counted.2)).lookup kind.name).getD 0 =
      if kind ∈ kinds then count kind else 0 := by
  induction kinds with
  | nil => rfl
  | cons k rest ih =>
    rw [List.map_cons]
    by_cases hzero : count k = 0
    · rw [List.filter_cons_of_neg (by simpa using hzero), ih]
      by_cases hk : kind = k
      · simp [hk, hzero]
      · simp [hk]
    · rw [List.filter_cons_of_pos (by simpa using hzero), List.map_cons, List.lookup_cons]
      by_cases hk : kind = k
      · simp [hk]
      · have hname : (kind.name == k.name) = false :=
          beq_eq_false_iff_ne.2 fun h => hk (DiagnosticKind.name_inj h)
        rw [hname, ih]
        simp [hk]

theorem sum_counts (kinds : List DiagnosticKind) :
    (((kinds.map fun k => (k, count k)).filter (·.2 ≠ 0)).map Prod.snd).sum =
      (kinds.map count).sum := by
  induction kinds with
  | nil => rfl
  | cons k rest ih =>
    rw [List.map_cons, List.map_cons, List.sum_cons, ← ih]
    by_cases h : count k = 0
    · rw [List.filter_cons_of_neg (by simpa using h), h, Nat.zero_add]
    · rw [List.filter_cons_of_pos (by simpa using h), List.map_cons, List.sum_cons]

end Counts

theorem sum_countP_kind (diagnostics : List Diagnostic) :
    (DiagnosticKind.all.map fun kind => diagnostics.countP (·.kind == kind)).sum =
      diagnostics.length := by
  induction diagnostics with
  | nil => rfl
  | cons d rest ih =>
    have hone : ∀ kind ∈ DiagnosticKind.all,
        (DiagnosticKind.all.map fun other => if kind == other then 1 else 0).sum = 1 := by decide
    simp only [List.countP_cons, List.sum_map_add, ih, List.length_cons]
    rw [hone d.kind (DiagnosticKind.mem_all d.kind)]

namespace Journal

def observe (j : Journal) (diagnostics : List Diagnostic) : Journal :=
  diagnostics.foldl (fun j d => (j.record d).1) j

def stats (j : Journal) : List (Text × Nat) :=
  (countsByKind j.entries).map fun counted => (counted.1.name, counted.2)

theorem entries_observe (j : Journal) (diagnostics : List Diagnostic) :
    (j.observe diagnostics).entries = j.entries ++ diagnostics := by
  induction diagnostics generalizing j with
  | nil => exact (List.append_nil _).symm
  | cons d rest ih => exact (ih (j.record d).1).trans (List.append_assoc _ [d] rest)

theorem length_ofKind (j : Journal) (kind : DiagnosticKind) :
    (j.ofKind kind).length = j.entries.countP (·.kind == kind) :=
  List.countP_eq_length_filter.symm

theorem lookup_stats (j : Journal) (kind : DiagnosticKind) :
    (j.stats.lookup kind.name).getD 0 = (j.ofKind kind).length := by
  rw [length_ofKind]
  exact (lookup_counts DiagnosticKind.all kind).trans (if_pos kind.mem_all)

theorem sum_stats (j : Journal) : (j.stats.map Prod.snd).sum = j.entries.length := by
  rw [← sum_countP_kind, ← sum_counts, stats, List.map_map]
  rfl

end Journal
end ApiStubs
