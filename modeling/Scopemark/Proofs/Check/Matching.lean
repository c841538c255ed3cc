import Scopemark.Check.Checker
import Scopemark.Proofs.Scope.Set

namespace Scopemark

structure ScopeAssertion.Meets (a : ScopeAssertion) (mode : MatchMode) (actual : ScopeSet) :
    Prop where
  expected : ∀ s ∈ a.expected, s ∈ actual
  excluded : ∀ s ∈ a.excluded, s ∉ actual
  others : mode = .exact → ∀ s ∈ actual, s ∉ a.expected →
    s.segments.head? = some "source" ∨ s.segments.head? = some "text"

def ScopeAssertion.Holds (a : ScopeAssertion) (mode : MatchMode) (f : Nat → Nat → ScopeSet) : Prop :=
  ∀ column, a.span.start ≤ column → column ≤ a.span.stop → a.Meets mode (f a.sourceLine column)

theorem Scope.isRoot_iff {s : Scope} : s.isRoot = true ↔
    s.segments.head? = some "source" ∨ s.segments.head? = some "text" := by
  unfold isRoot
  cases s.segments with
  | nil => simp
  | cons segment rest => simp

namespace Check

variable {mode : MatchMode} {a : ScopeAssertion} {actual : ScopeSet} {s : Scope}

theorem filter_contains_eq_nil_iff {xs : List Scope} :
    xs.filter actual.contains = [] ↔ ∀ s ∈ xs, s ∉ actual := by
  simp [ScopeSet.contains_iff]

theorem unexpected_eq_nil_iff {forbidden : List Scope} : unexpected a actual forbidden = [] ↔
    ∀ s ∈ actual, s ∉ a.expected → s ∉ forbidden → s.isRoot = true := by
  rw [unexpected, List.filter_eq_nil_iff]
  refine forall_congr' fun s => imp_congr_right fun _ => ?_
  cases s.isRoot <;> simp

theorem compare_eq_none (column : Nat) : compare mode a column actual = none ↔
    actual.missing a.expected = [] ∧ a.excluded.filter actual.contains = [] ∧
      (mode = .exact → unexpected a actual (a.excluded.filter actual.contains) = []) := by
  cases mode <;> simp [compare]

theorem compare_eq_none_iff (column : Nat) :
    compare mode a column actual = none ↔ a.Meets mode actual := by
  rw [compare_eq_none, ScopeSet.missing_eq_nil_iff, filter_contains_eq_nil_iff]
  constructor
  · rintro ⟨hexpected, hexcluded, hothers⟩
    refine ⟨hexpected, hexcluded, ?_⟩
    intro hmode s hs hnot
    apply Scope.isRoot_iff.mp
    apply unexpected_eq_nil_iff.mp (hothers hmode) s hs hnot
    rw [filter_contains_eq_nil_iff.mpr hexcluded]
    exact List.not_mem_nil
  · intro h
    refine ⟨h.expected, h.excluded, ?_⟩
    intro hmode
    apply unexpected_eq_nil_iff.mpr
    intro s hs hnot _
    exact Scope.isRoot_iff.mpr (h.others hmode s hs hnot)

variable {f : String → Nat → Nat → ScopeSet} {text : String}

theorem firstMismatch_succ (count column : Nat) :
    firstMismatch (.ofFunction f) mode text a (count + 1) column =
      (compare mode a column (f text a.sourceLine column)).or
        (firstMismatch (.ofFunction f) mode text a count (column + 1)) := by
  cases h : compare mode a column (f text a.sourceLine column) <;>
    simp [firstMismatch, Oracle.ofFunction, h, bind, pure]

theorem firstMismatch_eq_none_iff {count column : Nat} :
    firstMismatch (.ofFunction f) mode text a count column = none ↔
      ∀ i, column ≤ i → i < column + count → a.Meets mode (f text a.sourceLine i) := by
  induction count generalizing column with
  | zero =>
      refine iff_of_true rfl fun i hle hlt => ?_
      omega
  | succ count ih =>
      rw [firstMismatch_succ]
      cases hcompare : compare mode a column (f text a.sourceLine column) with
      | some mismatch =>
          refine iff_of_false nofun fun h => ?_
          have hmeets := (compare_eq_none_iff column).mpr (h column (Nat.le_refl _) (by omega))
          rw [hcompare] at hmeets
          cases hmeets
      | none =>
          have hmeets := (compare_eq_none_iff column).mp hcompare
          refine ih.trans ⟨fun h i hle hlt => ?_, fun h i hle hlt => h i (by omega) (by omega)⟩
          rcases Nat.eq_or_lt_of_le hle with rfl | hlt'
          · exact hmeets
          · exact h i hlt' (by omega)

theorem checkAssertion_passed_iff :
    (checkAssertion (.ofFunction f) mode text a : CheckResult).passed = true ↔
      a.Holds mode (f text) := by
  have hwidth : a.span.start + a.span.width = a.span.stop + 1 := by
    have := a.span.le
    rw [ColumnSpan.width]
    omega
  refine Option.isNone_iff_eq_none.trans (firstMismatch_eq_none_iff.trans ?_)
  rw [hwidth]
  exact forall₂_congr fun i _ => imp_congr_left Nat.lt_succ_iff

end Check

end Scopemark
