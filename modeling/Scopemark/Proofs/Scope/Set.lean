import Scopemark.Scope.Set

namespace Scopemark.ScopeSet

variable {s : ScopeSet} {x y : Scope} {xs : List Scope}

theorem contains_iff : s.contains x = true ↔ x ∈ s := List.contains_iff_mem

theorem mem_insert : y ∈ (s.insert x).1 ↔ y = x ∨ y ∈ s := Scope.mem_insertSorted

theorem mem_extend : y ∈ s.extend xs ↔ y ∈ s ∨ y ∈ xs := by
  induction xs generalizing s with
  | nil => simp [extend]
  | cons x xs ih =>
      rw [extend, List.foldl_cons]
      exact ih.trans (by rw [mem_insert, List.mem_cons, or_left_comm, or_assoc])

theorem mem_ofList : y ∈ ofList xs ↔ y ∈ xs := by
  rw [ofList, mem_extend]
  exact or_iff_right (List.not_mem_nil)

theorem missing_eq_nil_iff : s.missing xs = [] ↔ ∀ x ∈ xs, x ∈ s := by
  simp [missing, contains_iff]

end Scopemark.ScopeSet
