import Scopemark.Text.Lines

namespace Scopemark.Text

variable {α : Type} [DecidableEq α] {sep c : α} {cs piece : List α} {pieces : List (List α)}

theorem cutFrom_eq_splitOnPPrepend (sep : α) (piece cs : List α) :
    cutFrom sep piece cs = cs.splitOnPPrepend (· == sep) piece := by
  induction cs generalizing piece with
  | nil => rfl
  | cons c cs ih => simp only [cutFrom, List.splitOnPPrepend, ih, beq_iff_eq]

theorem cut_eq_splitOn (sep : α) (cs : List α) : cut sep cs = cs.splitOn sep :=
  cutFrom_eq_splitOnPPrepend sep [] cs

theorem cut_of_not_mem (h : sep ∉ cs) : cut sep cs = [cs] := by
  rw [cut_eq_splitOn, List.splitOn_eq_singleton h]

theorem cut_append_sep (cs rest : List α) :
    cut sep (cs ++ sep :: rest) = cut sep cs ++ cut sep rest := by
  simp only [cut_eq_splitOn, List.splitOn_append_cons_self]

theorem cut_ne_nil (sep : α) (cs : List α) : cut sep cs ≠ [] := by
  rw [cut_eq_splitOn]
  exact List.splitOn_ne_nil sep cs

theorem intercalate_cut (sep : α) (cs : List α) : [sep].intercalate (cut sep cs) = cs := by
  rw [cut_eq_splitOn, List.intercalate_splitOn]

theorem cut_intercalate (h : ∀ p ∈ pieces, sep ∉ p) (hne : pieces ≠ []) :
    cut sep ([sep].intercalate pieces) = pieces := by
  rw [cut_eq_splitOn, List.splitOn_intercalate sep h hne]

theorem exists_mem_cutFrom_iff :
    (∃ p ∈ cutFrom sep piece cs, c ∈ p) ↔ c ∈ piece ∨ (c ∈ cs ∧ c ≠ sep) := by
  induction cs generalizing piece with
  | nil => simp [cutFrom]
  | cons d cs ih =>
      rw [cutFrom]
      split
      next hd =>
        subst hd
        simp only [List.mem_cons, exists_eq_or_imp, List.mem_reverse, ih]
        grind
      next hd =>
        rw [ih, List.mem_cons, List.mem_cons]
        grind

/-- The pieces hold all characters but the separators. -/
theorem exists_mem_cut_iff : (∃ p ∈ cut sep cs, c ∈ p) ↔ c ∈ cs ∧ c ≠ sep :=
  exists_mem_cutFrom_iff.trans (or_iff_right List.not_mem_nil)

end Scopemark.Text
