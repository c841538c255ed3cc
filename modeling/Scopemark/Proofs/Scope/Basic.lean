import Scopemark.Scope.Basic

namespace Scopemark.Scope

variable {name : String}

theorem toList_name_ne_nil (s : Scope) : s.name.toList ≠ [] := by
  intro hnil
  have hgap := s.noGap
  rw [hnil] at hgap
  exact absurd hgap (by decide)

theorem ofString?_name (s : Scope) : ofString? s.name = .ok s := by
  have hne : ¬ s.name.toList.isEmpty = true := by simpa using s.toList_name_ne_nil
  rw [ofString?, if_neg hne, dif_neg (by simp [s.noBlank]), dif_neg (by simp [s.noGap])]

theorem name_of_ofString? {s : Scope} (h : ofString? name = .ok s) : s.name = name := by
  unfold ofString? at h
  split at h
  · cases h
  · split at h
    · cases h
    · split at h <;> cases h
      rfl

theorem exists_ofString? : (∃ s, ofString? name = .ok s) ↔ ∃ s : Scope, s.name = name := by
  constructor
  · rintro ⟨s, hs⟩
    exact ⟨s, name_of_ofString? hs⟩
  · rintro ⟨s, rfl⟩
    exact ⟨s, ofString?_name s⟩

end Scopemark.Scope
