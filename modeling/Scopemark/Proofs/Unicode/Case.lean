import Mathlib
import Scopemark.Unicode.Case

namespace Scopemark.Unicode

variable {c d : Char} {before cs : List Char}

/-- The character is its own lower case form. The capital sigma never is, as its form depends on its
place. -/
def IsLowered (c : Char) : Prop := c.toNat ≠ 0x3A3 ∧ lowerChar c = [c]

theorem isAlpha_eq_false (h : 128 ≤ c.toNat) : c.isAlpha = false := by
  rw [← Bool.not_eq_true]
  intro halpha
  simp only [Char.isAlpha, Char.isUpper, Char.isLower, Bool.or_eq_true, Bool.and_eq_true,
    decide_eq_true_eq, ge_iff_le, UInt32.le_iff_toNat_le] at halpha
  have hval : c.val.toNat = c.toNat := rfl
  have hZ : 'Z'.val.toNat = 90 := rfl
  have hz : 'z'.val.toNat = 122 := rfl
  omega

theorem toLower_eq_self (h : 128 ≤ c.toNat) : c.toLower = c := by
  apply Char.toLower_eq_of_not_isUpper
  intro hupper
  have halpha : c.isAlpha = true := by rw [Char.isAlpha, hupper, Bool.true_or]
  exact absurd halpha (Bool.eq_false_iff.mp (isAlpha_eq_false h))

/-- Ignoring the case of ASCII letters does not turn another character into this one. -/
theorem eq_of_toLower_eq (h : 128 ≤ c.toNat) (hlower : d.toLower = c.toLower) : d = c := by
  rw [toLower_eq_self h] at hlower
  have hupper : ¬ d.isUpper = true := by
    intro hupper
    have halpha : d.toLower.isAlpha = true := by
      rw [Char.isAlpha_toLower_eq_isAlpha, Char.isAlpha, hupper, Bool.true_or]
    rw [hlower, isAlpha_eq_false h] at halpha
    cases halpha
  rw [← hlower, Char.toLower_eq_of_not_isUpper hupper]

theorem lowerFrom_ascii (h : c.toNat < 128) :
    lowerFrom before (c :: cs) = c.toLower :: lowerFrom (c :: before) cs := by
  have hsigma : c.toNat ≠ 0x3A3 := by omega
  rw [lowerFrom, if_neg hsigma, lowerChar, if_pos h, List.singleton_append]

theorem lowerSigma_ne (h : c.toNat = 0x3A3) : lowerSigma before cs ≠ c := by
  rintro rfl
  unfold lowerSigma at h
  split at h
  · exact absurd h (by decide)
  · exact absurd h (by decide)

theorem lowerChar_eq (h : 128 ≤ c.toNat) : lowerChar c = ['i', Char.ofNat 0x307] ∨ ∃ d, lowerChar c = [d] := by
  unfold lowerChar
  rw [if_neg (Nat.not_lt.mpr h)]
  split
  · exact .inl rfl
  · split
    · exact .inr ⟨_, rfl⟩
    · exact .inr ⟨_, rfl⟩

theorem lowerFrom_of_isLowered (h : IsLowered c) :
    lowerFrom before (c :: cs) = c :: lowerFrom (c :: before) cs := by
  rw [lowerFrom, if_neg h.1, h.2, List.singleton_append]

theorem lowerFrom_of_not_isLowered (hc : 128 ≤ c.toNat) (h : ¬ IsLowered c) :
    ∃ d rest, lowerFrom before (c :: cs) = d :: rest ∧ d ≠ c := by
  rw [lowerFrom]
  by_cases hsigma : c.toNat = 0x3A3
  · rw [if_pos hsigma]
    exact ⟨_, _, rfl, lowerSigma_ne hsigma⟩
  · rw [if_neg hsigma]
    rcases lowerChar_eq hc with htwo | ⟨d, hd⟩
    · rw [htwo]
      refine ⟨_, _, rfl, ?_⟩
      rintro rfl
      exact absurd hc (by decide)
    · rw [hd]
      refine ⟨_, _, rfl, ?_⟩
      rintro rfl
      exact h ⟨hsigma, hd⟩

/-- By induction on the text. The first character that is no ASCII letter and not its own lower case form
already tells the two texts apart. -/
theorem map_toLower_lowerFrom : (lowerFrom before cs).map Char.toLower = cs.map Char.toLower ↔
    ∀ c ∈ cs, 128 ≤ c.toNat → IsLowered c := by
  induction cs generalizing before with
  | nil => simp [lowerFrom]
  | cons c cs ih =>
      have hrest : (lowerFrom (c :: before) cs).map Char.toLower = cs.map Char.toLower ↔
          ∀ c ∈ cs, 128 ≤ c.toNat → IsLowered c := ih
      rw [List.forall_mem_cons, ← hrest]
      by_cases hc : 128 ≤ c.toNat
      · by_cases hlowered : IsLowered c
        · rw [lowerFrom_of_isLowered hlowered, List.map_cons, List.map_cons, List.cons_inj_right]
          exact (and_iff_right fun _ => hlowered).symm
        · obtain ⟨d, rest, hfrom, hne⟩ : ∃ d rest, lowerFrom before (c :: cs) = d :: rest ∧ d ≠ c :=
            lowerFrom_of_not_isLowered hc hlowered
          rw [hfrom, List.map_cons, List.map_cons]
          constructor
          · intro h
            exact absurd (eq_of_toLower_eq hc (List.cons.inj h).1) hne
          · intro h
            exact absurd (h.1 hc) hlowered
      · rw [lowerFrom_ascii (Nat.not_le.mp hc), List.map_cons, List.map_cons,
          Char.toLower_toLower_eq_toLower, List.cons_inj_right]
        exact (and_iff_right fun h => absurd h hc).symm

end Scopemark.Unicode
