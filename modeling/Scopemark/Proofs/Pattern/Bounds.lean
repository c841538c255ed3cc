import Scopemark.Proofs.Pattern.Moves

namespace Scopemark.Pattern

structure Thread.Within (low pos : Nat) (t : Thread) : Prop where
  low_le : low ≤ t.start
  le_pos : t.start ≤ pos
  notes : ∀ n, some n ∈ t.slots → t.start ≤ n ∧ n ≤ pos

/-- The match lies between the columns `low` and `high`, and its notes lie inside of it. -/
structure Match.Within (low high : Nat) (m : Match) : Prop where
  low_le : low ≤ m.start
  start_le : m.start ≤ m.stop
  le_high : m.stop ≤ high
  notes : ∀ n, some n ∈ m.slots → m.start ≤ n ∧ n ≤ m.stop

structure Match.Encloses (m : Match) : Prop where
  start_le : m.start ≤ m.stop
  group : ∀ {i a b}, m.group? i = some (a, b) → m.start ≤ a ∧ b ≤ m.stop

namespace Match.Within

variable {low high : Nat} {m : Match}

theorem mono {k : Nat} (h : m.Within low high) (hk : high ≤ k) : m.Within low k :=
  ⟨h.low_le, h.start_le, Nat.le_trans h.le_high hk, h.notes⟩

theorem start_le_high (h : m.Within low high) : m.start ≤ high := Nat.le_trans h.start_le h.le_high

theorem group_ends {i a b : Nat} (h : m.Within low high) (hg : m.group? i = some (a, b)) :
    (m.start ≤ a ∧ a ≤ m.stop) ∧ (m.start ≤ b ∧ b ≤ m.stop) := by
  unfold Match.group? at hg
  split at hg
  next =>
    obtain ⟨rfl, rfl⟩ := Prod.mk.inj (Option.some.inj hg)
    exact ⟨⟨Nat.le_refl _, h.start_le⟩, ⟨h.start_le, Nat.le_refl _⟩⟩
  next =>
    split at hg
    next ha hb =>
      obtain ⟨rfl, rfl⟩ := Prod.mk.inj (Option.some.inj hg)
      exact ⟨h.notes _ (Array.mem_of_getElem? ha), h.notes _ (Array.mem_of_getElem? hb)⟩
    next => cases hg

theorem group {i a b : Nat} (h : m.Within low high) (hg : m.group? i = some (a, b)) :
    m.start ≤ a ∧ b ≤ m.stop := ⟨(h.group_ends hg).1.1, (h.group_ends hg).2.2⟩

theorem group_le {i a b : Nat} (h : m.Within low high) (hg : m.group? i = some (a, b)) :
    a ≤ high ∧ b ≤ high := by
  obtain ⟨⟨-, ha⟩, ⟨-, hb⟩⟩ := h.group_ends hg
  exact ⟨Nat.le_trans ha h.le_high, Nat.le_trans hb h.le_high⟩

theorem encloses (h : m.Within low high) : m.Encloses := ⟨h.start_le, h.group⟩

end Match.Within

namespace Thread.Within

variable {low pos : Nat} {t : Thread}

theorem mono {k : Nat} (h : t.Within low pos) (hk : pos ≤ k) : t.Within low k :=
  ⟨h.low_le, Nat.le_trans h.le_pos hk, fun n hn => ⟨(h.notes n hn).1, Nat.le_trans (h.notes n hn).2 hk⟩⟩

theorem move (h : t.Within low pos) (node : Nat) : Thread.Within low pos { t with node } :=
  ⟨h.low_le, h.le_pos, h.notes⟩

theorem mark (h : t.Within low pos) (slot node : Nat) :
    Thread.Within low pos { t with node, slots := t.slots.setIfInBounds slot (some pos) } := by
  refine ⟨h.low_le, h.le_pos, ?_⟩
  intro n hn
  rcases Array.mem_or_eq_of_mem_setIfInBounds hn with hn | hn
  · exact h.notes n hn
  · cases hn
    exact ⟨h.le_pos, Nat.le_refl _⟩

theorem accept (h : t.Within low pos) : Match.Within low pos ⟨t.start, pos, t.slots⟩ :=
  ⟨h.low_le, h.le_pos, Nat.le_refl _, h.notes⟩

end Thread.Within

theorem fresh_within (p : Program) {low pos : Nat} (h : low ≤ pos) :
    Thread.Within low pos ⟨p.start, pos, p.slots⟩ :=
  ⟨h, Nat.le_refl _, fun _ hn => nomatch p.slots_blank _ hn⟩

theorem leave_within (p : Program) (line : Array Char) (low pos : Nat) (work : List Thread)
    (visits : Visits) (hwork : ∀ t ∈ work, t.Within low pos) :
    (∀ t ∈ (leave p line pos work visits).2.1, t.Within low (pos + 1)) ∧
      ∀ m, (leave p line pos work visits).2.2 = some m → m.Within low pos := by
  obtain ⟨hthreads, hfound⟩ := leave_forall (p := p) line pos visits (P := Thread.Within low pos)
    (Q := Thread.Within low (pos + 1)) (fun _ next _ ht => ht.move next)
    (fun _ slot next _ ht => ht.mark slot next)
    (fun _ _ next _ _ ht => (ht.move next).mono (Nat.le_succ pos)) hwork
  refine ⟨hthreads, fun m hm => ?_⟩
  obtain ⟨t, ht, _, rfl⟩ := hfound m hm
  exact ht.accept

/-- The search has `fuel` columns to go, the end of the line included. -/
theorem scan_within (p : Program) (line : Array Char) (low fuel pos : Nat) (threads : List Thread)
    (visits : Visits) (best : Option Match) (hlow : low ≤ pos) (hfuel : fuel + pos ≤ line.size + 1)
    (hthreads : ∀ t ∈ threads, t.Within low pos)
    (hbest : ∀ m, best = some m → m.Within low line.size) (m : Match)
    (h : scan p line fuel pos threads visits best = some m) : m.Within low line.size := by
  induction fuel generalizing pos threads visits best with
  | zero => exact hbest m h
  | succ fuel ih =>
      rw [scan_succ] at h
      simp only at h
      have hwork := forall_mem_starting line best hthreads fun _ =>
        fresh_within p hlow
      generalize starting p line pos threads best = work at h hwork
      obtain ⟨hleft, hfound⟩ := leave_within p line low pos work visits hwork
      have hbest' : ∀ m, (leave p line pos work visits).2.2.or best = some m →
          m.Within low line.size := by
        intro m hm
        rcases Option.or_eq_some_iff.mp hm with hm | ⟨_, hm⟩
        · exact (hfound m hm).mono (by omega)
        · exact hbest m hm
      split at h
      · exact ih (pos + 1) [] visits best (by omega) (by omega) nofun hbest h
      · split at h
        · exact hbest' m h
        · exact ih (pos + 1) _ _ _ (by omega) (by omega) hleft hbest' h

theorem Program.find?_within (p : Program) (line : Array Char) (pos : Nat) (m : Match)
    (h : p.find? line pos = some m) : m.Within pos line.size := by
  by_cases hpos : pos ≤ line.size + 1
  · exact scan_within p line pos _ pos [] _ none (Nat.le_refl pos) (by omega) (by simp) (by simp) m h
  · have hfuel : line.size + 1 - pos = 0 := by omega
    rw [Program.find?, hfuel] at h
    cases h

/-- A match of a pattern starts at the column searched from or after it, ends in the line, and has
its groups inside of it. -/
theorem find?_within {p : Pattern} {line : Array Char} {pos : Nat} {m : Match}
    (h : p.find? line pos = some m) : m.Within pos line.size :=
  p.program.find?_within line pos m h

end Scopemark.Pattern
