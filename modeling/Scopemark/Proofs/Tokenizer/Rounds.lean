import Mathlib.Data.List.Chain
import Scopemark.Proofs.Tokenizer.Contest

namespace Scopemark.Grammar

variable {g : Grammar} {line : Array Char} {s s' last : Scan} {scans : List Scan}

def Scan.Again (s : Scan) (m : Pattern.Match) : Prop := m.start = m.stop ∧ s.emptyAt = some m.start

inductive Turns (g : Grammar) (line : Array Char) (s : Scan) : Round → Prop
  | behind (found : g.winner line s = none) :
      Turns g line s (.done { s with
        memo := (g.remember s.memo s.regions.top.rule).2
        tokens := addToken s.pos line.size s.regions.top.inner s.tokens })
  | pass {c : Candidate} {m : Pattern.Match} (found : g.winner line s = some (c, m))
      (again : s.Again m) (inside : m.start < line.size) :
      Turns g line s (.more { s with
        memo := (g.remember s.memo s.regions.top.rule).2
        pos := m.start + 1
        emptyAt := none
        tokens := addToken m.start (m.start + 1) s.regions.top.inner
          (addToken s.pos m.start s.regions.top.inner s.tokens) })
  | stop {c : Candidate} {m : Pattern.Match} (found : g.winner line s = some (c, m))
      (again : s.Again m) (outside : line.size ≤ m.start) :
      Turns g line s (.done { s with
        memo := (g.remember s.memo s.regions.top.rule).2
        tokens := addToken s.pos m.start s.regions.top.inner s.tokens })
  | take {c : Candidate} {m : Pattern.Match} (found : g.winner line s = some (c, m))
      (first : ¬ s.Again m) :
      Turns g line s (.more {
        pos := m.stop
        emptyAt := if m.start = m.stop then some m.start else none
        regions := (g.applyMatch c m s.regions
          (addToken s.pos m.start s.regions.top.inner s.tokens)).1
        tokens := (g.applyMatch c m s.regions
          (addToken s.pos m.start s.regions.top.inner s.tokens)).2
        memo := (g.remember s.memo s.regions.top.rule).2 })

theorem round_turns (g : Grammar) (line : Array Char) (s : Scan) :
    g.Turns line s (g.round line s) := by
  cases hwinner : g.winner line s with
  | none =>
      rw [round_of_none hwinner]
      exact .behind hwinner
  | some found =>
      obtain ⟨c, m⟩ := found
      rw [round_of_some hwinner]
      unfold takeMatch
      dsimp only
      by_cases hagain : m.start = m.stop ∧ s.emptyAt = some m.start
      · rw [if_pos hagain]
        by_cases hlt : m.start < line.size
        · rw [if_pos hlt]
          exact .pass hwinner hagain hlt
        · rw [if_neg hlt]
          exact .stop hwinner hagain (Nat.le_of_not_lt hlt)
      · rw [if_neg hagain]
        exact .take hwinner hagain

structure Scan.Placed (line : Array Char) (s : Scan) : Prop where
  pos_le : s.pos ≤ line.size
  emptyAt : ∀ p, s.emptyAt = some p → p = s.pos

def Scan.Advances (s s' : Scan) : Prop :=
  s.pos < s'.pos ∨ s'.pos = s.pos ∧ s.emptyAt ≠ some s.pos ∧ s'.emptyAt = some s.pos

theorem Scan.Placed.round (h : s.Placed line) (hround : g.round line s = .more s') :
    s'.Placed line ∧ s.Advances s' := by
  have hturns := round_turns g line s
  rw [hround] at hturns
  cases hturns with
  | pass found again inside =>
      have hpos := h.emptyAt _ again.2
      refine ⟨⟨inside, nofun⟩, .inl ?_⟩
      simp only
      omega
  | @take c m found first =>
      have hm := winner_within found
      have hlow := hm.low_le
      have hle := hm.start_le
      refine ⟨⟨hm.le_high, ?_⟩, ?_⟩
      · simp only [Option.ite_none_right_eq_some]
        rintro p ⟨hempty, hp⟩
        cases hp
        exact hempty
      · by_cases hlt : s.pos < m.stop
        · exact .inl hlt
        · have hpos : m.stop = s.pos := by omega
          have hempty : m.start = m.stop := by omega
          refine .inr ⟨hpos, ?_, ?_⟩
          · intro hat
            exact first ⟨hempty, by rw [hat]; congr 1; omega⟩
          · simp only [hempty, if_true, hpos]

/-- A bound on the rounds to come: two at each position, but for an empty match that was found. -/
def Scan.left (line : Array Char) (s : Scan) : Nat :=
  2 * (line.size - s.pos) + if s.emptyAt = some s.pos then 0 else 1

theorem Scan.Advances.left_lt (h : s.Advances s') (hs' : s'.pos ≤ line.size) :
    s'.left line < s.left line := by
  unfold Scan.left
  rcases h with hlt | ⟨hpos, hnot, hempty⟩
  · split <;> split <;> omega
  · rw [if_neg hnot, if_pos (hpos ▸ hempty), hpos]
    omega

/-- A scan of a line with the scans that its rounds start from, and what the last round leaves. -/
inductive Rounds (g : Grammar) (line : Array Char) : Scan → List Scan → Scan → Prop
  | done {s last : Scan} (h : g.round line s = .done last) : Rounds g line s [s] last
  | more {s s' last : Scan} {scans : List Scan} (h : g.round line s = .more s')
      (rest : Rounds g line s' scans last) : Rounds g line s (s :: scans) last

theorem Rounds.unique {scans' : List Scan} {last' : Scan} (h : g.Rounds line s scans last)
    (k : g.Rounds line s scans' last') : scans = scans' ∧ last = last' := by
  induction h generalizing scans' with
  | done hround =>
      cases k with
      | done hround' => exact ⟨rfl, Round.done.inj (hround.symm.trans hround')⟩
      | more hround' _ => cases hround.symm.trans hround'
  | more hround _ ih =>
      cases k with
      | done hround' => cases hround.symm.trans hround'
      | more hround' rest =>
          obtain rfl := Round.more.inj (hround.symm.trans hround')
          obtain ⟨rfl, rfl⟩ := ih rest
          exact ⟨rfl, rfl⟩

/-- What every round keeps holds of all scans, and at the end what the last round makes of it. -/
theorem Rounds.invariant {P Q : Scan → Prop} (h : g.Rounds line s scans last) (hs : P s)
    (hmore : ∀ s s', P s → g.round line s = .more s' → P s')
    (hdone : ∀ s s', P s → g.round line s = .done s' → Q s') : (∀ s ∈ scans, P s) ∧ Q last := by
  induction h with
  | done hround => exact ⟨List.forall_mem_singleton.mpr hs, hdone _ _ hs hround⟩
  | more hround _ ih =>
      obtain ⟨hscans, hlast⟩ := ih (hmore _ _ hs hround)
      exact ⟨List.forall_mem_cons.mpr ⟨hs, hscans⟩, hlast⟩

theorem exists_rounds {fuel : Nat} (h : s.Placed line) (hfuel : s.left line < fuel) :
    ∃ scans, g.Rounds line s scans (g.scanFrom line fuel s) := by
  induction fuel generalizing s with
  | zero => omega
  | succ fuel ih =>
      rw [scanFrom]
      split
      next s' hround => exact ⟨[s], .done hround⟩
      next s' hround =>
        obtain ⟨hs', hadvances⟩ := h.round hround
        have hlt := hadvances.left_lt hs'.pos_le
        obtain ⟨scans, hrest⟩ := ih hs' (by omega)
        exact ⟨s :: scans, .more hround hrest⟩

theorem Rounds.placed (h : g.Rounds line s scans last) (hs : s.Placed line) :
    ∀ s ∈ scans, s.Placed line :=
  (h.invariant (Q := fun _ => True) hs (fun _ _ hs hround => (hs.round hround).1)
    fun _ _ _ _ => trivial).1

theorem Rounds.length_le (h : g.Rounds line s scans last) (hs : s.Placed line) :
    scans.length ≤ s.left line + 1 := by
  induction h with
  | done => exact Nat.le_add_left 1 _
  | more hround _ ih =>
      obtain ⟨hs', hadvances⟩ := hs.round hround
      have hlt := hadvances.left_lt hs'.pos_le
      have hrest := ih hs'
      simp only [List.length_cons]
      omega

theorem Rounds.head? (h : g.Rounds line s scans last) : scans.head? = some s := by
  cases h <;> rfl

/-- Each scan but the first is what the round before it made. -/
theorem Rounds.isChain (h : g.Rounds line s scans last) :
    scans.IsChain fun u v => g.round line u = .more v := by
  induction h with
  | done => exact .singleton _
  | more hround rest ih =>
      refine List.isChain_cons.mpr ⟨?_, ih⟩
      intro v hv
      rw [rest.head?] at hv
      cases hv
      exact hround

theorem Rounds.round_of_getLast? {front : List Scan} {u v : Scan}
    (h : g.Rounds line s (front ++ [v]) last) (hu : front.getLast? = some u) :
    g.round line u = .more v :=
  (List.isChain_append.mp h.isChain).2.2 u hu v rfl

theorem Rounds.advances (h : g.Rounds line s scans last) (hs : s.Placed line) :
    scans.IsChain Scan.Advances :=
  h.isChain.imp_of_mem_imp fun u _ hu _ hround => ((h.placed hs u hu).round hround).2

theorem Rounds.exists_last (h : g.Rounds line s scans last) :
    ∃ front u, scans = front ++ [u] ∧ g.round line u = .done last := by
  induction h with
  | @done s last hround => exact ⟨[], s, rfl, hround⟩
  | @more s s' last scans _ _ ih =>
      obtain ⟨front, u, rfl, hround⟩ := ih
      exact ⟨s :: front, u, rfl, hround⟩

/-- A bound on the rounds to come that start at position `p`. -/
def Scan.visits (p : Nat) (s : Scan) : Nat :=
  if p < s.pos then 0 else if s.emptyAt = some p then 1 else 2

theorem Scan.visits_le (p : Nat) (s : Scan) : s.visits p ≤ 2 := by
  unfold Scan.visits
  split
  · omega
  · split <;> omega

theorem Scan.Advances.visits_le (h : s.Advances s') (hs : s.Placed line) (p : Nat) :
    s'.visits p + (if s.pos = p then 1 else 0) ≤ s.visits p := by
  rcases Nat.lt_trichotomy p s.pos with hlt | rfl | hgt
  · have hlt' : p < s'.pos := by
      rcases h with h | ⟨h, _⟩ <;> omega
    rw [Scan.visits, if_pos hlt', if_neg hlt.ne']
    exact Nat.zero_le _
  · rw [if_pos rfl, Scan.visits, Scan.visits, if_neg (Nat.lt_irrefl _)]
    rcases h with hlt | ⟨hpos, hnot, hat⟩
    · rw [if_pos hlt]
      split <;> omega
    · rw [hpos, if_neg (Nat.lt_irrefl _), if_pos hat, if_neg hnot]
  · have hnot : s.emptyAt ≠ some p := fun hat => hgt.ne' (hs.emptyAt p hat)
    have htwo : s.visits p = 2 := by rw [Scan.visits, if_neg hgt.not_gt, if_neg hnot]
    rw [htwo, if_neg hgt.ne]
    exact s'.visits_le p

theorem Rounds.countP_le (h : g.Rounds line s scans last) (hs : s.Placed line) (p : Nat) :
    scans.countP (fun s => s.pos = p) ≤ s.visits p := by
  induction h with
  | @done s last _ =>
      rcases Nat.lt_trichotomy p s.pos with hlt | rfl | hgt
      · simp [hlt.ne']
      · rw [Scan.visits, if_neg (Nat.lt_irrefl _)]
        split <;> simp
      · simp [hgt.ne]
  | more hround _ ih =>
      obtain ⟨hs', hadvances⟩ := hs.round hround
      have hle := hadvances.visits_le hs p
      have hrest := ih hs'
      simp only [List.countP_cons, decide_eq_true_eq]
      omega

def Carry.start (carry : Carry) : Scan := ⟨0, none, carry.regions, [], carry.memo⟩

theorem Carry.placed_start (carry : Carry) (line : Array Char) : carry.start.Placed line :=
  ⟨Nat.zero_le _, nofun⟩

theorem Carry.left_start (carry : Carry) (line : Array Char) :
    carry.start.left line = 2 * line.size + 1 := by
  simp [Scan.left, Carry.start]

theorem exists_rounds_line (g : Grammar) (carry : Carry) (line : List Char) :
    ∃ scans last, g.Rounds line.toArray carry.start scans last ∧
      g.tokenizeLine carry line = (last.tokens.reverse, ⟨last.regions, last.memo⟩) := by
  have hleft : carry.start.left line.toArray < 2 * (line.toArray.size + 1) := by
    rw [carry.left_start]
    omega
  obtain ⟨scans, hrounds⟩ := exists_rounds (g := g) (carry.placed_start line.toArray) hleft
  exact ⟨scans, _, hrounds, rfl⟩

/-- The scan of a line ends by itself after at most two rounds for each position, the end of the line
included, whatever regions are open and whatever matches nothing. Between two rounds the position grows,
or it stays and becomes that of an empty match, and no position is visited more than twice. -/
theorem scan_ends (g : Grammar) (carry : Carry) (line : List Char) :
    ∃ scans last, g.Rounds line.toArray carry.start scans last ∧
      scans.length ≤ 2 * (line.length + 1) ∧ scans.IsChain Scan.Advances ∧
      (∀ s ∈ scans, s.pos ≤ line.length) ∧
      (∀ p, scans.countP (fun s => s.pos = p) ≤ 2) ∧
      g.tokenizeLine carry line = (last.tokens.reverse, ⟨last.regions, last.memo⟩) := by
  obtain ⟨scans, last, hrounds, htokens⟩ := exists_rounds_line g carry line
  have hstart := carry.placed_start line.toArray
  refine ⟨scans, last, hrounds, ?_, hrounds.advances hstart, ?_, ?_, htokens⟩
  · have hlength := hrounds.length_le hstart
    rw [carry.left_start, List.size_toArray] at hlength
    omega
  · intro s hs
    exact (hrounds.placed hstart s hs).pos_le
  · intro p
    exact (hrounds.countP_le hstart p).trans (carry.start.visits_le p)

end Scopemark.Grammar
