import Mathlib.Data.List.MinMax
import Scopemark.Grammar.Tokenizer
import Scopemark.Proofs.Grammar.Compile
import Scopemark.Proofs.Pattern.Bounds

namespace Scopemark.Grammar

variable {g : Grammar} {memo : Memo} {line : Array Char} {pos : Nat}
  {list : List (Candidate × Pattern)} {found : List (Candidate × Pattern.Match)} {best : Best}
  {b c : Candidate × Pattern.Match}

def matchesFrom (line : Array Char) (pos : Nat) (list : List (Candidate × Pattern)) :
    List (Candidate × Pattern.Match) :=
  list.filterMap fun (candidate, p) => (p.find? line pos).map (candidate, ·)

theorem matchesFrom_eq_nil :
    matchesFrom line pos list = [] ↔ ∀ c p, (c, p) ∈ list → p.find? line pos = none := by
  simp [matchesFrom, List.filterMap_eq_nil_iff]

theorem le_start_of_mem_matchesFrom (h : b ∈ matchesFrom line pos list) : pos ≤ b.2.start := by
  obtain ⟨_, _, he⟩ := List.mem_filterMap.mp h
  obtain ⟨m, hm, rfl⟩ := Option.map_eq_some_iff.mp he
  exact (Pattern.find?_within hm).low_le

/-- It starts before those listed in front of it, and not after those behind it. -/
def Earliest (list : List (Candidate × Pattern.Match)) (b : Candidate × Pattern.Match) : Prop :=
  ∃ front behind, list = front ++ b :: behind ∧ (∀ x ∈ front, b.2.start < x.2.start) ∧
    ∀ x ∈ behind, b.2.start ≤ x.2.start

theorem Earliest.cons {x : Candidate × Pattern.Match}
    (h : Earliest found b) (hx : b.2.start < x.2.start) : Earliest (x :: found) b := by
  obtain ⟨front, behind, rfl, hfront, hbehind⟩ := h
  exact ⟨x :: front, behind, rfl, List.forall_mem_cons.mpr ⟨hx, hfront⟩, hbehind⟩

theorem Earliest.start_le (h : Earliest found b) :
    ∀ x ∈ found, b.2.start ≤ x.2.start := by
  obtain ⟨front, behind, rfl, hfront, hbehind⟩ := h
  intro x hx
  rcases List.mem_append.mp hx with hx | hx
  · exact (hfront x hx).le
  · rcases List.mem_cons.mp hx with rfl | hx
    · exact Nat.le_refl _
    · exact hbehind x hx

theorem earliest_argmin
    (h : found.argmin (fun x => x.2.start) = some b) : Earliest found b := by
  induction found generalizing b with
  | nil => cases h
  | cons x found ih =>
      rw [List.argmin_cons] at h
      cases hrest : found.argmin (fun x => x.2.start) with
      | none =>
          rw [hrest] at h
          cases h
          rw [List.argmin_eq_none.mp hrest]
          exact ⟨[], [], rfl, nofun, nofun⟩
      | some c =>
          have hc := ih hrest
          rw [hrest] at h
          simp only at h
          split at h
          next hlt =>
            cases h
            exact hc.cons hlt
          next hge =>
            cases h
            refine ⟨[], found, rfl, nofun, ?_⟩
            intro y hy
            exact (Nat.le_of_not_lt hge).trans (hc.start_le y hy)

/-- No other place of a list has an earliest match. -/
theorem Earliest.unique (h : Earliest found b) (k : Earliest found c) : b = c := by
  obtain ⟨front, behind, rfl, hfront, hbehind⟩ := h
  obtain ⟨front', behind', he, hfront', hbehind'⟩ := k
  rcases List.append_eq_append_iff.mp he with ⟨mid, rfl, htail⟩ | ⟨mid, rfl, htail⟩
  · cases mid with
    | nil => exact (List.cons.inj htail).1
    | cons x mid =>
        obtain ⟨rfl, rfl⟩ := List.cons.inj htail
        have hle := hbehind c (by simp)
        have hlt := hfront' b (by simp)
        omega
  · cases mid with
    | nil => exact (List.cons.inj htail).1.symm
    | cons x mid =>
        obtain ⟨rfl, rfl⟩ := List.cons.inj htail
        have hle := hbehind' b (by simp)
        have hlt := hfront c (by simp)
        omega

/-- Nothing that follows takes the place of a match that starts first. -/
theorem foldl_argAux_of_le
    (h : ∀ x ∈ found, b.2.start ≤ x.2.start) :
    found.foldl (List.argAux fun x y => x.2.start < y.2.start) (some b) = some b := by
  induction found with
  | nil => rfl
  | cons x found ih =>
      obtain ⟨hx, hfound⟩ := List.forall_mem_cons.mp h
      have hkeep : List.argAux (fun x y => x.2.start < y.2.start) (some b) x = some b :=
        if_neg (Nat.not_lt.mpr hx)
      rw [List.foldl_cons, hkeep]
      exact ih hfound

theorem argAux_eq (c : Candidate) (m : Pattern.Match) (best : Best) :
    List.argAux (fun x y => x.2.start < y.2.start) best (c, m) =
      if startsBefore m best then some (c, m) else best := by
  cases best with
  | none => rfl
  | some b => simp [List.argAux, startsBefore]

/-- As long as the best match is ahead of the position, the candidates still to come are all looked at;
once it is at the position they could not change it. -/
theorem bestMatch_eq_foldl (hbest : ∀ b, best = some b → pos < b.2.start) :
    bestMatch line pos best list =
      (matchesFrom line pos list).foldl (List.argAux fun x y => x.2.start < y.2.start) best := by
  fun_induction bestMatch line pos best list with
  | case1 => rfl
  | case2 best c p rest hnone ih => simpa [matchesFrom, hnone] using ih hbest
  | case3 best c p rest m hm best' hat =>
      have hbefore : startsBefore m best = true := by
        cases best with
        | none => rfl
        | some b => simpa [startsBefore, hat] using hbest b rfl
      have hrest : ∀ x ∈ matchesFrom line pos rest, m.start ≤ x.2.start := fun x hx =>
        hat ▸ le_start_of_mem_matchesFrom hx
      have hfound : matchesFrom line pos ((c, p) :: rest) = (c, m) :: matchesFrom line pos rest := by
        simp [matchesFrom, hm]
      rw [hfound, List.foldl_cons, argAux_eq, if_pos hbefore, foldl_argAux_of_le (b := (c, m)) hrest]
      exact if_pos hbefore
  | case4 best c p rest m hm best' hahead ih =>
      have hlow := (Pattern.find?_within hm).low_le
      have hfound : matchesFrom line pos ((c, p) :: rest) = (c, m) :: matchesFrom line pos rest := by
        simp [matchesFrom, hm]
      rw [hfound, List.foldl_cons, argAux_eq]
      refine ih ?_
      intro b hb
      simp only [best'] at hb
      split at hb
      · cases hb
        simp only
        omega
      · exact hbest b hb

theorem bestMatch_eq_argmin (line : Array Char) (pos : Nat) (list : List (Candidate × Pattern)) :
    bestMatch line pos none list = (matchesFrom line pos list).argmin fun b => b.2.start :=
  bestMatch_eq_foldl nofun

theorem earliest_bestMatch (h : bestMatch line pos none list = some b) :
    Earliest (matchesFrom line pos list) b :=
  earliest_argmin (bestMatch_eq_argmin line pos list ▸ h)

theorem bestMatch_eq_none : bestMatch line pos none list = none ↔ matchesFrom line pos list = [] := by
  rw [bestMatch_eq_argmin, List.argmin_eq_none]

theorem exists_of_bestMatch {c : Candidate} {m : Pattern.Match}
    (h : bestMatch line pos none list = some (c, m)) :
    ∃ p, (c, p) ∈ list ∧ p.find? line pos = some m := by
  have hmem : (c, m) ∈ matchesFrom line pos list :=
    List.argmin_mem (bestMatch_eq_argmin line pos list ▸ h)
  obtain ⟨⟨c', p⟩, hp, he⟩ := List.mem_filterMap.mp hmem
  obtain ⟨m', hm, he⟩ := Option.map_eq_some_iff.mp he
  cases he
  exact ⟨p, hp, hm⟩

theorem mem_contest_close {region : RuleId} {ids : List RuleId} {p : Pattern}
    (h : (Candidate.close, p) ∈ g.contest region ids) : (g.rule region).closer? = some p := by
  rcases List.mem_append.mp h with h | h
  · obtain ⟨q, hq, he⟩ := Option.map_eq_some_iff.mp (Option.mem_toList.mp h)
    cases he
    exact hq
  · obtain ⟨id, _, he⟩ := List.mem_filterMap.mp h
    obtain ⟨q, _, he⟩ := Option.map_eq_some_iff.mp he
    cases he

theorem mem_contest_rule {region id : RuleId} {ids : List RuleId} {p : Pattern}
    (h : (Candidate.rule id, p) ∈ g.contest region ids) :
    id ∈ ids ∧ (g.rule id).finder? = some p := by
  rcases List.mem_append.mp h with h | h
  · obtain ⟨q, _, he⟩ := Option.map_eq_some_iff.mp (Option.mem_toList.mp h)
    cases he
  · obtain ⟨id', hid, he⟩ := List.mem_filterMap.mp h
    obtain ⟨q, hq, he⟩ := Option.map_eq_some_iff.mp he
    cases he
    exact ⟨hid, hq⟩

def Noted (g : Grammar) (memo : Memo) : Prop :=
  ∀ region ids, memo.lookup region = some ids → ids = g.candidates region

theorem noted_nil : g.Noted [] := by
  intro region ids h
  cases h

theorem remember_fst (h : g.Noted memo) (region : RuleId) :
    (g.remember memo region).1 = g.candidates region := by
  unfold remember
  split
  next ids hids => exact h region ids hids
  next => rfl

theorem remember_noted (h : g.Noted memo) (region : RuleId) : g.Noted (g.remember memo region).2 := by
  unfold remember
  split
  next => exact h
  next hnone =>
    intro other ids hids
    rw [List.lookup_cons] at hids
    split at hids
    next heq =>
      cases hids
      rw [eq_of_beq heq]
    next => exact h other ids hids

def winner (g : Grammar) (line : Array Char) (s : Scan) : Best :=
  bestMatch line s.pos none (g.contest s.regions.top.rule (g.remember s.memo s.regions.top.rule).1)

variable {s : Scan} {m : Pattern.Match}

theorem round_of_none (h : g.winner line s = none) :
    g.round line s =
      .done { s with
        memo := (g.remember s.memo s.regions.top.rule).2
        tokens := addToken s.pos line.size s.regions.top.inner s.tokens } := by
  rw [winner] at h
  simp only [round, h]

theorem round_of_some {c : Candidate} (h : g.winner line s = some (c, m)) :
    g.round line s =
      g.takeMatch line { s with memo := (g.remember s.memo s.regions.top.rule).2 } c m := by
  rw [winner] at h
  simp only [round, h]

theorem winner_within {c : Candidate} (h : g.winner line s = some (c, m)) :
    m.Within s.pos line.size := by
  obtain ⟨p, _, hm⟩ := exists_of_bestMatch h
  exact Pattern.find?_within hm

theorem closer_of_winner (h : g.winner line s = some (.close, m)) :
    ∃ p, (g.rule s.regions.top.rule).closer? = some p ∧ p.find? line s.pos = some m := by
  obtain ⟨p, hp, hm⟩ := exists_of_bestMatch h
  exact ⟨p, mem_contest_close hp, hm⟩

theorem closer_of_winner_none (h : g.winner line s = none) {p : Pattern}
    (hp : (g.rule s.regions.top.rule).closer? = some p) : p.find? line s.pos = none := by
  refine matchesFrom_eq_nil.mp (bestMatch_eq_none.mp h) .close p ?_
  simp [contest, hp]

/-- The end of a region is listed first, so that nothing is preferred to it where it matches at once. -/
theorem winner_eq_close {p : Pattern} (hp : (g.rule s.regions.top.rule).closer? = some p)
    (hm : p.find? line s.pos = some m) (hat : m.start = s.pos) :
    g.winner line s = some (.close, m) := by
  simp [winner, contest, hp, bestMatch, hm, hat, startsBefore]

def entrants (g : Grammar) (region : RuleId) : List (Candidate × Pattern) :=
  g.contest region (g.candidates region)

/-- The match that is taken is the one that looking at all candidates gives, whatever was noted about
them: the earliest, and of those that start at the same place the one that is listed first. There is
none just if no candidate matches. -/
theorem winner_earliest (h : g.Noted s.memo) (line : Array Char) :
    g.winner line s =
        (matchesFrom line s.pos (g.entrants s.regions.top.rule)).argmin (fun b => b.2.start) ∧
      (∀ b, g.winner line s = some b ↔
        Earliest (matchesFrom line s.pos (g.entrants s.regions.top.rule)) b) ∧
      (g.winner line s = none ↔
        ∀ c p, (c, p) ∈ g.entrants s.regions.top.rule → p.find? line s.pos = none) := by
  have hwinner : g.winner line s = bestMatch line s.pos none (g.entrants s.regions.top.rule) := by
    rw [winner, remember_fst h, entrants]
  rw [hwinner]
  refine ⟨bestMatch_eq_argmin line s.pos _, fun b => ⟨earliest_bestMatch, fun hb => ?_⟩, ?_⟩
  · cases hbest : bestMatch line s.pos none (g.entrants s.regions.top.rule) with
    | none =>
        obtain ⟨front, behind, he, _⟩ := hb
        rw [bestMatch_eq_none.mp hbest] at he
        exact absurd he.symm (List.append_ne_nil_of_right_ne_nil front (List.cons_ne_nil b behind))
    | some c => rw [(earliest_bestMatch hbest).unique hb]
  · exact bestMatch_eq_none.trans matchesFrom_eq_nil

def amongTags : Scan := ⟨0, none, ⟨⟨1, [], []⟩, []⟩, [], []⟩

theorem winner_earliest_amongTags : ∃ G, compile? nestedText = .ok G ∧ G.Noted amongTags.memo ∧
    (matchesFrom "y<x>".toList.toArray 0 (G.entrants 1)).map (fun b => (b.1, b.2.start)) =
      [(.close, 3), (.rule 1, 1), (.rule 1, 1), (.rule 3, 2)] ∧
    ∃ b, G.winner "y<x>".toList.toArray amongTags = some b ∧ b.1 = .rule 1 ∧
      Earliest (matchesFrom "y<x>".toList.toArray 0 (G.entrants 1)) b := by
  have hrun : (compile? nestedText).toOption.map (fun G =>
      ((matchesFrom "y<x>".toList.toArray 0 (G.entrants 1)).map (fun b => (b.1, b.2.start)),
        (G.winner "y<x>".toList.toArray amongTags).map Prod.fst)) =
      some ([(.close, 3), (.rule 1, 1), (.rule 1, 1), (.rule 3, 2)], some (.rule 1)) := by
    decide +kernel
  obtain ⟨G, hG, hrun⟩ := Option.map_eq_some_iff.mp hrun
  obtain ⟨hfound, hwinner⟩ := Prod.mk.inj hrun
  obtain ⟨b, hb, hrule⟩ := Option.map_eq_some_iff.mp hwinner
  have hnoted : G.Noted amongTags.memo := noted_nil
  obtain ⟨_, hearliest, _⟩ := winner_earliest hnoted "y<x>".toList.toArray
  exact ⟨G, eq_ok_of_toOption hG, hnoted, hfound, b, hb, hrule, (hearliest b).mp hb⟩

end Scopemark.Grammar
