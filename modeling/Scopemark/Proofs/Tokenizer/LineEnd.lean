import Scopemark.Proofs.Pattern.Found
import Scopemark.Proofs.Tokenizer.Moments

namespace Scopemark.Grammar

variable {g : Grammar} {line : Array Char} {s s' last : Scan} {p : Pattern}

def FindsEmptyEnd (g : Grammar) (line : Array Char) (s : Scan) (c : Candidate) : Prop :=
  ∃ m, g.winner line s = some (c, m) ∧ m.start = line.size ∧ m.stop = line.size

/-- A scan remembers the place of an empty match if the round before it has taken one there. -/
theorem findsEmptyEnd_of_emptyAt (h : g.round line s = .more s') (hat : s'.emptyAt = some line.size) :
    ∃ c, g.FindsEmptyEnd line s c := by
  have hturns := round_turns g line s
  rw [h] at hturns
  cases hturns with
  | pass => cases hat
  | @take c m found =>
      obtain ⟨hempty, hstart⟩ := Option.ite_none_right_eq_some.mp hat
      have hstart := Option.some.inj hstart
      exact ⟨c, m, found, hstart, hempty ▸ hstart⟩

theorem FindsEmptyEnd.pos_eq {c : Candidate} (hfinds : g.FindsEmptyEnd line s c)
    (h : g.round line s = .more s') : s'.pos = line.size := by
  obtain ⟨m, hm, hstart, hstop⟩ := hfinds
  have hturns := round_turns g line s
  rw [h] at hturns
  cases hturns with
  | pass found _ inside =>
      cases found.symm.trans hm
      exact absurd hstart inside.ne
  | take found =>
      cases found.symm.trans hm
      exact hstop

theorem regions_of_done (h : g.round line s = .done last) : last.regions = s.regions := by
  have hturns := round_turns g line s
  rw [h] at hturns
  cases hturns <;> rfl

/-- The last round leaves open a region that ends at the end of the line only where an empty match was
taken there just before, and this end is what the round found. -/
theorem findsEmptyEnd_of_done (hs : s.Placed line) (h : g.round line s = .done last)
    (hp : (g.rule s.regions.top.rule).closer? = some p)
    (hend : (p.find? line line.size).isSome = true) :
    s.emptyAt = some line.size ∧ g.FindsEmptyEnd line s .close := by
  obtain ⟨m, hm⟩ := Option.isSome_iff_exists.mp hend
  have hturns := round_turns g line s
  rw [h] at hturns
  cases hturns with
  | behind found =>
      -- an end that is not found from here on does not match at the end of the line
      have hnone := Pattern.find?_eq_none_of_le (closer_of_winner_none found hp) hs.pos_le
      cases hnone.symm.trans hm
  | stop found again outside =>
      have hfound := winner_within found
      have hat := again.2
      rw [hfound.start_le_high.antisymm outside] at hat
      have hpos := hs.emptyAt _ hat
      have hwithin := Pattern.find?_within hm
      have hstart : m.start = line.size := hwithin.start_le_high.antisymm hwithin.low_le
      have hstop : m.stop = line.size := hwithin.le_high.antisymm (hstart ▸ hwithin.start_le)
      rw [hpos] at hm
      exact ⟨hat, m, winner_eq_close hp hm (hstart.trans hpos), hstart, hstop⟩

/-- The region on top behind a line is left open at its end, where the end of the region matches, just
if the last two rounds found empty matches there and the second of them is this end. The scan takes it
for the match before. -/
theorem ends_unless_again (g : Grammar) (carry : Carry) (line : List Char) :
    ∃ front s last, g.Rounds line.toArray carry.start (front ++ [s]) last ∧
      g.tokenizeLine carry line = (last.tokens.reverse, ⟨last.regions, last.memo⟩) ∧
      ∀ p, (g.rule last.regions.top.rule).closer? = some p →
        ((p.find? line.toArray line.length).isSome = true ↔
          ∃ u, front.getLast? = some u ∧ (∃ c, g.FindsEmptyEnd line.toArray u c) ∧
            g.FindsEmptyEnd line.toArray s .close) := by
  obtain ⟨scans, last, hrounds, htokens⟩ := exists_rounds_line g carry line
  obtain ⟨front, s, rfl, hdone⟩ := hrounds.exists_last
  refine ⟨front, s, last, hrounds, htokens, fun p hp => ?_⟩
  rw [regions_of_done hdone] at hp
  constructor
  · intro hend
    have hs := hrounds.placed (carry.placed_start _) s (by simp)
    obtain ⟨hat, hfinds⟩ := findsEmptyEnd_of_done hs hdone hp hend
    cases hu : front.getLast? with
    | none =>
        -- the first round remembers no match
        rw [List.getLast?_eq_none_iff.mp hu] at hrounds
        cases hrounds.head?
        cases hat
    | some u => exact ⟨u, rfl, findsEmptyEnd_of_emptyAt (hrounds.round_of_getLast? hu) hat, hfinds⟩
  · rintro ⟨u, hu, ⟨c, hfinds⟩, m, hm, _, _⟩
    obtain ⟨q, hq, hfind⟩ := closer_of_winner hm
    cases hp.symm.trans hq
    rw [hfinds.pos_eq (hrounds.round_of_getLast? hu)] at hfind
    exact Option.isSome_iff_exists.mpr ⟨m, hfind⟩

def restText : GrammarText where
  name := "Rest"
  scopeName := "source.a"
  rules := [{ name := some "meta.outer", opening := some "#", closing := some "$"
              rules := [{ name := some "meta.inner", opening := some "!", closing := some "$" }] }]

def leftOpen (g : Grammar) (line : List Char) : List String × Option Bool :=
  let top := (g.tokenizeLine ⟨g.outermost, []⟩ line).2.regions.top
  (top.inner.map Scope.name,
    (g.rule top.rule).closer?.map fun p => (p.find? line.toArray line.length).isSome)

theorem leftOpen_restText : (compile? restText).toOption.map (leftOpen · "#!".toList) =
    some (["source.a", "meta.outer"], some true) := by
  decide +kernel

theorem ends_unless_again_restText : ∃ G, compile? restText = .ok G ∧
    ∃ front s last, G.Rounds "#!".toList.toArray (Carry.start ⟨G.outermost, []⟩) (front ++ [s]) last ∧
      last.regions.top.inner.map Scope.name = ["source.a", "meta.outer"] ∧
      ∃ u, front.getLast? = some u ∧ (∃ c, G.FindsEmptyEnd "#!".toList.toArray u c) ∧
        G.FindsEmptyEnd "#!".toList.toArray s .close := by
  obtain ⟨G, hG, hopen⟩ := Option.map_eq_some_iff.mp leftOpen_restText
  obtain ⟨hscopes, hopen⟩ := Prod.mk.inj hopen
  obtain ⟨p, hp, hend⟩ := Option.map_eq_some_iff.mp hopen
  obtain ⟨front, s, last, hrounds, htokens, hends⟩ :=
    ends_unless_again G ⟨G.outermost, []⟩ "#!".toList
  rw [htokens] at hscopes hp
  exact ⟨G, eq_ok_of_toOption hG, front, s, last, hrounds, hscopes, (hends p hp).mp hend⟩

/-- The outer region is open behind the line, at the end of which it ends. -/
theorem not_ended_restText : ∃ G, compile? restText = .ok G ∧
    ∃ carry p, (G.tokenizeLine ⟨G.outermost, []⟩ "#!".toList).2 = carry ∧
      carry.regions.top.inner.map Scope.name = ["source.a", "meta.outer"] ∧
      (G.rule carry.regions.top.rule).closer? = some p ∧
      (p.find? "#!".toList.toArray "#!".toList.length).isSome = true := by
  obtain ⟨G, hG, hopen⟩ := Option.map_eq_some_iff.mp leftOpen_restText
  obtain ⟨hscopes, hopen⟩ := Prod.mk.inj hopen
  obtain ⟨p, hp, hend⟩ := Option.map_eq_some_iff.mp hopen
  exact ⟨G, eq_ok_of_toOption hG, _, p, rfl, hscopes, hp, hend⟩

end Scopemark.Grammar
