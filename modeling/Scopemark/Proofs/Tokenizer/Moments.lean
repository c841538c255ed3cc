import Scopemark.Proofs.Tokenizer.Resume

namespace Scopemark.Grammar

variable {g : Grammar} {text : String} {i : Nat} {line : List Char} {s : Scan}

def carryAt (g : Grammar) (text : String) (i : Nat) : Carry :=
  g.carryAfter ⟨g.outermost, []⟩ ((Text.lines text.toList).take i)

structure Moment (g : Grammar) (text : String) (i : Nat) (line : List Char) (s : Scan) : Prop where
  inText : (Text.lines text.toList)[i]? = some line
  scanned : ∃ scans last, g.Rounds line.toArray (g.carryAt text i).start scans last ∧ s ∈ scans

theorem nested_carryAt (g : Grammar) (text : String) (i : Nat) :
    g.Nested (g.carryAt text i).regions.top (g.carryAt text i).regions.below :=
  carryAfter_nested .root _

theorem Moment.sound (h : g.Moment text i line s) :
    s.Placed line.toArray ∧ g.Nested s.regions.top s.regions.below := by
  obtain ⟨scans, last, hrounds, hs⟩ := h.scanned
  exact (hrounds.nested (Carry.placed_start _ _) (nested_carryAt g text i)).1 s hs

theorem Moment.winner_ne_close (h : g.Moment text i line s) (hbelow : s.regions.below = [])
    (m : Pattern.Match) : g.winner line.toArray s ≠ some (.close, m) := by
  intro hwinner
  obtain ⟨p, hp, _⟩ := closer_of_winner hwinner
  exact h.sound.2.below_ne_nil hp hbelow

theorem getElem?_tokenizeLines (g : Grammar) (carry : Carry) (lines : List (List Char)) (i : Nat) :
    (g.tokenizeLines carry lines)[i]? =
      lines[i]?.map fun line => (g.tokenizeLine (g.carryAfter carry (lines.take i)) line).1 := by
  induction lines generalizing carry i with
  | nil => rfl
  | cons line rest ih =>
      cases i with
      | zero => rfl
      | succ i => exact ih (g.tokenizeLine carry line).2 i

/-- The tokens of a line are those that its rounds write. -/
theorem exists_rounds_tokens (hline : (Text.lines text.toList)[i]? = some line) {tokens : LineTokens}
    (htokens : (g.tokenize text).lines[i]? = some tokens) :
    ∃ scans last, g.Rounds line.toArray (g.carryAt text i).start scans last ∧
      tokens = last.tokens.reverse := by
  obtain ⟨scans, last, hrounds, hrun⟩ := exists_rounds_line g (g.carryAt text i) line
  have hget := getElem?_tokenizeLines g ⟨g.outermost, []⟩ (Text.lines text.toList) i
  rw [hline, Option.map_some] at hget
  refine ⟨scans, last, hrounds, ?_⟩
  obtain rfl := Option.some.inj (htokens.symm.trans hget)
  exact congrArg Prod.fst hrun

/-- At every moment of tokenizing a text, and behind its end, the open regions are nested: below all of
them is the frame of the whole text, which has the scope of the grammar and cannot be closed, and each
adds the scopes of its rule to those of the one below. Each token is written by the round that deals
with it, which gives text that nothing matched the scopes of the open regions, the text of a match those
and the scopes of its rule, and what opens and closes a region the same scopes, but not the inner ones
of that region. -/
theorem regions_nested (g : Grammar) (text : String) :
    g.Nested (g.regionsAfter g.outermost text).top (g.regionsAfter g.outermost text).below ∧
    (∀ i line s, g.Moment text i line s →
      g.Nested s.regions.top s.regions.below ∧
        (s.regions.below = [] → ∀ m, g.winner line.toArray s ≠ some (.close, m))) ∧
    ∀ i line tokens, (Text.lines text.toList)[i]? = some line →
      (g.tokenize text).lines[i]? = some tokens → ∀ t ∈ tokens,
        (∃ s, g.Moment text i line s ∧ s.Deals g line.toArray t) ∧
        ∀ s, g.Moment text i line s → s.Deals g line.toArray t → g.Written line.toArray s t := by
  refine ⟨carryAfter_nested .root _, fun i line s h => ⟨h.sound.2, h.winner_ne_close⟩, ?_⟩
  intro i line tokens hline htokens t ht
  obtain ⟨scans, last, hrounds, rfl⟩ := exists_rounds_tokens hline htokens
  have hadds := hrounds.writes (Carry.placed_start _ _) (nested_carryAt g text i)
  obtain ⟨⟨s, hs, hdeals⟩, hall⟩ := hadds.forall_mem t ht
  refine ⟨⟨s, ⟨hline, scans, last, hrounds, hs⟩, hdeals⟩, fun u hu hdeals => ?_⟩
  obtain ⟨scans', last', hrounds', hmem⟩ := hu.scanned
  obtain ⟨rfl, rfl⟩ := hrounds'.unique hrounds
  exact hall u hmem hdeals

/-- The region that the first line opens is closed behind the first column of the second. -/
theorem regions_nested_nestedText : ∃ G, compile? nestedText = .ok G ∧
    ∃ tokens t s, (G.tokenize "<x\n>y").lines[1]? = some tokens ∧ t ∈ tokens ∧
      t.start = 0 ∧ t.stop = 1 ∧ G.Moment "<x\n>y" 1 ">y".toList s ∧
      G.Nested s.regions.top s.regions.below ∧ G.Written ">y".toList.toArray s t := by
  have hrun : (compile? nestedText).toOption.map (fun G =>
      (G.tokenize "<x\n>y").lines[1]?.map (·.map fun t => (t.start, t.stop))) =
      some (some [(0, 1), (1, 2)]) := by
    decide +kernel
  obtain ⟨G, hG, hrun⟩ := Option.map_eq_some_iff.mp hrun
  obtain ⟨tokens, htokens, hcolumns⟩ := Option.map_eq_some_iff.mp hrun
  have hline : (Text.lines "<x\n>y".toList)[1]? = some ">y".toList := by cbv
  have hmem : (0, 1) ∈ tokens.map fun t => (t.start, t.stop) := by
    rw [hcolumns]
    exact List.mem_cons_self
  obtain ⟨t, ht, hcolumns⟩ := List.mem_map.mp hmem
  obtain ⟨hstart, hstop⟩ := Prod.mk.inj hcolumns
  obtain ⟨_, hmoments, hwritten⟩ := regions_nested G "<x\n>y"
  obtain ⟨⟨s, hs, hdeals⟩, hall⟩ := hwritten 1 _ tokens hline htokens t ht
  exact ⟨G, eq_ok_of_toOption hG, tokens, t, s, htokens, ht, hstart, hstop, hs,
    (hmoments 1 _ s hs).1, hall s hs hdeals⟩

end Scopemark.Grammar
