import Scopemark.Proofs.Tokenizer.Bytes
import Scopemark.Proofs.Tokenizer.Regions

namespace Scopemark.Grammar

variable {g : Grammar} {line : Array Char} {s last : Scan} {scans : List Scan}

def Round.after : Round → Scan
  | more s => s
  | done s => s

def Round.stop (line : Array Char) : Round → Nat
  | more s => s.pos
  | done _ => line.size

/-- How a token comes about in the round that starts from a scan. What no match covers has the scopes of
the open regions. -/
inductive Written (g : Grammar) (line : Array Char) (s : Scan) (t : Token) : Prop
  /-- Nothing matches any more. -/
  | behind (found : g.winner line s = none) (carries : t.scopes = g.openScopes s.regions.opened)
  | before {c : Candidate} {m : Pattern.Match} (found : g.winner line s = some (c, m))
      (stop_le : t.stop ≤ m.start) (carries : t.scopes = g.openScopes s.regions.opened)
  /-- The character behind an empty match that was found before. -/
  | passed {c : Candidate} {m : Pattern.Match} (found : g.winner line s = some (c, m))
      (again : s.Again m) (columns : t.start = m.start ∧ t.stop = m.start + 1)
      (carries : t.scopes = g.openScopes s.regions.opened)
  | matched {c : Candidate} {m : Pattern.Match} (found : g.winner line s = some (c, m))
      (first : ¬ s.Again m) (inside : m.start ≤ t.start ∧ t.stop ≤ m.stop)
      (carries : g.Matched s.regions m t c)

theorem Written.rooted {t : Token} (h : g.Written line s t) : g.Rooted t.scopes := by
  cases h with
  | behind _ carries | before _ _ carries | passed _ _ _ carries =>
      rw [carries]
      exact g.rooted_openScopes _
  | matched _ _ _ carries => exact carries.rooted

/-- A round keeps the regions nested, and writes tokens for all of the text that it is about. -/
theorem round_writes (hs : s.Placed line) (h : g.Nested s.regions.top s.regions.below) :
    g.Nested (g.round line s).after.regions.top (g.round line s).after.regions.below ∧
      Adds (g.Written line s) s.pos ((g.round line s).stop line) s.tokens
        (g.round line s).after.tokens := by
  have hinner : s.regions.top.inner = g.openScopes s.regions.opened := h.inner_eq
  have hturns := round_turns g line s
  generalize g.round line s = r at hturns
  cases hturns with
  | behind found =>
      exact ⟨h, addToken_adds _ s.tokens hs.pos_le fun _ => .behind found hinner⟩
  | @pass c m found again inside =>
      have hgap := addToken_adds (P := g.Written line s) s.regions.top.inner s.tokens
        (winner_within found).low_le fun _ => .before found (Nat.le_refl _) hinner
      exact ⟨h, hgap.trans (addToken_adds _ _ (Nat.le_succ m.start) fun _ =>
        .passed found again ⟨rfl, rfl⟩ hinner)⟩
  | @stop c m found again outside =>
      have hend : m.start = line.size := (winner_within found).start_le_high.antisymm outside
      have hgap := addToken_adds (P := g.Written line s) s.regions.top.inner s.tokens
        (winner_within found).low_le fun _ => .before found (Nat.le_refl _) hinner
      exact ⟨h, hend ▸ hgap⟩
  | @take c m found first =>
      have hgap := addToken_adds (P := g.Written line s) s.regions.top.inner s.tokens
        (winner_within found).low_le fun _ => .before found (Nat.le_refl _) hinner
      obtain ⟨p, hp, _⟩ := exists_of_bestMatch found
      obtain ⟨hnested, hadds⟩ := applyMatch_sound (winner_within found) h hp
        (addToken s.pos m.start s.regions.top.inner s.tokens)
      exact ⟨hnested, hgap.trans (hadds.imp fun t hlow _ hhigh ht =>
        .matched found first ⟨hlow, hhigh⟩ ht)⟩

theorem Rounds.nested (h : g.Rounds line s scans last) (hs : s.Placed line)
    (hnested : g.Nested s.regions.top s.regions.below) :
    (∀ u ∈ scans, u.Placed line ∧ g.Nested u.regions.top u.regions.below) ∧
      g.Nested last.regions.top last.regions.below := by
  refine h.invariant (Q := fun u => g.Nested u.regions.top u.regions.below) ⟨hs, hnested⟩ ?_ ?_
  · rintro u u' ⟨hu, hnested⟩ hround
    have hafter := (round_writes hu hnested).1
    rw [hround] at hafter
    exact ⟨(hu.round hround).1, hafter⟩
  · rintro u u' ⟨hu, hnested⟩ hround
    have hafter := (round_writes hu hnested).1
    rw [hround] at hafter
    exact hafter

theorem Rounds.pos_le (h : g.Rounds line s scans last) (hs : s.Placed line) :
    ∀ u ∈ scans, s.pos ≤ u.pos := by
  induction h with
  | done => exact List.forall_mem_singleton.mpr (Nat.le_refl _)
  | more hround _ ih =>
      obtain ⟨hs', hadvances⟩ := hs.round hround
      have hle : _ ≤ _ := hadvances.elim Nat.le_of_lt fun hstay => hstay.1.ge
      exact List.forall_mem_cons.mpr ⟨Nat.le_refl _, fun u hu => hle.trans (ih hs' u hu)⟩

def Scan.Deals (g : Grammar) (line : Array Char) (s : Scan) (t : Token) : Prop :=
  s.pos ≤ t.start ∧ t.start < (g.round line s).stop line

/-- Each token of a scan is written by the one round that deals with it. -/
theorem Rounds.writes (h : g.Rounds line s scans last) (hs : s.Placed line)
    (hnested : g.Nested s.regions.top s.regions.below) :
    Adds (fun t => (∃ u ∈ scans, u.Deals g line t) ∧
        ∀ u ∈ scans, u.Deals g line t → g.Written line u t)
      s.pos line.size s.tokens last.tokens := by
  induction h with
  | @done s last hround =>
      have hadds := (round_writes hs hnested).2
      have hdeals (t : Token) (hlow : s.pos ≤ t.start) (hlt : t.start < line.size) :
          s.Deals g line t := ⟨hlow, by rw [hround]; exact hlt⟩
      rw [hround] at hadds
      refine hadds.imp fun t hlow hlt hhigh ht => ⟨⟨s, List.mem_singleton_self s, ?_⟩, ?_⟩
      · exact hdeals t hlow (hlt.trans_le hhigh)
      · exact List.forall_mem_singleton.mpr fun _ => ht
  | @more s s' last scans hround rest ih =>
      obtain ⟨hnested', hadds⟩ := round_writes hs hnested
      have hs' := (hs.round hround).1
      have hstop : (g.round line s).stop line = s'.pos := by rw [hround]; rfl
      rw [hround] at hnested' hadds
      refine (hadds.imp ?_).trans ((ih hs' hnested').imp ?_)
      · intro t hlow hlt hhigh ht
        have hbefore : t.start < s'.pos := hlt.trans_le hhigh
        refine ⟨⟨s, List.mem_cons_self, hlow, by rw [hstop]; exact hbefore⟩, ?_⟩
        -- The rounds that follow start where this one stops.
        refine List.forall_mem_cons.mpr ⟨fun _ => ht, fun u hu hdeals => ?_⟩
        exact absurd hbefore (Nat.not_lt.mpr ((rest.pos_le hs' u hu).trans hdeals.1))
      · rintro t hlow _ _ ⟨⟨u, hu, hdeals⟩, hall⟩
        refine ⟨⟨u, List.mem_cons_of_mem _ hu, hdeals⟩, List.forall_mem_cons.mpr ⟨?_, hall⟩⟩
        rintro ⟨_, hlt⟩
        rw [hstop] at hlt
        exact absurd hlt (Nat.not_lt.mpr hlow)

def Cuts (g : Grammar) (line : List Char) (tokens : LineTokens) : Prop :=
  Tiles 0 line.length tokens ∧ ∀ t ∈ tokens, g.Rooted t.scopes

theorem tokenizeLine_sound {carry : Carry} (h : g.Nested carry.regions.top carry.regions.below)
    (line : List Char) :
    g.Cuts line (g.tokenizeLine carry line).1 ∧
      g.Nested (g.tokenizeLine carry line).2.regions.top
        (g.tokenizeLine carry line).2.regions.below := by
  obtain ⟨scans, last, hrounds, htokens⟩ := exists_rounds_line g carry line
  have hstart := carry.placed_start line.toArray
  have hadds := hrounds.writes hstart h
  rw [htokens]
  refine ⟨⟨hadds.tiles, fun t ht => ?_⟩, (hrounds.nested hstart h).2⟩
  obtain ⟨⟨u, hu, hdeals⟩, hall⟩ := hadds.forall_mem t ht
  exact (hall u hu hdeals).rooted

theorem tokenizeLines_cuts {carry : Carry} (h : g.Nested carry.regions.top carry.regions.below)
    (lines : List (List Char)) : List.Forall₂ g.Cuts lines (g.tokenizeLines carry lines) := by
  induction lines generalizing carry with
  | nil => exact .nil
  | cons line rest ih =>
      obtain ⟨hline, hcarry⟩ := tokenizeLine_sound h line
      exact .cons hline (ih hcarry)

theorem tokenize_cuts (g : Grammar) (text : String) :
    List.Forall₂ g.Cuts (Text.lines text.toList) (g.tokenize text).lines :=
  tokenizeLines_cuts .root _

theorem lineCount_tokenize (g : Grammar) (text : String) :
    (g.tokenize text).lineCount = (Text.lines text.toList).length :=
  (tokenize_cuts g text).length_eq.symm

/-- The tokens are an exact partition of the line, and all of them carry the scope of the grammar. -/
structure Partitioned (g : Grammar) (line : List Char) (tokens : LineTokens) : Prop
    extends Partitions line.length tokens where
  rooted : ∀ t ∈ tokens, t.scopes.head? = some g.scopeName

/-- Every line of a text gets tokens of its own, and these are an exact partition of it. Cutting by offsets
gives these tokens too: no offset is out of range or inside of a character. No assumption on the patterns
of the grammar is made, for a search finds nothing outside of the line. -/
theorem tokenize_partitioned (g : Grammar) (text : String) :
    g.tokenizeAt? text = some (g.tokenize text) ∧
      (g.tokenize text).lineCount = (Text.lines text.toList).length ∧
      List.Forall₂ g.Partitioned (Text.lines text.toList) (g.tokenize text).lines := by
  refine ⟨tokenizeAt?_eq g text, lineCount_tokenize g text, (tokenize_cuts g text).imp ?_⟩
  rintro line tokens ⟨htiles, hrooted⟩
  exact ⟨htiles.partitions, hrooted⟩

end Scopemark.Grammar
