import Scopemark.Proofs.Check.Counts
import Scopemark.Proofs.Text.Lines
import Scopemark.Proofs.Tokenizer.Positions

namespace Scopemark

variable {text text' : String}

theorem Grammar.tokenize_of_lines_eq (g : Grammar)
    (h : Text.lines text'.toList = Text.lines text.toList) : g.tokenize text' = g.tokenize text := by
  rw [tokenize, h, tokenize]

theorem Fixture.read?_of_lines_eq (h : Text.lines text'.toList = Text.lines text.toList) :
    read? text' = (read? text).map fun f => { f with text := text' } := by
  unfold read?
  rw [h]
  dsimp only
  generalize readLines _ [] 0 (Text.lines text.toList) = sources
  cases sources <;> rfl

namespace Check

variable {mode : MatchMode} {f f' : String → Nat → Nat → ScopeSet}

theorem firstMismatch_congr (h : f text = f' text') (a : ScopeAssertion) (count column : Nat) :
    firstMismatch (.ofFunction f) mode text a count column =
      firstMismatch (.ofFunction f') mode text' a count column := by
  induction count generalizing column with
  | zero => rfl
  | succ count ih => rw [firstMismatch_succ, firstMismatch_succ, h, ih]

theorem checkAssertions_congr (h : f text = f' text') (summary : FileSummary)
    (as : List ScopeAssertion) :
    checkAssertions (.ofFunction f) mode text summary as =
      checkAssertions (.ofFunction f') mode text' summary as := by
  have hstep (a : ScopeAssertion) :
      checkAssertion (.ofFunction f) mode text a = checkAssertion (.ofFunction f') mode text' a := by
    unfold checkAssertion
    rw [firstMismatch_congr h]
  rw [checkAssertions_eq_foldl, checkAssertions_eq_foldl]
  simp only [hstep]

theorem checkSource_of_lines_eq (h : Text.lines text'.toList = Text.lines text.toList) (g : Grammar)
    (path : FilePath) :
    checkSource (.ofFunction g.scopesIn) mode path text' =
      checkSource (.ofFunction g.scopesIn) mode path text := by
  have hscopes : g.scopesIn text' = g.scopesIn text := by
    funext line column
    rw [Grammar.scopesIn, g.tokenize_of_lines_eq h, Grammar.scopesIn]
  unfold checkSource
  rw [Fixture.read?_of_lines_eq h]
  cases hread : Fixture.read? text with
  | error e => rfl
  | ok fixture =>
      have htext : g.scopesIn text' = g.scopesIn fixture.text := by
        rw [hscopes, (Fixture.read?_located hread).1]
      exact checkAssertions_congr htext { path, suite := fixture.suiteName } fixture.assertions

/-- Whether a line ends with a line feed or with a carriage return and a line feed, and whether the
last one has an end at all, is seen neither in tokens nor in fixtures nor in what an oracle's answers
make of them. The oracle may hold anything that its calls can have left in its cache. -/
theorem checkSource_of_ended {rows : List (List Char)} (hrows : ∀ row ∈ rows, Text.OneLine row)
    (h : Text.Ended rows text.toList) (h' : Text.Ended rows text'.toList) :
    (∀ g : Grammar, g.tokenize text' = g.tokenize text) ∧
    (Fixture.read? text' = (Fixture.read? text).map fun f => { f with text := text' }) ∧
    ∀ (g : Grammar) (key : String → UInt64) (mode : MatchMode) (path : FilePath) (c c' : Cache),
      c.Sound g key → c'.Sound g key →
      ((checkSource (g.oracle key) mode path text').run c').1 =
        ((checkSource (g.oracle key) mode path text).run c).1 := by
  have hlines : Text.lines text'.toList = Text.lines text.toList :=
    (h'.lines_eq hrows).trans (h.lines_eq hrows).symm
  refine ⟨fun g => g.tokenize_of_lines_eq hlines, Fixture.read?_of_lines_eq hlines, ?_⟩
  intro g key mode path c c' hc hc'
  have hpure (text : String) {c : Cache} (hc : c.Sound g key) :
      ((checkSource (g.oracle key) mode path text).run c).1 =
        checkSource (.ofFunction g.scopesIn) mode path text :=
    (checkSource_related (Computes.congruent _) (g.oracle_answers key) path text c hc).1
  rw [hpure text' hc', hpure text hc, checkSource_of_lines_eq hlines]

def returnText : String := "é λ\r\n//^ a.b - c\r\n"

theorem checkSource_of_ended_returnText :
    Grammar.plain.tokenize returnText = Grammar.plain.tokenize Grammar.lambdaText ∧
    (∃ f, Fixture.read? returnText = .ok f ∧ f.lines = [⟨0, "é λ", [Grammar.lambdaAssertion]⟩]) ∧
    ((checkSource (Grammar.plain.oracle hash) .exact "a.cs" returnText).run Cache.empty).1 =
      ((checkSource (Grammar.plain.oracle hash) .exact "a.cs" Grammar.lambdaText).run
        (Cache.empty.insert (hash returnText) returnText (Grammar.plain.tokenize returnText))).1 := by
  have hrows : ∀ row ∈ ["é λ".toList, "//^ a.b - c".toList], Text.OneLine row := by
    simp only [List.forall_mem_cons, List.not_mem_nil, false_imp_iff, implies_true, and_true]
    exact ⟨⟨by decide, by decide⟩, ⟨by decide, by decide⟩⟩
  have hfeed : Text.Ended ["é λ".toList, "//^ a.b - c".toList] Grammar.lambdaText.toList :=
    .feed (.bare (by decide))
  have hreturn : Text.Ended ["é λ".toList, "//^ a.b - c".toList] returnText.toList :=
    .returnFeed (.returnFeed .nil)
  obtain ⟨htokens, hread, hcheck⟩ := checkSource_of_ended hrows hfeed hreturn
  refine ⟨htokens _, ?_, hcheck _ _ _ _ _ _ Cache.sound_empty.insert Cache.sound_empty⟩
  have hlambda : Fixture.read? Grammar.lambdaText =
      .ok ⟨none, Grammar.lambdaText, [⟨0, "é λ", [Grammar.lambdaAssertion]⟩]⟩ := by cbv
  rw [hlambda] at hread
  exact ⟨_, hread, rfl⟩

end Check

end Scopemark
