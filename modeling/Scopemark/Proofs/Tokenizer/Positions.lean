import Scopemark.Proofs.Fixture.Lines
import Scopemark.Proofs.Fixture.Positions
import Scopemark.Proofs.Scope.Set
import Scopemark.Proofs.Tokenizer.Scan

namespace Scopemark

def InText (text : String) (line column : Nat) : Prop :=
  ∃ chars, (Text.lines text.toList)[line]? = some chars ∧ column < chars.length

namespace Grammar

variable {g : Grammar} {text : String} {line column : Nat}

/-- The token is the only one of its line that covers the place, and its scopes are those that are
found there. -/
structure Hits (g : Grammar) (text : String) (line column : Nat) (tokens : LineTokens) (t : Token) :
    Prop where
  lineTokens : (g.tokenize text).lines[line]? = some tokens
  mem : t ∈ tokens
  covers : t.start ≤ column ∧ column < t.stop
  only : ∀ u ∈ tokens, u.start ≤ column ∧ column < u.stop → u = t
  scopes : (g.tokenize text).scopesAt line column = .ofList t.scopes
  rooted : g.Rooted t.scopes

theorem getElem?_lines_tokenize {chars : List Char} (h : (Text.lines text.toList)[line]? = some chars) :
    ∃ tokens, (g.tokenize text).lines[line]? = some tokens ∧ g.Cuts chars tokens := by
  have hcuts := tokenize_cuts g text
  obtain ⟨hlt, rfl⟩ := List.getElem?_eq_some_iff.mp h
  have hlt' : line < (g.tokenize text).lines.length := hcuts.length_eq ▸ hlt
  exact ⟨_, List.getElem?_eq_getElem hlt', hcuts.get hlt hlt'⟩

theorem exists_hits (h : InText text line column) : ∃ tokens t, g.Hits text line column tokens t := by
  obtain ⟨chars, hchars, hcolumn⟩ := h
  obtain ⟨tokens, htokens, htiles, hrooted⟩ := getElem?_lines_tokenize (g := g) hchars
  obtain ⟨t, ht, hstart, hstop, hat⟩ := htiles.exists_tokenAt? (Nat.zero_le column) hcolumn
  refine ⟨tokens, t, htokens, ht, ⟨hstart, hstop⟩, ?_, ?_, hrooted t ht⟩
  · intro u hu hcovers
    exact htiles.covering_unique hu ht hcovers ⟨hstart, hstop⟩
  · rw [TokenizedText.scopesAt, htokens, Option.bind_some, hat]

theorem scopesAt_of_not_inText (h : ¬ InText text line column) :
    (g.tokenize text).scopesAt line column = .empty := by
  cases hline : (Text.lines text.toList)[line]? with
  | none =>
      have hnone : (g.tokenize text).lines[line]? = none := by
        rw [List.getElem?_eq_none_iff] at hline ⊢
        exact (lineCount_tokenize g text).trans_le hline
      rw [TokenizedText.scopesAt, hnone]
      rfl
  | some chars =>
      obtain ⟨tokens, htokens, htiles, _⟩ := getElem?_lines_tokenize (g := g) hline
      have hcolumn : chars.length ≤ column := Nat.le_of_not_lt fun hlt => h ⟨chars, hline, hlt⟩
      rw [TokenizedText.scopesAt, htokens, Option.bind_some, htiles.tokenAt?_of_le hcolumn]

theorem Hits.scopeName_mem {tokens : LineTokens} {t : Token} (h : g.Hits text line column tokens t) :
    g.scopeName ∈ (g.tokenize text).scopesAt line column := by
  rw [h.scopes, ScopeSet.mem_ofList]
  exact List.mem_of_mem_head? h.rooted

theorem exists_located {f : Fixture} (h : Fixture.read? text = .ok f) {a : ScopeAssertion}
    (ha : a ∈ f.assertions) :
    ∃ s ∈ f.lines, a ∈ s.assertions ∧ s.index = a.sourceLine ∧ a.span.stop < s.text.length ∧
      (Text.lines text.toList)[a.sourceLine]? = some s.text.toList := by
  obtain ⟨s, hs, has⟩ := List.mem_flatMap.mp ha
  have hlocated := (Fixture.read?_located h).2 s hs
  obtain ⟨_, hconcerns⟩ := hlocated.assertions a has
  refine ⟨s, hs, has, hconcerns.sourceLine.symm, hconcerns.stop_lt, ?_⟩
  rw [hconcerns.sourceLine]
  exact hlocated.line

/-- Questions for scopes, tokens and assertions agree on places, whether lines are cut by offsets or read
by columns. A place in the text is answered by the one token that covers it, any other place by no scope.
So a column of an assertion is answered by a token of the line that the fixture keeps as the one the
assertion is about. -/
theorem scopesAt_agrees (g : Grammar) (text : String) :
    g.tokenizeAt? text = some (g.tokenize text) ∧
    Fixture.readAt? text = Fixture.sure (Fixture.read? text) ∧
    (∀ line column, InText text line column → ∃ tokens t, g.Hits text line column tokens t) ∧
    (∀ line column, ¬ InText text line column →
      (g.tokenize text).scopesAt line column = .empty) ∧
    ∀ f, Fixture.read? text = .ok f → f.text = text ∧
      ∀ a ∈ f.assertions, ∀ column, a.span.contains column = true →
        ∃ s ∈ f.lines, a ∈ s.assertions ∧ s.index = a.sourceLine ∧
          (Text.lines text.toList)[a.sourceLine]? = some s.text.toList ∧
          (∃ tokens t, g.Hits text a.sourceLine column tokens t) ∧
          g.scopeName ∈ (g.tokenize text).scopesAt a.sourceLine column := by
  refine ⟨tokenizeAt?_eq g text, Fixture.readAt?_eq text, fun _ _ => exists_hits,
    fun _ _ => scopesAt_of_not_inText, ?_⟩
  intro f hf
  refine ⟨(Fixture.read?_located hf).1, ?_⟩
  intro a ha column hcolumn
  obtain ⟨s, hs, has, hindex, hstop, hline⟩ := exists_located hf ha
  simp only [ColumnSpan.contains, Bool.and_eq_true, decide_eq_true_eq] at hcolumn
  have hlength : column < s.text.toList.length := by
    rw [String.length_toList]
    omega
  obtain ⟨tokens, t, hits⟩ := exists_hits (g := g) ⟨s.text.toList, hline, hlength⟩
  exact ⟨s, hs, has, hindex, hline, ⟨tokens, t, hits⟩, hits.scopeName_mem⟩

def plain : Grammar :=
  ⟨"Plain", ⟨"text.plain", by decide, by decide⟩, [], #[.group []], [], rfl⟩

def lambdaText : String := "é λ\n//^ a.b - c"

def lambdaAssertion : ScopeAssertion :=
  ⟨0, 1, ⟨2, 2, Nat.le_refl 2⟩, .caret, [⟨"a.b", rfl, rfl⟩], [⟨"c", rfl, rfl⟩]⟩

theorem scopesAt_agrees_lambdaText :
    plain.tokenizeAt? lambdaText = some (plain.tokenize lambdaText) ∧
    Fixture.readAt? lambdaText = Fixture.sure (Fixture.read? lambdaText) ∧
    (∃ tokens t, plain.Hits lambdaText 0 2 tokens t) ∧
    (plain.tokenize lambdaText).scopesAt 0 3 = .empty ∧
    ∃ f, Fixture.read? lambdaText = .ok f ∧ lambdaAssertion ∈ f.assertions ∧
      lambdaAssertion.span.contains 2 = true ∧
      plain.scopeName ∈ (plain.tokenize lambdaText).scopesAt lambdaAssertion.sourceLine 2 := by
  have hread : Fixture.read? lambdaText =
      .ok ⟨none, lambdaText, [⟨0, "é λ", [lambdaAssertion]⟩]⟩ := by cbv
  have hline : (Text.lines lambdaText.toList)[0]? = some "é λ".toList := by cbv
  obtain ⟨hbytes, hpositions, hin, hout, hfixture⟩ := scopesAt_agrees plain lambdaText
  refine ⟨hbytes, hpositions, hin 0 2 ⟨_, hline, by decide⟩, hout 0 3 ?_, _, hread, List.mem_singleton_self _, rfl, ?_⟩
  · rintro ⟨chars, hchars, hcolumn⟩
    rw [hline] at hchars
    cases hchars
    exact absurd hcolumn (by decide)
  · obtain ⟨s, _, _, _, _, _, hscope⟩ :=
      (hfixture _ hread).2 lambdaAssertion (List.mem_singleton_self _) 2 rfl
    exact hscope

end Grammar

end Scopemark
