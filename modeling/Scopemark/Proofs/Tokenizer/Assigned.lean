import Scopemark.Proofs.Scope.Set
import Scopemark.Proofs.Tokenizer.Pieces

namespace Scopemark

def Rule.given : Rule → List Scope
  | single _ scopes captures => scopes ++ captures.flatMap CaptureScopes.scopes
  | region _ _ scopes inner opening closing _ =>
    scopes ++ inner ++ (opening.flatMap CaptureScopes.scopes ++ closing.flatMap CaptureScopes.scopes)
  | group _ => []

namespace Grammar

variable {g : Grammar} {scopes base : List Scope} {captures : List CaptureScopes} {m : Pattern.Match}
  {regions : Regions} {tokens : Tokens} {line : Array Char}

inductive Gives (g : Grammar) : Scope → Prop
  | root : Gives g g.scopeName
  | rule {id : RuleId} {s : Scope} (h : s ∈ (g.rule id).given) : Gives g s

def GivesAll (g : Grammar) (scopes : List Scope) : Prop := ∀ s ∈ scopes, g.Gives s

theorem givesAll_append {more : List Scope} :
    g.GivesAll (scopes ++ more) ↔ g.GivesAll scopes ∧ g.GivesAll more :=
  List.forall_mem_append

theorem givesAll_given (g : Grammar) (id : RuleId) : g.GivesAll (g.rule id).given := fun _ => .rule

def GivesTokens (g : Grammar) (tokens : Tokens) : Prop := ∀ t ∈ tokens, g.GivesAll t.scopes

theorem GivesTokens.addToken (h : g.GivesTokens tokens) (hscopes : g.GivesAll scopes) (a b : Nat) :
    g.GivesTokens (addToken a b scopes tokens) := by
  unfold Grammar.addToken
  split
  · exact List.forall_mem_cons.mpr ⟨hscopes, h⟩
  · exact h

theorem givesAll_between (hbase : g.GivesAll base)
    (hcaptures : g.GivesAll (captures.flatMap CaptureScopes.scopes)) (a b : Nat) :
    g.GivesAll (scopesBetween base (groupSpans m captures) a b) := by
  refine givesAll_append.mpr ⟨hbase, ?_⟩
  intro s hs
  obtain ⟨span, hspan, hs⟩ := List.mem_flatMap.mp hs
  obtain ⟨c, hc, hfrom⟩ := List.mem_filterMap.mp (List.mem_filter.mp hspan).1
  apply hcaptures
  refine List.mem_flatMap.mpr ⟨c, hc, ?_⟩
  split at hfrom
  · split at hfrom
    · cases hfrom
      exact hs
    · cases hfrom
  · cases hfrom

theorem GivesTokens.addBetween {spans : List GroupSpan} (h : g.GivesTokens tokens)
    (hscopes : ∀ a b, g.GivesAll (scopesBetween base spans a b)) (cuts : List Nat) :
    g.GivesTokens (addBetween base spans cuts tokens) := by
  fun_induction Grammar.addBetween base spans cuts tokens with
  | case1 a b rest tokens ih => exact ih (h.addToken (hscopes a b) a b)
  | case2 => exact h

theorem GivesTokens.addMatch (h : g.GivesTokens tokens) (hbase : g.GivesAll base)
    (hcaptures : g.GivesAll (captures.flatMap CaptureScopes.scopes)) (m : Pattern.Match) :
    g.GivesTokens (addMatch m base captures tokens) := by
  simp only [Grammar.addMatch]
  split
  · exact h.addToken hbase m.start m.stop
  · exact h.addBetween (givesAll_between hbase hcaptures) _

structure Frame.Given (g : Grammar) (frame : Frame) : Prop where
  outer : g.GivesAll frame.outer
  inner : g.GivesAll frame.inner

def GivesRegions (g : Grammar) (regions : Regions) : Prop :=
  ∀ frame ∈ regions.top :: regions.below, frame.Given g

theorem closeTop_gives (hregions : g.GivesRegions regions) (htokens : g.GivesTokens tokens)
    (m : Pattern.Match) : g.GivesRegions (g.closeTop m regions tokens).1 ∧
      g.GivesTokens (g.closeTop m regions tokens).2 := by
  obtain ⟨htop, hbelow⟩ := List.forall_mem_cons.mp hregions
  have hgiven := g.givesAll_given regions.top.rule
  simp only [closeTop]
  split
  · exact ⟨hregions, htokens⟩
  next top below he =>
    rw [he] at hbelow
    refine ⟨hbelow, ?_⟩
    split
    next hrule =>
      rw [hrule] at hgiven
      exact htokens.addMatch htop.outer (givesAll_append.mp (givesAll_append.mp hgiven).2).2 m
    · exact htokens

theorem applyRule_gives (hregions : g.GivesRegions regions) (htokens : g.GivesTokens tokens)
    (id : RuleId) (m : Pattern.Match) : g.GivesRegions (g.applyRule id m regions tokens).1 ∧
      g.GivesTokens (g.applyRule id m regions tokens).2 := by
  obtain ⟨htop, _⟩ := List.forall_mem_cons.mp hregions
  have hgiven := g.givesAll_given id
  cases hrule : g.rule id with
  | single pattern scopes captures =>
      rw [hrule] at hgiven
      obtain ⟨hscopes, hcaptures⟩ := givesAll_append.mp hgiven
      simp only [applyRule, hrule]
      exact ⟨hregions, htokens.addMatch (givesAll_append.mpr ⟨htop.inner, hscopes⟩) hcaptures m⟩
  | region opening closing scopes inner openingCaptures closingCaptures rules =>
      rw [hrule] at hgiven
      obtain ⟨hgiven, hcaptures⟩ := givesAll_append.mp hgiven
      obtain ⟨hscopes, hinner⟩ := givesAll_append.mp hgiven
      have houter : g.GivesAll (regions.top.inner ++ scopes) := givesAll_append.mpr ⟨htop.inner, hscopes⟩
      simp only [applyRule, hrule]
      refine ⟨?_, htokens.addMatch houter (givesAll_append.mp hcaptures).1 m⟩
      exact List.forall_mem_cons.mpr ⟨⟨houter, givesAll_append.mpr ⟨houter, hinner⟩⟩, hregions⟩
  | group ids =>
      simp only [applyRule, hrule]
      exact ⟨hregions, htokens⟩

theorem applyMatch_gives (hregions : g.GivesRegions regions) (htokens : g.GivesTokens tokens)
    (candidate : Candidate) (m : Pattern.Match) :
    g.GivesRegions (g.applyMatch candidate m regions tokens).1 ∧
      g.GivesTokens (g.applyMatch candidate m regions tokens).2 := by
  cases candidate with
  | close => exact closeTop_gives hregions htokens m
  | rule id => exact applyRule_gives hregions htokens id m

structure Scan.Given (g : Grammar) (s : Scan) : Prop where
  regions : g.GivesRegions s.regions
  tokens : g.GivesTokens s.tokens

def Round.Given (g : Grammar) : Round → Prop
  | more s => s.Given g
  | done s => s.Given g

theorem takeMatch_given {s : Scan} (h : s.Given g) (line : Array Char) (candidate : Candidate)
    (m : Pattern.Match) : (g.takeMatch line s candidate m).Given g := by
  have hinner : g.GivesAll s.regions.top.inner := (h.regions _ List.mem_cons_self).inner
  have hgap := h.tokens.addToken hinner s.pos m.start
  simp only [takeMatch]
  split
  · split
    · exact ⟨h.regions, hgap.addToken hinner _ _⟩
    · exact ⟨h.regions, hgap⟩
  · obtain ⟨hregions, htokens⟩ := applyMatch_gives h.regions hgap candidate m
    exact ⟨hregions, htokens⟩

theorem round_given {s : Scan} (h : s.Given g) (line : Array Char) : (g.round line s).Given g := by
  have hinner : g.GivesAll s.regions.top.inner := (h.regions _ List.mem_cons_self).inner
  simp only [round]
  split
  · exact ⟨h.regions, h.tokens.addToken hinner _ _⟩
  next candidate m _ =>
    have hs : Scan.Given g { s with memo := (g.remember s.memo s.regions.top.rule).2 } :=
      ⟨h.regions, h.tokens⟩
    exact takeMatch_given hs line candidate m

theorem scanFrom_given {s : Scan} (h : s.Given g) (line : Array Char) (fuel : Nat) :
    (g.scanFrom line fuel s).Given g := by
  induction fuel generalizing s with
  | zero => exact h
  | succ fuel ih =>
      have hround := round_given h line
      rw [scanFrom]
      split
      next s' he =>
        rw [he] at hround
        exact hround
      next s' he =>
        rw [he] at hround
        exact ih hround

theorem tokenizeLines_given {carry : Carry} (h : g.GivesRegions carry.regions) (lines : List (List Char)) :
    ∀ tokens ∈ g.tokenizeLines carry lines, ∀ t ∈ tokens, g.GivesAll t.scopes := by
  induction lines generalizing carry with
  | nil => exact nofun
  | cons line rest ih =>
      have hscan := scanFrom_given (s := ⟨0, none, carry.regions, [], carry.memo⟩) ⟨h, nofun⟩
        line.toArray (2 * (line.toArray.size + 1))
      refine List.forall_mem_cons.mpr ⟨?_, ih hscan.regions⟩
      intro t ht
      exact hscan.tokens t (List.mem_reverse.mp ht)

theorem tokenize_given (g : Grammar) (text : String) :
    ∀ tokens ∈ (g.tokenize text).lines, ∀ t ∈ tokens, g.GivesAll t.scopes := by
  have hroot : g.GivesAll [g.scopeName] := List.forall_mem_singleton.mpr .root
  have hregions : g.GivesRegions g.outermost := List.forall_mem_singleton.mpr ⟨hroot, hroot⟩
  exact tokenizeLines_given hregions _

/-- What is assigned anywhere is the scope of the grammar or one that a rule adds. -/
theorem gives_of_mem_scopesAt {text : String} {l column : Nat} {s : Scope}
    (h : s ∈ (g.tokenize text).scopesAt l column) : g.Gives s := by
  unfold TokenizedText.scopesAt at h
  split at h
  next t ht =>
    obtain ⟨tokens, htokens, hat⟩ := Option.bind_eq_some_iff.mp ht
    have hmem : t ∈ tokens := List.mem_of_getElem? (Option.filter_eq_some_iff.mp hat).1
    exact tokenize_given g text tokens (List.mem_of_getElem? htokens) t hmem s (ScopeSet.mem_ofList.mp h)
  next => exact absurd h List.not_mem_nil

end Grammar

end Scopemark
