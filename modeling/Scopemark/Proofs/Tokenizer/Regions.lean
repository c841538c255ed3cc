import Scopemark.Proofs.Tokenizer.Contest
import Scopemark.Proofs.Tokenizer.Pieces

namespace Scopemark

def Rule.scopes : Rule → List Scope
  | single _ scopes _ => scopes
  | region _ _ scopes .. => scopes
  | group _ => []

def Rule.inner : Rule → List Scope
  | region _ _ _ inner .. => inner
  | _ => []

namespace Grammar

variable {g : Grammar}

/-- A frame on top of others. The last one is that of the whole text, and the others are those of
regions, which add their scopes to the inner ones of the frame below. -/
inductive Nested (g : Grammar) : Frame → List Frame → Prop
  | root : Nested g g.outermost.top []
  | region {id : RuleId} {opening closing : Pattern} {scopes inner : List Scope}
      {openingCaptures closingCaptures : List CaptureScopes} {rules : List RuleId} {top : Frame}
      {below : List Frame}
      (rule : g.rule id = .region opening closing scopes inner openingCaptures closingCaptures rules)
      (rest : Nested g top below) :
      Nested g ⟨id, top.inner ++ scopes, top.inner ++ scopes ++ inner⟩ (top :: below)

theorem rule_root (g : Grammar) : ∃ ids, g.rule root = .group ids := g.root_group

/-- The text as a whole is not a region that could end. -/
theorem Nested.below_ne_nil {top : Frame} {below : List Frame} {p : Pattern} (h : g.Nested top below)
    (hp : (g.rule top.rule).closer? = some p) : below ≠ [] := by
  cases h with
  | root =>
      obtain ⟨ids, hids⟩ := g.rule_root
      have hnone : (g.rule Grammar.root).closer? = some p := hp
      rw [hids] at hnone
      cases hnone
  | region => exact List.cons_ne_nil _ _

def Regions.opened (regions : Regions) : List RuleId :=
  ((regions.top :: regions.below).dropLast.map Frame.rule).reverse

def openScopes (g : Grammar) (ids : List RuleId) : List Scope :=
  g.scopeName :: ids.flatMap fun id => (g.rule id).scopes ++ (g.rule id).inner

theorem opened_cons (frame top : Frame) (below : List Frame) :
    Regions.opened ⟨frame, top :: below⟩ = Regions.opened ⟨top, below⟩ ++ [frame.rule] := by
  simp [Regions.opened]

theorem openScopes_append_singleton (g : Grammar) (ids : List RuleId) (id : RuleId) :
    g.openScopes (ids ++ [id]) = g.openScopes ids ++ (g.rule id).scopes ++ (g.rule id).inner := by
  simp [openScopes]

theorem Nested.inner_eq {top : Frame} {below : List Frame} (h : g.Nested top below) :
    top.inner = g.openScopes (Regions.opened ⟨top, below⟩) := by
  induction h with
  | root => rfl
  | region hrule _ ih => rw [opened_cons, openScopes_append_singleton, ← ih, hrule]; rfl

def Rooted (g : Grammar) (scopes : List Scope) : Prop := scopes.head? = some g.scopeName

theorem Rooted.append {scopes : List Scope} (h : g.Rooted scopes) (more : List Scope) :
    g.Rooted (scopes ++ more) := by
  rw [Rooted, List.head?_append, h]
  rfl

theorem rooted_openScopes (g : Grammar) (ids : List RuleId) : g.Rooted (g.openScopes ids) := rfl

/-- How a token of a match comes by its scopes. What opens or closes a region is outside of it but for
the scopes of all that its rule matches. -/
inductive Matched (g : Grammar) (regions : Regions) (m : Pattern.Match) (t : Token) :
    Candidate → Prop
  | single {id : RuleId} {pattern : Pattern} {scopes : List Scope} {captures : List CaptureScopes}
      (rule : g.rule id = .single pattern scopes captures)
      (carries : t.scopes =
        g.openScopes regions.opened ++ scopes ++ captured m captures t.start t.stop) :
      Matched g regions m t (.rule id)
  | opening {id : RuleId} {opening closing : Pattern} {scopes inner : List Scope}
      {openingCaptures closingCaptures : List CaptureScopes} {rules : List RuleId}
      (rule : g.rule id = .region opening closing scopes inner openingCaptures closingCaptures rules)
      (carries : t.scopes =
        g.openScopes regions.opened ++ scopes ++ captured m openingCaptures t.start t.stop) :
      Matched g regions m t (.rule id)
  | closing {opening closing : Pattern} {scopes inner : List Scope}
      {openingCaptures closingCaptures : List CaptureScopes} {rules : List RuleId} {top : Frame}
      {below : List Frame} (around : regions.below = top :: below)
      (rule : g.rule regions.top.rule =
        .region opening closing scopes inner openingCaptures closingCaptures rules)
      (carries : t.scopes = g.openScopes (Regions.opened ⟨top, below⟩) ++ scopes ++
        captured m closingCaptures t.start t.stop) :
      Matched g regions m t .close

variable {low high : Nat} {m : Pattern.Match} {regions : Regions}

theorem Matched.rooted {t : Token} {c : Candidate} (h : g.Matched regions m t c) :
    g.Rooted t.scopes := by
  cases h with
  | single _ carries | opening _ carries | closing _ _ carries =>
      rw [carries]
      exact ((g.rooted_openScopes _).append _).append _

theorem closeTop_sound (hm : m.Within low high) (h : g.Nested regions.top regions.below)
    (hclose : ∃ p, (g.rule regions.top.rule).closer? = some p) (tokens : Tokens) :
    g.Nested (g.closeTop m regions tokens).1.top (g.closeTop m regions tokens).1.below ∧
      Adds (fun t => g.Matched regions m t .close) m.start m.stop tokens
        (g.closeTop m regions tokens).2 := by
  obtain ⟨p, hp⟩ := hclose
  obtain ⟨top, below⟩ := regions
  cases h with
  | root => exact absurd rfl (Nested.root.below_ne_nil hp)
  | region hrule rest =>
      simp only [closeTop, hrule]
      refine ⟨rest, (addMatch_adds hm.encloses _ _ tokens).imp fun t _ _ _ ht => ?_⟩
      exact .closing rfl hrule (rest.inner_eq ▸ ht.1)

theorem applyRule_sound (hm : m.Within low high) (h : g.Nested regions.top regions.below) {id : RuleId}
    (hfinder : ∃ p, (g.rule id).finder? = some p) (tokens : Tokens) :
    g.Nested (g.applyRule id m regions tokens).1.top (g.applyRule id m regions tokens).1.below ∧
      Adds (fun t => g.Matched regions m t (.rule id)) m.start m.stop tokens
        (g.applyRule id m regions tokens).2 := by
  obtain ⟨p, hp⟩ := hfinder
  have hinner : regions.top.inner = g.openScopes regions.opened := h.inner_eq
  cases hrule : g.rule id with
  | single pattern scopes captures =>
      simp only [applyRule, hrule]
      refine ⟨h, (addMatch_adds hm.encloses _ _ tokens).imp fun t _ _ _ ht => ?_⟩
      exact .single hrule (hinner ▸ ht.1)
  | region opening closing scopes inner openingCaptures closingCaptures rules =>
      simp only [applyRule, hrule]
      refine ⟨.region hrule h, (addMatch_adds hm.encloses _ _ tokens).imp fun t _ _ _ ht => ?_⟩
      exact .opening hrule (hinner ▸ ht.1)
  | group ids =>
      rw [hrule] at hp
      cases hp

/-- A match that wins the contest of the region on top keeps the regions nested, and adds tokens for
exactly what it matched. -/
theorem applyMatch_sound (hm : m.Within low high) (h : g.Nested regions.top regions.below)
    {ids : List RuleId} {c : Candidate} {p : Pattern}
    (hc : (c, p) ∈ g.contest regions.top.rule ids) (tokens : Tokens) :
    g.Nested (g.applyMatch c m regions tokens).1.top (g.applyMatch c m regions tokens).1.below ∧
      Adds (fun t => g.Matched regions m t c) m.start m.stop tokens
        (g.applyMatch c m regions tokens).2 := by
  cases c with
  | close => exact closeTop_sound hm h ⟨p, mem_contest_close hc⟩ tokens
  | rule id => exact applyRule_sound hm h ⟨p, (mem_contest_rule hc).2⟩ tokens

end Grammar

end Scopemark
