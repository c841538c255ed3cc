import Scopemark.Proofs.Check.Matching
import Scopemark.Proofs.Check.Transparent
import Scopemark.Proofs.Except
import Scopemark.Proofs.Tokenizer.Assigned

namespace Scopemark

variable {a : ScopeAssertion} {actual : ScopeSet} {root : Scope} {f : Nat → Nat → ScopeSet}

namespace ScopeAssertion

/-- What is assigned is as the assertion asks for, if one scope is set aside and nothing else. -/
structure MeetsBut (a : ScopeAssertion) (root : Scope) (actual : ScopeSet) : Prop where
  expected : ∀ s ∈ a.expected, s ∈ actual
  excluded : ∀ s ∈ a.excluded, s ∉ actual
  others : ∀ s ∈ actual, s ≠ root → s ∈ a.expected

def HoldsBut (a : ScopeAssertion) (root : Scope) (f : Nat → Nat → ScopeSet) : Prop :=
  ∀ column, a.span.start ≤ column → column ≤ a.span.stop → a.MeetsBut root (f a.sourceLine column)

def asking (line column : Nat) (expected : List Scope) : ScopeAssertion :=
  ⟨line, line + 1, ⟨column, column, Nat.le_refl column⟩, .caret, expected, []⟩

theorem forall_span_asking {P : Nat → Prop} (line column : Nat) (expected : List Scope) :
    (∀ i, (asking line column expected).span.start ≤ i → i ≤ (asking line column expected).span.stop →
      P i) ↔ P column := by
  constructor
  · intro h
    exact h column (Nat.le_refl column) (Nat.le_refl column)
  · intro h i hle hge
    obtain rfl : i = column := Nat.le_antisymm hge hle
    exact h

/-- The only scope with the name of a root is `root`. -/
theorem meets_exact_iff (h : ∀ s ∈ actual, s.isRoot = true ↔ s = root) :
    a.Meets .exact actual ↔ a.MeetsBut root actual := by
  constructor
  · intro hmeets
    refine ⟨hmeets.expected, hmeets.excluded, ?_⟩
    intro s hs hne
    by_contra hnot
    exact hne ((h s hs).mp (Scope.isRoot_iff.mpr (hmeets.others rfl s hs hnot)))
  · intro hmeets
    refine ⟨hmeets.expected, hmeets.excluded, ?_⟩
    intro _ s hs hnot
    apply Scope.isRoot_iff.mp
    rw [h s hs]
    by_contra hne
    exact hnot (hmeets.others s hs hne)

/-- It is enough to ask for all that is assigned but one scope. -/
theorem isRoot_iff_of_asking {line column : Nat}
    (h : ∀ expected, (asking line column expected).Meets .exact actual ↔
      (asking line column expected).MeetsBut root actual) :
    ∀ s ∈ actual, s.isRoot = true ↔ s = root := by
  intro s hs
  have hmem : ∀ t, t ∈ actual.toList.filter (· != s) ↔ t ∈ actual ∧ t ≠ s := by
    intro t
    rw [List.mem_filter, bne_iff_ne]
    exact Iff.rfl
  have hask := h (actual.toList.filter (· != s))
  have hassigned : ∀ t ∈ actual.toList.filter (· != s), t ∈ actual := fun t ht => ((hmem t).mp ht).1
  constructor
  · intro hroot
    by_contra hne
    have hmeets : (asking line column (actual.toList.filter (· != s))).Meets .exact actual := by
      refine ⟨hassigned, nofun, ?_⟩
      intro _ t ht hnot
      have heq : t = s := by
        by_contra hts
        exact hnot ((hmem t).mpr ⟨ht, hts⟩)
      rw [heq]
      exact Scope.isRoot_iff.mp hroot
    exact ((hmem s).mp ((hask.mp hmeets).others s hs hne)).2 rfl
  · rintro rfl
    have hbut : (asking line column (actual.toList.filter (· != s))).MeetsBut s actual :=
      ⟨hassigned, nofun, fun t ht hts => (hmem t).mpr ⟨ht, hts⟩⟩
    apply Scope.isRoot_iff.mpr
    exact (hask.mpr hbut).others rfl s hs fun hs' => ((hmem s).mp hs').2 rfl

theorem holds_exact_iff : (∀ a : ScopeAssertion, a.Holds .exact f ↔ a.HoldsBut root f) ↔
    ∀ line column, ∀ s ∈ f line column, s.isRoot = true ↔ s = root := by
  constructor
  · intro h line column
    apply isRoot_iff_of_asking
    intro expected
    have hask := h (asking line column expected)
    rw [Holds, HoldsBut, forall_span_asking, forall_span_asking] at hask
    exact hask
  · intro h a
    exact forall₃_congr fun column _ _ => meets_exact_iff (h a.sourceLine column)

end ScopeAssertion

namespace Check

variable {g : Grammar} {key : String → UInt64} {c : Cache}

theorem passed_oracle_iff (hc : c.Sound g key) (mode : MatchMode) (text : String) (a : ScopeAssertion) :
    ((checkAssertion (g.oracle key) mode text a).run c).1.passed = true ↔
      a.Holds mode (g.scopesIn text) := by
  have hsame : ((checkAssertion (g.oracle key) mode text a).run c).1 =
      checkAssertion (.ofFunction g.scopesIn) mode text a :=
    (checkAssertion_related (Computes.congruent _) ((g.oracle_answers key).scopesAt text) a c hc).1
  rw [hsame]
  exact checkAssertion_passed_iff

/-- The scope of the grammar, and no other one that its rules add, has the name of a root. -/
structure OwnsRoot (g : Grammar) : Prop where
  own : g.scopeName.isRoot = true
  others : ∀ id, ∀ s ∈ (g.rule id).given, s.isRoot = true → s = g.scopeName

theorem OwnsRoot.isRoot_iff (h : OwnsRoot g) {s : Scope} (hs : g.Gives s) :
    s.isRoot = true ↔ s = g.scopeName := by
  constructor
  · cases hs with
    | root => exact fun _ => rfl
    | @rule id _ hmem => exact h.others id s hmem
  · rintro rfl
    exact h.own

/-- For such a grammar exact mode does what it is for, whatever the text. -/
theorem OwnsRoot.exact_passed_iff (h : OwnsRoot g) (hc : c.Sound g key) (text : String)
    (a : ScopeAssertion) : ((checkAssertion (g.oracle key) .exact text a).run c).1.passed = true ↔
      a.HoldsBut g.scopeName (g.scopesIn text) := by
  refine (passed_oracle_iff hc .exact text a).trans (ScopeAssertion.holds_exact_iff.mpr ?_ a)
  intro line column s hs
  exact h.isRoot_iff (Grammar.gives_of_mem_scopesAt hs)

/-- Exact mode sets aside what has the name of a root. It sets aside the scope of the grammar and nothing
else in just those texts in which that is the one assigned scope with such a name. -/
theorem exact_sets_aside (hc : c.Sound g key) (text : String) :
    (∀ a, ((checkAssertion (g.oracle key) .exact text a).run c).1.passed = true ↔
      a.Holds .exact (g.scopesIn text)) ∧
    ((∀ a, ((checkAssertion (g.oracle key) .exact text a).run c).1.passed = true ↔
        a.HoldsBut g.scopeName (g.scopesIn text)) ↔
      ∀ line column, ∀ s ∈ g.scopesIn text line column,
        (s.segments.head? = some "source" ∨ s.segments.head? = some "text") ↔ s = g.scopeName) := by
  refine ⟨passed_oracle_iff hc .exact text, ?_⟩
  simp only [passed_oracle_iff hc, ← Scope.isRoot_iff]
  exact ScopeAssertion.holds_exact_iff

def blendText : GrammarText where
  name := "Blend"
  scopeName := "source.a"
  rules := [{ pattern := some "x", name := some "source.b" }]

def metaText : GrammarText where
  name := "Meta"
  scopeName := "meta.a"
  rules := [{ pattern := some "x", name := some "keyword" }]

theorem exact_sets_aside_blendText : ∃ g, Grammar.compile? blendText = .ok g ∧
    Cache.Sound g (fun _ => 0) .empty ∧
    ((∀ a, ((checkAssertion (g.oracle fun _ => 0) .exact "x" a).run .empty).1.passed = true ↔
        a.HoldsBut g.scopeName (g.scopesIn "x")) ↔
      ∀ line column, ∀ s ∈ g.scopesIn "x" line column,
        (s.segments.head? = some "source" ∨ s.segments.head? = some "text") ↔ s = g.scopeName) := by
  have hsome : (Grammar.compile? blendText).toOption.isSome = true := by decide +kernel
  obtain ⟨g, hg⟩ := Option.isSome_iff_exists.mp hsome
  exact ⟨g, eq_ok_of_toOption hg, Cache.sound_empty, (exact_sets_aside Cache.sound_empty "x").2⟩

def sourceA : Scope := ⟨"source.a", by decide, by decide⟩

def sourceB : Scope := ⟨"source.b", by decide, by decide⟩

def metaA : Scope := ⟨"meta.a", by decide, by decide⟩

def keyword : Scope := ⟨"keyword", by decide, by decide⟩

def askStart (g : Grammar) (s : Scope) : Bool × Scope × List Scope :=
  (((checkAssertion (g.oracle fun _ => 0) .exact "x" (.asking 0 0 [s])).run .empty).1.passed,
    g.scopeName, (g.scopesIn "x" 0 0).toList)

/-- An assertion passes although the scope of a rule was not asked for, and one fails for the scope of
the grammar. -/
theorem exact_not_own_root :
    (∃ g, Grammar.compile? blendText = .ok g ∧
      ((checkAssertion (g.oracle fun _ => 0) .exact "x" (.asking 0 0 [sourceA])).run .empty).1.passed = true ∧
      ¬ (ScopeAssertion.asking 0 0 [sourceA]).HoldsBut g.scopeName (g.scopesIn "x")) ∧
    ∃ g, Grammar.compile? metaText = .ok g ∧
      ((checkAssertion (g.oracle fun _ => 0) .exact "x" (.asking 0 0 [keyword])).run .empty).1.passed = false ∧
      (ScopeAssertion.asking 0 0 [keyword]).HoldsBut g.scopeName (g.scopesIn "x") := by
  have hblend : (Grammar.compile? blendText).toOption.map (askStart · sourceA) =
      some (true, sourceA, [sourceA, sourceB]) := by decide +kernel
  have hmeta : (Grammar.compile? metaText).toOption.map (askStart · keyword) =
      some (false, metaA, [keyword, metaA]) := by decide +kernel
  obtain ⟨g, hg, hask⟩ := Option.map_eq_some_iff.mp hblend
  obtain ⟨g', hg', hask'⟩ := Option.map_eq_some_iff.mp hmeta
  simp only [askStart, Prod.mk.injEq] at hask hask'
  obtain ⟨hpassed, hroot, hscopes⟩ := hask
  obtain ⟨hfailed, hroot', hscopes'⟩ := hask'
  refine ⟨⟨g, eq_ok_of_toOption hg, hpassed, ?_⟩, g', eq_ok_of_toOption hg', hfailed, ?_⟩
  · intro h
    have hmem : sourceB ∈ (g.scopesIn "x" 0 0).toList := by
      rw [hscopes]
      exact List.mem_cons_of_mem _ List.mem_cons_self
    have hne : sourceB ≠ g.scopeName := by
      rw [hroot]
      decide
    have hasked : sourceB ∈ [sourceA] := (h 0 (Nat.le_refl 0) (Nat.le_refl 0)).others sourceB hmem hne
    exact absurd hasked (by decide)
  · rw [ScopeAssertion.HoldsBut, ScopeAssertion.forall_span_asking]
    have hmem : ∀ s, s ∈ g'.scopesIn "x" 0 0 ↔ s ∈ [keyword, metaA] := fun s => hscopes' ▸ Iff.rfl
    refine ⟨?_, nofun, ?_⟩
    · intro s hs
      rw [List.mem_singleton.mp hs]
      exact (hmem keyword).mpr List.mem_cons_self
    · intro s hs hne
      rw [hroot'] at hne
      exact List.mem_singleton.mpr ((List.mem_pair.mp ((hmem s).mp hs)).resolve_right hne)

end Check

end Scopemark
