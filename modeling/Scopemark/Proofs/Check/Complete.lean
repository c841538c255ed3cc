import Scopemark.Proofs.Check.Tally
import Scopemark.Proofs.Check.Transparent

namespace Scopemark.Check

variable {σ : Type} {oracle : Oracle (StateM σ)} {mode : MatchMode} {text : String} {path : FilePath}
  {summary : FileSummary} {as : List ScopeAssertion} {rs : List CheckResult} {es : List String} {s : σ}

def keptAfter (oracle : Oracle (StateM σ)) (mode : MatchMode) (text : String) (s : σ)
    (as : List ScopeAssertion) : σ :=
  as.foldl (fun s a => ((checkAssertion oracle mode text a).run s).2) s

/-- The assertions have these results, each of them from what the oracle keeps after those before it. -/
structure Checks (oracle : Oracle (StateM σ)) (mode : MatchMode) (text : String) (s : σ)
    (as : List ScopeAssertion) (rs : List CheckResult) : Prop where
  length : rs.length = as.length
  result : ∀ i a, as[i]? = some a → rs[i]? =
    some ((checkAssertion oracle mode text a).run (keptAfter oracle mode text s (as.take i))).1

theorem checks_nil : Checks oracle mode text s [] [] := ⟨rfl, nofun⟩

theorem Checks.cons {a : ScopeAssertion}
    (h : Checks oracle mode text ((checkAssertion oracle mode text a).run s).2 as rs) :
    Checks oracle mode text s (a :: as) (((checkAssertion oracle mode text a).run s).1 :: rs) := by
  refine ⟨congrArg (· + 1) h.length, fun i b hb => ?_⟩
  cases i with
  | zero =>
      cases hb
      rfl
  | succ i => exact h.result i b hb

theorem exists_checks (oracle : Oracle (StateM σ)) (mode : MatchMode) (text : String)
    (as : List ScopeAssertion) (s : σ) (h : summary.Counts rs es) :
    ∃ rs' summary', (checkAssertions oracle mode text summary as).run s =
        (summary', keptAfter oracle mode text s as) ∧
      summary'.path = summary.path ∧ summary'.suite = summary.suite ∧
      summary'.Counts (rs ++ rs') es ∧ Checks oracle mode text s as rs' := by
  induction as generalizing summary rs s with
  | nil => exact ⟨[], summary, rfl, rfl, rfl, by rwa [List.append_nil], checks_nil⟩
  | cons a as ih =>
      obtain ⟨rs', summary', hrun, hpath, hsuite, hcounts, hchecks⟩ :=
        ih ((checkAssertion oracle mode text a).run s).2
          (h.addResult ((checkAssertion oracle mode text a).run s).1)
      rw [List.append_assoc] at hcounts
      exact ⟨_, summary', hrun, hpath, hsuite, hcounts, hchecks.cons⟩

variable {I : σ → Prop} {f : String → Nat → Nat → ScopeSet}

theorem keptAfter_keeps (mode : MatchMode)
    (h : oracle.RelatedOn (fun _ => Computes I) (.ofFunction f) text) (hs : I s)
    (as : List ScopeAssertion) : I (keptAfter oracle mode text s as) := by
  induction as generalizing s with
  | nil => exact hs
  | cons a as ih => exact ih (checkAssertion_related (Computes.congruent I) h a s hs).2

/-- What the oracle keeps makes no difference, so that no result hangs on those before it. -/
theorem Checks.eq_map (h : Checks oracle mode text s as rs)
    (hf : oracle.RelatedOn (fun _ => Computes I) (.ofFunction f) text) (hs : I s) :
    rs = as.map (checkAssertion (.ofFunction f) mode text) := by
  apply List.ext_getElem?
  intro i
  rw [List.getElem?_map]
  cases ha : as[i]? with
  | none =>
      rw [List.getElem?_eq_none_iff, ← h.length] at ha
      exact List.getElem?_eq_none ha
  | some a =>
      have hkept := keptAfter_keeps mode hf hs (as.take i)
      rw [h.result i a ha, (checkAssertion_related (Computes.congruent I) hf a _ hkept).1]
      rfl

structure Whole (oracle : Oracle (StateM σ)) (mode : MatchMode) (path : FilePath) (fixture : Fixture) (s : σ)
    (summary : FileSummary) : Prop where
  path : summary.path = path
  suite : summary.suite = fixture.suiteName
  counts : summary.Counts summary.results []
  checks : Checks oracle mode fixture.text s fixture.assertions summary.results

theorem Whole.total {fixture : Fixture} (h : Whole oracle mode path fixture s summary) :
    summary.passed + summary.failed = fixture.assertionCount :=
  h.counts.total.trans h.checks.length

/-- A text that is a fixture is checked from the first assertion to the last and then released. Of any
other text there is the error of reading it, and the oracle is as before. -/
theorem checkSource_all_or_nothing (oracle : Oracle (StateM σ)) (mode : MatchMode)
    (path : FilePath) (text : String) (s : σ) :
    (∀ fixture, Fixture.read? text = .ok fixture → fixture.text = text ∧ ∃ summary,
      (checkSource oracle mode path text).run s = (summary, ((oracle.release text).run
        (keptAfter oracle mode text s fixture.assertions)).2) ∧
      Whole oracle mode path fixture s summary ∧
      summary.passed + summary.failed = fixture.assertionCount ∧
      ∀ (I : σ → Prop) (f : String → Nat → Nat → ScopeSet),
        oracle.RelatedOn (fun _ => Computes I) (.ofFunction f) text → I s →
          summary.results = fixture.assertions.map (checkAssertion (.ofFunction f) mode text)) ∧
    ∀ e, Fixture.read? text = .error e →
      (checkSource oracle mode path text).run s = ({ path, errors := [e.message] }, s) := by
  refine ⟨fun fixture hread => ?_, fun e herror => ?_⟩
  · obtain ⟨rfl, -⟩ := Fixture.read?_located hread
    obtain ⟨rs, summary, hrun, hpath, hsuite, hcounts, hchecks⟩ :=
      exists_checks oracle mode fixture.text fixture.assertions s
        (FileSummary.counts_start path fixture.suiteName)
    rw [List.nil_append] at hcounts
    obtain rfl := hcounts.results
    have hwhole : Whole oracle mode path fixture s summary := ⟨hpath, hsuite, hcounts, hchecks⟩
    refine ⟨rfl, summary, ?_, hwhole, hwhole.total, fun I f hf hs => hchecks.eq_map hf hs⟩
    unfold checkSource
    rw [hread]
    change ((checkAssertions oracle mode fixture.text _ fixture.assertions >>= fun summary =>
      oracle.release fixture.text >>= fun _ => pure summary).run s) = _
    rw [StateT.run_bind, hrun]
    rfl
  · unfold checkSource
    rw [herror]
    rfl

inductive Call
  | asked (line column : Nat)
  | released
deriving DecidableEq

def recording (answer : ScopeSet) : Oracle (StateM (List Call)) where
  scopesAt _ line column := fun calls => (answer, calls ++ [.asked line column])
  release _ := fun calls => ((), calls ++ [.released])

def echoText : String := "echo 1\n// ^^ a\n//  ^^ b"

/-- The first assertion fails at the first of its two columns, and the second one is checked none the less.
The text without its first line is not asked about. -/
theorem checkSource_all_or_nothing_echoText :
    let b : Scope := ⟨"b", by decide, by decide⟩
    let oracle := recording (.ofList [b])
    (∃ summary, (checkSource oracle .superset "e" echoText).run [] =
        (summary, [.asked 0 3, .asked 0 4, .asked 0 5, .released]) ∧
      summary.errors = [] ∧ summary.passed + summary.failed = 2) ∧
    (checkSource oracle .superset "e" "// ^^ a\n//  ^^ b").run [] =
      ({ path := "e", errors := ["malformed fixture at line 1: annotation has no preceding source line"] },
        []) := by
  intro b oracle
  let a : Scope := ⟨"a", by decide, by decide⟩
  let fixture : Fixture := ⟨none, echoText, [⟨0, "echo 1",
    [⟨0, 1, ⟨3, 4, by decide⟩, .caretRun, [a], []⟩, ⟨0, 2, ⟨4, 5, by decide⟩, .caretRun, [b], []⟩]⟩]⟩
  have hread : Fixture.read? echoText = .ok fixture := by cbv
  obtain ⟨-, summary, hrun, hwhole, htotal, -⟩ :=
    (checkSource_all_or_nothing oracle .superset "e" echoText []).1 fixture hread
  refine ⟨⟨summary, hrun, hwhole.counts.errors, htotal⟩, ?_⟩
  exact (checkSource_all_or_nothing oracle .superset "e" _ []).2 ⟨1, .noTargetLine⟩ (by cbv)

end Scopemark.Check
