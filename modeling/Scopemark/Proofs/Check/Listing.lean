import Mathlib.Data.List.Basic
import Scopemark.Proofs.Check.Tally
import Scopemark.Proofs.Check.Verdict
import Scopemark.Proofs.Scope.Segments

namespace Scopemark

namespace Scope

def Related (s t : Scope) : Prop := s.segments <+: t.segments ∨ t.segments <+: s.segments

theorem related_iff {s t : Scope} : (s.isPrefixOf t || t.isPrefixOf s) = true ↔ s.Related t := by
  rw [Bool.or_eq_true, isPrefixOf_iff, isPrefixOf_iff, Related]

end Scope

namespace Report

variable {actual : ScopeSet} {missing near : Scope} {block lines : List String}

structure IsNearest (actual : ScopeSet) (missing near : Scope) : Prop where
  assigned : near ∈ actual
  related : missing.Related near
  least : ∀ s ∈ actual, missing.Related s → near = s ∨ near < s

theorem isNearest_of_nearest? (h : nearest? actual missing = some near) :
    IsNearest actual missing near := by
  obtain ⟨hrelated, before, behind, hsplit, hbefore⟩ := List.find?_eq_some_iff_append.mp h
  have hmem (s : Scope) : s ∈ actual ↔ s ∈ before ∨ s = near ∨ s ∈ behind := by
    rw [← List.mem_cons, ← List.mem_append, ← hsplit]
    rfl
  have hsorted : (before ++ near :: behind).Pairwise (· < ·) := hsplit ▸ actual.sorted
  have hbehind : ∀ s ∈ behind, near < s :=
    (List.pairwise_cons.mp (List.pairwise_append.mp hsorted).2.1).1
  refine ⟨(hmem near).mpr (.inr (.inl rfl)), Scope.related_iff.mp hrelated, fun s hs hnear => ?_⟩
  · rcases (hmem s).mp hs with hs | rfl | hs
    · have hnot := hbefore s hs
      rw [Scope.related_iff.mpr hnear] at hnot
      cases hnot
    · exact .inl rfl
    · exact .inr (hbehind s hs)

theorem IsNearest.unique {other : Scope} (h : IsNearest actual missing near)
    (k : IsNearest actual missing other) : near = other := by
  rcases h.least other k.assigned k.related with heq | hlt
  · exact heq
  · rcases k.least near h.assigned h.related with heq | hgt
    · exact heq.symm
    · exact absurd (Scope.lt_trans hlt hgt) (String.lt_irrefl _)

theorem nearest?_eq_none_iff :
    nearest? actual missing = none ↔ ∀ s ∈ actual, ¬ missing.Related s := by
  rw [nearest?, List.find?_eq_none]
  exact forall₂_congr fun s _ => not_congr Scope.related_iff

theorem nearest?_eq_some_iff : nearest? actual missing = some near ↔ IsNearest actual missing near := by
  refine ⟨isNearest_of_nearest?, fun h => ?_⟩
  cases hfound : nearest? actual missing with
  | none => exact absurd h.related (nearest?_eq_none_iff.mp hfound near h.assigned)
  | some other => rw [(isNearest_of_nearest? hfound).unique h]

section InOrder

variable {α : Type} {R : α → List String → Prop} {f : α → List String} {xs : List α}

inductive InOrder (R : α → List String → Prop) : List α → List String → Prop
  | nil : InOrder R [] []
  | cons {x xs block lines} (first : R x block) (rest : InOrder R xs lines) :
      InOrder R (x :: xs) (block ++ lines)

theorem inOrder_iff (h : ∀ x ∈ xs, ∀ block, R x block ↔ block = f x) :
    InOrder R xs lines ↔ lines = xs.flatMap f := by
  induction xs generalizing lines with
  | nil =>
      constructor
      · rintro ⟨⟩
        rfl
      · rintro rfl
        exact .nil
  | cons x xs ih =>
      obtain ⟨hfirst, hrest⟩ := List.forall_mem_cons.mp h
      rw [List.flatMap_cons]
      constructor
      · rintro (_ | ⟨first, rest⟩)
        rw [(hfirst _).mp first, (ih hrest).mp rest]
      · rintro rfl
        exact .cons ((hfirst _).mpr rfl) ((ih hrest).mpr rfl)

end InOrder

def hintLine (missing near : Scope) : String :=
  "    did you mean `" ++ near.name ++ "` instead of `" ++ missing.name ++ "`?"

inductive Hinted (actual : ScopeSet) (missing : Scope) : List String → Prop
  | near {s} (h : IsNearest actual missing s) : Hinted actual missing [hintLine missing s]
  | none (h : ∀ s ∈ actual, ¬ missing.Related s) : Hinted actual missing []

theorem hinted_iff : Hinted actual missing block ↔ block = (hint? actual missing).toList := by
  rw [hint?]
  cases h : nearest? actual missing with
  | none =>
      have hnone := nearest?_eq_none_iff.mp h
      constructor
      · rintro (hnear | -)
        · exact absurd hnear.related (hnone _ hnear.assigned)
        · rfl
      · rintro rfl
        exact .none hnone
  | some near =>
      have hnear := nearest?_eq_some_iff.mp h
      constructor
      · rintro (hother | hnone)
        · rw [hnear.unique hother]
          rfl
        · exact absurd hnear.related (hnone _ hnear.assigned)
      · rintro rfl
        exact .near hnear

variable {verbose : Bool} {r : CheckResult} {f : FileSummary}

def failBlock (r : CheckResult) (x : Mismatch) (hints : List String) : List String :=
  ["  FAIL " ++ location r ++ " (column " ++ toString x.column ++ ")",
    "    expected:  " ++ showScopes r.expected] ++
  scopesLine "    excluded:  " r.excluded ++
  ["    actual:    " ++ x.actual.display] ++
  scopesLine "    missing:   " x.missing ++ hints ++
  scopesLine "    forbidden: " x.forbidden

def passLine (r : CheckResult) : String := "  PASS " ++ location r ++ " " ++ showScopes r.expected

inductive ResultShown (verbose : Bool) (r : CheckResult) : List String → Prop
  | failed {x hints} (h : r.mismatch = some x) (each : InOrder (Hinted x.actual) x.missing hints) :
      ResultShown verbose r (failBlock r x hints)
  | passed (h : r.mismatch = none) (told : verbose = true) : ResultShown verbose r [passLine r]
  | silent (h : r.mismatch = none) (untold : verbose = false) : ResultShown verbose r []

theorem inOrder_hinted_iff {ms : List Scope} :
    InOrder (Hinted actual) ms lines ↔ lines = ms.filterMap (hint? actual) := by
  rw [List.filterMap_eq_flatMap_toList]
  exact inOrder_iff fun _ _ _ => hinted_iff

theorem resultShown_iff : ResultShown verbose r block ↔ block = resultLines verbose r := by
  unfold resultLines
  constructor
  · rintro (⟨h, each⟩ | ⟨h, rfl⟩ | ⟨h, rfl⟩)
    · rw [h, inOrder_hinted_iff.mp each]
      rfl
    · rw [h]
      rfl
    · rw [h]
      rfl
  · rintro rfl
    cases h : r.mismatch with
    | some x => exact .failed h (inOrder_hinted_iff.mpr rfl)
    | none =>
        cases verbose with
        | true => exact .passed h rfl
        | false => exact .silent h rfl

/-- The file has a result that failed or an error, or else any result if those that passed are told. -/
def Listed (verbose : Bool) (f : FileSummary) : Prop :=
  (∃ r ∈ f.results, r.passed = false) ∨ f.errors ≠ [] ∨ (verbose = true ∧ f.results ≠ [])

theorem isListed_iff (h : f.Counts f.results f.errors) :
    isListed verbose f = true ↔ Listed verbose f := by
  have hfailed : f.failed ≠ 0 ↔ ∃ r ∈ f.results, r.passed = false := by
    rw [h.failed, ne_eq, List.countP_eq_zero]
    simp
  simp [isListed, Listed, FileSummary.hasFailures, hfailed, h.total, or_assoc]

inductive FileShown (verbose : Bool) (f : FileSummary) : List String → Prop
  | listed {told} (h : Listed verbose f) (each : InOrder (ResultShown verbose) f.results told) :
      FileShown verbose f (["", fileTitle f] ++ f.errors.map ("  ERROR: " ++ ·) ++ told)
  | leftOut (h : ¬ Listed verbose f) : FileShown verbose f []

theorem fileShown_iff (h : f.Counts f.results f.errors) :
    FileShown verbose f block ↔ block = fileLines verbose f := by
  have hresults (lines : List String) : InOrder (ResultShown verbose) f.results lines ↔
      lines = f.results.flatMap (resultLines verbose) := inOrder_iff fun _ _ _ => resultShown_iff
  unfold fileLines
  by_cases hlisted : Listed verbose f
  · rw [if_pos ((isListed_iff h).mpr hlisted)]
    constructor
    · rintro (⟨-, each⟩ | hnot)
      · rw [(hresults _).mp each]
      · exact absurd hlisted hnot
    · rintro rfl
      exact .listed hlisted ((hresults _).mpr rfl)
  · rw [if_neg (mt (isListed_iff h).mp hlisted)]
    constructor
    · rintro (⟨hyes, -⟩ | -)
      · exact absurd hyes hlisted
      · rfl
    · rintro rfl
      exact .leftOut hlisted

def closing (s : CheckSummary) : List String :=
  ["", "Check Summary:", countLine s, "  Completed in " ++ Text.duration s.duration, "",
    (verdict s).text]

end Report

/-- A summary each of whose files counts its results. -/
structure CountedSummary extends CheckSummary where
  counted : ∀ f ∈ files, f.Counts f.results f.errors

namespace CountedSummary

/-- All summaries that are put together from files are of this kind. -/
def ofLogs (duration : Nat) (logs : List FileLog) : CountedSummary where
  toCheckSummary := CheckSummary.ofLogs duration logs
  counted := by
    intro f hf
    rw [(CheckSummary.counts_ofLogs duration logs).files, List.mem_map] at hf
    obtain ⟨l, -, rfl⟩ := hf
    exact ⟨rfl, rfl, l.counts.results ▸ l.counts.passed, l.counts.results ▸ l.counts.failed⟩

end CountedSummary

namespace Report

variable {actual : ScopeSet} {missing near : Scope} {lines : List String} {verbose : Bool}

theorem inOrder_fileShown_iff (s : CountedSummary) :
    InOrder (FileShown verbose) s.files lines ↔ lines = s.files.flatMap (fileLines verbose) :=
  inOrder_iff fun f hf _ => fileShown_iff (s.counted f hf)

/-- What an assertion misses is not among the scopes that are assigned instead. -/
theorem ne_of_isNearest {σ : Type} {oracle : Oracle (StateM σ)} {mode : MatchMode} {text : String}
    {a : ScopeAssertion} {s : σ} {found : Mismatch}
    (h : ((Check.checkAssertion oracle mode text a).run s).1.mismatch = some found)
    (hmissing : missing ∈ found.missing) (hnear : IsNearest found.actual missing near) :
    near ≠ missing := by
  rintro rfl
  have hexplains := (Check.mismatch_run h).2
  rw [hexplains.missing, ← hexplains.shown, List.mem_filter, Bool.not_eq_true', ← Bool.not_eq_true,
    ScopeSet.contains_iff] at hmissing
  exact hmissing.2 hnear.assigned

/-- The report is one block for every listed file, in their order, with all of its errors and a block for
every result, and the totals behind them. A block suggests the nearest scopes, which are never those that an
assertion misses. -/
theorem summary_lists {σ : Type} (verbose : Bool) (s : CountedSummary) :
    (∃! lines, InOrder (FileShown verbose) s.files lines) ∧
    (∀ lines, InOrder (FileShown verbose) s.files lines →
      summary verbose s.toCheckSummary = unlines (lines ++ closing s.toCheckSummary)) ∧
    ∀ (oracle : Oracle (StateM σ)) mode text a start found,
      ((Check.checkAssertion oracle mode text a).run start).1.mismatch = some found →
      ∀ missing ∈ found.missing, ∀ near, IsNearest found.actual missing near → near ≠ missing := by
  refine ⟨⟨_, (inOrder_fileShown_iff s).mpr rfl, fun _ => (inOrder_fileShown_iff s).mp⟩,
    fun lines h => ?_, fun _ _ _ _ _ _ h _ hmissing _ => ne_of_isNearest h hmissing⟩
  rw [(inOrder_fileShown_iff s).mp h]
  rfl

/-- The file whose assertion holds is left out, and of the two scopes around the missing one the first is
suggested. -/
theorem summary_lists_keyword :
    let near : Scope := ⟨"keyword", by decide, by decide⟩
    let missing : Scope := ⟨"keyword.if", by decide, by decide⟩
    let later : Scope := ⟨"keyword.if.else", by decide, by decide⟩
    let oracle : Oracle (StateM Unit) := ⟨fun _ _ _ => pure (.ofList [later, near]), fun _ => pure ()⟩
    let a : ScopeAssertion := ⟨0, 1, ⟨2, 4, by decide⟩, .caretRun, [missing], []⟩
    let result : CheckResult := ((Check.checkAssertion oracle .superset "" a).run ()).1
    let s := CheckSummary.ofLogs 0 [⟨"a", none, [.result (.of a none)]⟩,
      ⟨"b", some "B", [.result result, .error "late"]⟩]
    summary false s = unlines
      (["", "b (B)", "  ERROR: late", "  FAIL 1:2-4 (column 2)", "    expected:  keyword.if",
        "    actual:    keyword keyword.if.else", "    missing:   keyword.if",
        "    did you mean `keyword` instead of `keyword.if`?"] ++ closing s) ∧
    near ≠ missing := by
  intro near missing later oracle a result s
  obtain ⟨-, hreport, hother⟩ := summary_lists (σ := Unit) false (.ofLogs 0 _)
  refine ⟨hreport _ ((inOrder_fileShown_iff _).mpr (by decide)), ?_⟩
  exact hother oracle .superset "" a () ⟨2, .ofList [later, near], [missing], []⟩ (by decide) missing
    (by decide) near (nearest?_eq_some_iff.mp (by decide))

end Report

end Scopemark
