import Mathlib.Tactic.ByContra
import Mathlib.Tactic.Tauto
import Scopemark.Proofs.Check.Matching

namespace Scopemark

variable {σ : Type} {a : ScopeAssertion} {mode : MatchMode} {actual : ScopeSet}

namespace ScopeAssertion

inductive Bad (a : ScopeAssertion) (mode : MatchMode) (actual : ScopeSet) : Prop
  | missing {s : Scope} (expected : s ∈ a.expected) (absent : s ∉ actual)
  | excluded {s : Scope} (excluded : s ∈ a.excluded) (assigned : s ∈ actual)
  | other {s : Scope} (exact : mode = .exact) (assigned : s ∈ actual)
      (source : s.segments.head? ≠ some "source") (text : s.segments.head? ≠ some "text")
      (unexpected : s ∉ a.expected)

theorem bad_iff : a.Bad mode actual ↔ ¬ a.Meets mode actual := by
  constructor
  · intro hbad hmeets
    cases hbad with
    | missing hs habsent => exact habsent (hmeets.expected _ hs)
    | excluded hs hassigned => exact hmeets.excluded _ hs hassigned
    | other hmode hassigned hsource htext hs =>
        exact (hmeets.others hmode _ hassigned hs).elim hsource htext
  · intro hnot
    by_contra hgood
    refine hnot ⟨fun s hs => ?_, fun s hs hassigned => hgood (.excluded hs hassigned), ?_⟩
    · by_contra habsent
      exact hgood (.missing hs habsent)
    · intro hmode s hassigned hs
      by_contra hroot
      rw [not_or] at hroot
      exact hgood (.other hmode hassigned hroot.1 hroot.2 hs)

theorem Bad.exact (h : a.Bad .superset actual) : a.Bad .exact actual := by
  cases h with
  | missing hs habsent => exact .missing hs habsent
  | excluded hs hassigned => exact .excluded hs hassigned
  | other hmode => cases hmode

structure Surplus (a : ScopeAssertion) (mode : MatchMode) (actual : ScopeSet) (others : List Scope) :
    Prop where
  sorted : others.Pairwise (· < ·)
  superset : mode = .superset → others = []
  exact : mode = .exact → ∀ s, s ∈ others ↔ s ∈ actual ∧ s.segments.head? ≠ some "source" ∧
    s.segments.head? ≠ some "text" ∧ s ∉ a.expected ∧ s ∉ a.excluded

/-- The mismatch tells everything that is wrong with what is assigned. -/
structure Explains (a : ScopeAssertion) (mode : MatchMode) (actual : ScopeSet) (found : Mismatch) :
    Prop where
  shown : found.actual = actual
  missing : found.missing = a.expected.filter fun s => !actual.contains s
  forbidden : ∃ others, a.Surplus mode actual others ∧
    found.forbidden = a.excluded.filter actual.contains ++ others
  nonempty : found.missing ≠ [] ∨ found.forbidden ≠ []

structure FirstBad (a : ScopeAssertion) (mode : MatchMode) (assigned : Nat → ScopeSet)
    (column : Nat) : Prop where
  start_le : a.span.start ≤ column
  le_stop : column ≤ a.span.stop
  bad : a.Bad mode (assigned column)
  before : ∀ i, a.span.start ≤ i → i < column → ¬ a.Bad mode (assigned i)

end ScopeAssertion

open ScopeAssertion

namespace Check

theorem mem_unexpected {s : Scope} : s ∈ unexpected a actual (a.excluded.filter actual.contains) ↔
    s ∈ actual ∧ s.segments.head? ≠ some "source" ∧ s.segments.head? ≠ some "text" ∧
      s ∉ a.expected ∧ s ∉ a.excluded := by
  have hroot : s.isRoot = false ↔
      s.segments.head? ≠ some "source" ∧ s.segments.head? ≠ some "text" := by
    rw [← Bool.not_eq_true, Scope.isRoot_iff, not_or]
  have hmem : s ∈ actual.toList ↔ s ∈ actual := Iff.rfl
  rw [unexpected, List.mem_filter, hmem]
  simp only [Bool.and_eq_true, Bool.not_eq_true', hroot, List.contains_eq_mem, decide_eq_false_iff_not,
    List.mem_filter, ScopeSet.contains_iff]
  tauto

def surplus (mode : MatchMode) (a : ScopeAssertion) (actual : ScopeSet) : List Scope :=
  match mode with
  | .superset => []
  | .exact => unexpected a actual (a.excluded.filter actual.contains)

theorem surplus_sound : a.Surplus mode actual (surplus mode a actual) := by
  cases mode with
  | superset => exact ⟨.nil, fun _ => rfl, nofun⟩
  | exact => exact ⟨actual.sorted.filter _, nofun, fun _ _ => mem_unexpected⟩

theorem compare_eq (column : Nat) : compare mode a column actual =
    let missing := actual.missing a.expected
    let forbidden := a.excluded.filter actual.contains ++ surplus mode a actual
    if missing.isEmpty && forbidden.isEmpty then none else
      some ⟨column, actual, missing, forbidden⟩ := by
  cases mode with
  | superset => simp only [compare, surplus, List.append_nil]
  | exact => rfl

theorem compare_explains {column : Nat} {found : Mismatch}
    (h : compare mode a column actual = some found) :
    found.column = column ∧ a.Explains mode actual found := by
  rw [compare_eq] at h
  simp only at h
  split at h
  next => cases h
  next hwrong =>
    cases h
    rw [Bool.and_eq_true, not_and_or, List.isEmpty_iff, List.isEmpty_iff] at hwrong
    exact ⟨rfl, rfl, rfl, ⟨_, surplus_sound, rfl⟩, hwrong⟩

def answer (oracle : Oracle (StateM σ)) (text : String) (line : Nat) :
    (column : Nat) → σ → (n : Nat) → ScopeSet
  | column, s, 0 => ((oracle.scopesAt text line column).run s).1
  | column, s, n + 1 =>
    answer oracle text line (column + 1) ((oracle.scopesAt text line column).run s).2 n

/-- What is assigned at a column of the span, as the oracle answers when it is asked from the start of
the span on. -/
def assigned (oracle : Oracle (StateM σ)) (text : String) (a : ScopeAssertion) (s : σ)
    (column : Nat) : ScopeSet :=
  answer oracle text a.sourceLine a.span.start s (column - a.span.start)

variable {oracle : Oracle (StateM σ)} {text : String}

theorem firstMismatch_run_succ (count column : Nat) (s : σ) :
    ((firstMismatch oracle mode text a (count + 1) column).run s).1 =
      (compare mode a column (answer oracle text a.sourceLine column s 0)).or
        ((firstMismatch oracle mode text a count (column + 1)).run
          ((oracle.scopesAt text a.sourceLine column).run s).2).1 := by
  have hrun (f : ScopeSet → StateM σ (Option Mismatch)) :
      ((oracle.scopesAt text a.sourceLine column >>= f).run s).1 =
        ((f (answer oracle text a.sourceLine column s 0)).run
          ((oracle.scopesAt text a.sourceLine column).run s).2).1 := rfl
  rw [firstMismatch, hrun]
  cases compare mode a column (answer oracle text a.sourceLine column s 0) <;> rfl

theorem firstMismatch_run_eq_none_iff {count column : Nat} {s : σ} :
    ((firstMismatch oracle mode text a count column).run s).1 = none ↔
      ∀ n < count, ¬ a.Bad mode (answer oracle text a.sourceLine column s n) := by
  induction count generalizing column s with
  | zero => exact iff_of_true rfl nofun
  | succ count ih =>
      rw [firstMismatch_run_succ, Option.or_eq_none_iff, compare_eq_none_iff, ih,
        Nat.forall_lt_succ_left, bad_iff, not_not]
      rfl

theorem firstMismatch_run_eq_some {count column : Nat} {s : σ} {found : Mismatch}
    (h : ((firstMismatch oracle mode text a count column).run s).1 = some found) :
    ∃ n < count, compare mode a (column + n) (answer oracle text a.sourceLine column s n) =
        some found ∧ ∀ i < n, ¬ a.Bad mode (answer oracle text a.sourceLine column s i) := by
  induction count generalizing column s with
  | zero => cases h
  | succ count ih =>
      rw [firstMismatch_run_succ, Option.or_eq_some_iff] at h
      rcases h with hfound | ⟨hnone, hrest⟩
      · exact ⟨0, Nat.zero_lt_succ count, hfound, nofun⟩
      · obtain ⟨n, hn, hfound, hbefore⟩ := ih hrest
        have hfirst : ¬ a.Bad mode (answer oracle text a.sourceLine column s 0) := by
          rw [bad_iff, not_not]
          exact (compare_eq_none_iff column).mp hnone
        refine ⟨n + 1, Nat.succ_lt_succ hn, ?_, Nat.forall_lt_succ_left.mpr ⟨hfirst, hbefore⟩⟩
        rw [← hfound, Nat.add_right_comm]
        rfl

theorem mismatch_run_eq (s : σ) : ((checkAssertion oracle mode text a).run s).1.mismatch =
    ((firstMismatch oracle mode text a a.span.width a.span.start).run s).1 := rfl

theorem passed_run_iff {s : σ} : ((checkAssertion oracle mode text a).run s).1.passed = true ↔
    ∀ column, a.span.start ≤ column → column ≤ a.span.stop →
      ¬ a.Bad mode (assigned oracle text a s column) := by
  have hle := a.span.le
  rw [CheckResult.passed, Option.isNone_iff_eq_none, mismatch_run_eq, firstMismatch_run_eq_none_iff,
    ColumnSpan.width]
  constructor
  · intro h column hstart hstop
    exact h (column - a.span.start) (by omega)
  · intro h n hn
    have hcolumn := h (a.span.start + n) (by omega) (by omega)
    rwa [assigned, Nat.add_sub_cancel_left] at hcolumn

theorem mismatch_run {s : σ} {found : Mismatch}
    (h : ((checkAssertion oracle mode text a).run s).1.mismatch = some found) :
    a.FirstBad mode (assigned oracle text a s) found.column ∧
      a.Explains mode (assigned oracle text a s found.column) found := by
  have hle := a.span.le
  rw [mismatch_run_eq] at h
  obtain ⟨n, hn, hfound, hbefore⟩ := firstMismatch_run_eq_some h
  obtain ⟨hcolumn, hexplains⟩ := compare_explains hfound
  have hassigned : assigned oracle text a s found.column =
      answer oracle text a.sourceLine a.span.start s n := by
    rw [assigned, hcolumn, Nat.add_sub_cancel_left]
  have hbad : a.Bad mode (answer oracle text a.sourceLine a.span.start s n) := by
    rw [bad_iff, ← compare_eq_none_iff (a.span.start + n), hfound]
    nofun
  rw [ColumnSpan.width] at hn
  refine ⟨⟨by omega, by omega, hassigned ▸ hbad, fun i hstart hi => ?_⟩, hassigned ▸ hexplains⟩
  exact hbefore (i - a.span.start) (by omega)

/-- An assertion fails if and only if a column of its span is bad, and then the result names the first
such column and all that is wrong at it. What passes in exact mode passes in the other one. -/
theorem checkAssertion_verdict (oracle : Oracle (StateM σ)) (mode : MatchMode) (text : String)
    (a : ScopeAssertion) (s : σ) :
    (((checkAssertion oracle mode text a).run s).1.passed = false ↔ ∃ column, a.span.start ≤ column ∧
      column ≤ a.span.stop ∧ a.Bad mode (assigned oracle text a s column)) ∧
    (∀ found, ((checkAssertion oracle mode text a).run s).1.mismatch = some found →
      a.FirstBad mode (assigned oracle text a s) found.column ∧
        a.Explains mode (assigned oracle text a s found.column) found) ∧
    (((checkAssertion oracle .exact text a).run s).1.passed = true →
      ((checkAssertion oracle .superset text a).run s).1.passed = true) := by
  refine ⟨?_, fun _ => mismatch_run, ?_⟩
  · rw [← Bool.not_eq_true, passed_run_iff]
    simp only [not_forall, not_not, exists_prop]
  · rw [passed_run_iff, passed_run_iff]
    intro h column hstart hstop hbad
    exact h column hstart hstop hbad.exact

def changing (first later : Scope) : Oracle (StateM Bool) where
  scopesAt _ _ _ := fun asked => (.ofList [if asked then later else first], true)
  release _ := pure ()

theorem checkAssertion_verdict_changing :
    let first : Scope := ⟨"first", by decide, by decide⟩
    let later : Scope := ⟨"later", by decide, by decide⟩
    let a : ScopeAssertion := ⟨0, 1, ⟨2, 4, by decide⟩, .caretRun, [first], []⟩
    let found : Mismatch := ⟨3, .ofList [later], [first], [later]⟩
    ((checkAssertion (changing first later) .exact "" a).run false).1.mismatch = some found ∧
      a.FirstBad .exact (assigned (changing first later) "" a false) 3 ∧
        a.Explains .exact (assigned (changing first later) "" a false 3) found := by
  intro first later a found
  have hfound : ((checkAssertion (changing first later) .exact "" a).run false).1.mismatch =
      some found := by
    decide
  exact ⟨hfound, (checkAssertion_verdict (changing first later) .exact "" a false).2.1 found hfound⟩

end Check

end Scopemark
