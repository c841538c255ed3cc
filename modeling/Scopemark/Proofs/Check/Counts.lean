import Scopemark.Proofs.Check.Matching
import Scopemark.Proofs.Check.Transparent
import Scopemark.Proofs.Fixture.Lines

namespace Scopemark

theorem foldl_eq_zero_iff {α β : Type} {step : β → α → β} {size : β → Nat} {part : α → Nat}
    (h : ∀ b a, size (step b a) = size b + part a) {b : β} {as : List α} :
    size (as.foldl step b) = 0 ↔ size b = 0 ∧ ∀ a ∈ as, part a = 0 := by
  induction as generalizing b with
  | nil => simp
  | cons a rest ih =>
      rw [List.foldl_cons, ih, h, Nat.add_eq_zero_iff, List.forall_mem_cons, and_assoc]

namespace FileSummary

variable (f : FileSummary) (r : CheckResult)

theorem total_addResult : (f.addResult r).total = f.total + 1 := by
  cases h : r.passed <;> simp [total, addResult, h] <;> omega

theorem failed_addResult : (f.addResult r).failed = f.failed + if r.passed then 0 else 1 := by
  cases h : r.passed <;> simp [addResult, h]

end FileSummary

namespace CheckSummary

variable {s : CheckSummary} (f : FileSummary)

theorem total_addFile (s : CheckSummary) : (s.addFile f).total = s.total + f.total := by
  simp only [total, addFile, FileSummary.total]
  omega

theorem failed_addFile (s : CheckSummary) : (s.addFile f).failed = s.failed + f.failed := rfl

theorem errorFiles_addFile (s : CheckSummary) :
    (s.addFile f).errorFiles = s.errorFiles + if f.errors.isEmpty then 0 else 1 := by
  cases h : f.errors.isEmpty <;> simp [addFile, h]

theorem exitCode_eq_zero_iff : s.exitCode = 0 ↔ s.errorFiles = 0 ∧ s.total ≠ 0 ∧ s.failed = 0 := by
  unfold exitCode hasFailures
  grind

theorem exitCode_eq_two_iff : s.exitCode = 2 ↔ s.errorFiles = 0 ∧ s.total = 0 := by
  unfold exitCode
  grind

theorem exitCode_eq_one_iff : s.exitCode = 1 ↔ s.exitCode ≠ 0 ∧ s.exitCode ≠ 2 := by
  unfold exitCode
  grind

end CheckSummary

namespace Check

variable {mode : MatchMode} {fs : Files} {file path : FilePath} {fixture : Fixture}
  {scopes : String → Nat → Nat → ScopeSet}

theorem checkAssertions_eq_foldl (oracle : Oracle Id) (mode : MatchMode) (text : String)
    (summary : FileSummary) (as : List ScopeAssertion) :
    checkAssertions oracle mode text summary as =
      as.foldl (fun s a => s.addResult (checkAssertion oracle mode text a)) summary := by
  induction as generalizing summary with
  | nil => rfl
  | cons a rest ih => exact ih _

theorem checkFiles_eq_foldl (oracle : Oracle Id) (mode : MatchMode) (fs : Files)
    (summary : CheckSummary) (paths : List FilePath) :
    checkFiles oracle mode fs summary paths =
      paths.foldl (fun s path => s.addFile (checkFile oracle mode fs path)) summary := by
  induction paths generalizing summary with
  | nil => rfl
  | cons path rest ih => exact ih _

def Parses (fs : Files) (file : FilePath) (fixture : Fixture) : Prop :=
  fs.readText file = .ok fixture.text ∧ Fixture.read? fixture.text = .ok fixture

theorem checkFile_of_parses (oracle : Oracle Id) (h : Parses fs file fixture) :
    checkFile oracle mode fs file =
      checkAssertions oracle mode fixture.text { path := file, suite := fixture.suiteName }
        fixture.assertions := by
  simp only [checkFile, checkSource, h.1, h.2]
  rfl

theorem errors_checkAssertions (oracle : Oracle Id) (mode : MatchMode) (text : String)
    (summary : FileSummary) (as : List ScopeAssertion) :
    (checkAssertions oracle mode text summary as : FileSummary).errors = summary.errors := by
  induction as generalizing summary with
  | nil => rfl
  | cons a rest ih => exact ih _

theorem errors_checkFile_eq_nil_iff (oracle : Oracle Id) (mode : MatchMode) :
    (checkFile oracle mode fs file : FileSummary).errors = [] ↔ ∃ fixture, Parses fs file fixture := by
  constructor
  · intro h
    cases hread : fs.readText file with
    | error e => simp [checkFile, hread, FileSummary.addError] at h
    | ok text =>
        cases hparse : Fixture.read? text with
        | error e => simp [checkFile, checkSource, hread, hparse, FileSummary.addError] at h
        | ok fixture =>
            obtain ⟨rfl, _⟩ := Fixture.read?_located hparse
            exact ⟨fixture, hread, hparse⟩
  · rintro ⟨fixture, h⟩
    rw [checkFile_of_parses oracle h, errors_checkAssertions]

theorem total_checkFile_eq_zero_iff (oracle : Oracle Id) (h : Parses fs file fixture) :
    (checkFile oracle mode fs file : FileSummary).total = 0 ↔ fixture.assertions = [] := by
  rw [checkFile_of_parses oracle h, checkAssertions_eq_foldl, List.eq_nil_iff_forall_not_mem]
  refine (foldl_eq_zero_iff fun f a => f.total_addResult _).trans ?_
  simp [FileSummary.total]

theorem failed_checkFile_eq_zero_iff (h : Parses fs file fixture) :
    (checkFile (.ofFunction scopes) mode fs file : FileSummary).failed = 0 ↔
      ∀ a ∈ fixture.assertions, a.Holds mode (scopes fixture.text) := by
  rw [checkFile_of_parses _ h, checkAssertions_eq_foldl]
  refine (foldl_eq_zero_iff fun f a => f.failed_addResult _).trans ?_
  refine (and_iff_right rfl).trans (forall₂_congr fun a _ => ?_)
  rw [← checkAssertion_passed_iff]
  simp

end Check

end Scopemark
