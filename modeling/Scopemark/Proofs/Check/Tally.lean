import Scopemark.Check.Report
import Scopemark.Proofs.Check.Counts
import Scopemark.Proofs.Text.Lines

namespace Scopemark

inductive Finding
  | result (r : CheckResult)
  | error (message : String)

def Finding.result? : Finding → Option CheckResult
  | result r => some r
  | error _ => none

def Finding.error? : Finding → Option String
  | result _ => none
  | error message => some message

structure FileLog where
  path : FilePath
  suite : Option String
  findings : List Finding

namespace FileLog

def results (l : FileLog) : List CheckResult := l.findings.filterMap Finding.result?

def errors (l : FileLog) : List String := l.findings.filterMap Finding.error?

end FileLog

namespace FileSummary

variable {f : FileSummary} {rs : List CheckResult} {es : List String}

def note (f : FileSummary) : Finding → FileSummary
  | .result r => f.addResult r
  | .error message => f.addError message

structure Counts (f : FileSummary) (rs : List CheckResult) (es : List String) : Prop where
  results : f.results = rs
  errors : f.errors = es
  passed : f.passed = rs.countP CheckResult.passed
  failed : f.failed = rs.countP fun r => !r.passed

theorem counts_start (path : FilePath) (suite : Option String) :
    ({ path, suite } : FileSummary).Counts [] [] := ⟨rfl, rfl, rfl, rfl⟩

theorem Counts.addResult (h : f.Counts rs es) (r : CheckResult) :
    (f.addResult r).Counts (rs ++ [r]) es := by
  refine ⟨congrArg (· ++ [r]) h.results, h.errors, ?_, ?_⟩
  · cases hr : r.passed <;> simp [FileSummary.addResult, hr, h.passed, List.countP_append]
  · cases hr : r.passed <;> simp [FileSummary.addResult, hr, h.failed, List.countP_append]

theorem Counts.addError (h : f.Counts rs es) (message : String) :
    (f.addError message).Counts rs (es ++ [message]) :=
  ⟨h.results, congrArg (· ++ [message]) h.errors, h.passed, h.failed⟩

theorem Counts.total (h : f.Counts rs es) : f.total = rs.length := by
  have hlength := List.length_eq_countP_add_countP CheckResult.passed (l := rs)
  simpa [FileSummary.total, h.passed, h.failed] using hlength.symm

theorem Counts.failures (h : f.Counts rs es) : f.failures = rs.filter fun r => !r.passed := by
  rw [FileSummary.failures, h.results]

end FileSummary

namespace FileLog

def summary (l : FileLog) : FileSummary :=
  l.findings.foldl FileSummary.note { path := l.path, suite := l.suite }

theorem counts (l : FileLog) : l.summary.Counts l.results l.errors := by
  obtain ⟨path, suite, findings⟩ := l
  unfold summary results errors
  dsimp only
  -- From the last finding, which is noted on what all others left.
  induction findings using List.reverseRecOn with
  | nil => exact FileSummary.counts_start path suite
  | append_singleton findings finding ih =>
      rw [List.foldl_concat, List.filterMap_append, List.filterMap_append]
      cases finding with
      | result r =>
          change (FileSummary.addResult _ r).Counts (_ ++ [r]) (_ ++ [])
          rw [List.append_nil]
          exact ih.addResult r
      | error message =>
          change (FileSummary.addError _ message).Counts (_ ++ []) (_ ++ [message])
          rw [List.append_nil]
          exact ih.addError message

end FileLog

namespace CheckSummary

variable {s : CheckSummary} {logs : List FileLog}

def ofLogs (duration : Nat) (logs : List FileLog) : CheckSummary :=
  (logs.map FileLog.summary).foldl addFile { duration }

def resultsIn (logs : List FileLog) : List CheckResult := logs.flatMap FileLog.results

structure Counts (s : CheckSummary) (logs : List FileLog) : Prop where
  files : s.files = logs.map FileLog.summary
  passed : s.passed = (resultsIn logs).countP CheckResult.passed
  failed : s.failed = (resultsIn logs).countP fun r => !r.passed
  errorFiles : s.errorFiles = logs.countP fun l => !l.errors.isEmpty

theorem Counts.addFile (h : s.Counts logs) (l : FileLog) :
    (s.addFile l.summary).Counts (logs ++ [l]) := by
  have hresults : resultsIn (logs ++ [l]) = resultsIn logs ++ l.results := by simp [resultsIn]
  refine ⟨?_, ?_, ?_, ?_⟩
  · simp [CheckSummary.addFile, h.files]
  · simp [CheckSummary.addFile, h.passed, hresults, l.counts.passed, List.countP_append]
  · simp [CheckSummary.addFile, h.failed, hresults, l.counts.failed, List.countP_append]
  · rw [errorFiles_addFile, h.errorFiles, l.counts.errors, List.countP_append]
    cases herrors : l.errors.isEmpty <;> simp [herrors]

theorem counts_ofLogs (duration : Nat) (logs : List FileLog) : (ofLogs duration logs).Counts logs := by
  induction logs using List.reverseRecOn with
  | nil => exact ⟨rfl, rfl, rfl, rfl⟩
  | append_singleton logs l ih =>
      rw [ofLogs, List.map_append, List.foldl_append]
      exact ih.addFile l

theorem Counts.total (h : s.Counts logs) : s.total = (resultsIn logs).length := by
  have hlength := List.length_eq_countP_add_countP CheckResult.passed (l := resultsIn logs)
  simpa [CheckSummary.total, h.passed, h.failed] using hlength.symm

theorem Counts.failures (h : s.Counts logs) : s.files.map FileSummary.failures =
    logs.map fun l => l.results.filter fun r => !r.passed := by
  rw [h.files, List.map_map]
  exact List.map_congr_left fun l _ => l.counts.failures

theorem Counts.exitCode_eq_zero_iff (h : s.Counts logs) : s.exitCode = 0 ↔
    resultsIn logs ≠ [] ∧ (∀ r ∈ resultsIn logs, r.passed = true) ∧ ∀ l ∈ logs, l.errors = [] := by
  rw [CheckSummary.exitCode_eq_zero_iff, h.total, h.failed, h.errorFiles, List.countP_eq_zero,
    List.countP_eq_zero, ne_eq, List.length_eq_zero_iff]
  simp only [Bool.not_eq_true, Bool.not_eq_false', List.isEmpty_iff]
  tauto

theorem Counts.exitCode_eq_two_iff (h : s.Counts logs) : s.exitCode = 2 ↔
    resultsIn logs = [] ∧ ∀ l ∈ logs, l.errors = [] := by
  rw [CheckSummary.exitCode_eq_two_iff, h.total, h.errorFiles, List.countP_eq_zero,
    List.length_eq_zero_iff]
  simp only [Bool.not_eq_true, Bool.not_eq_false', List.isEmpty_iff]
  tauto

end CheckSummary

namespace Report

def lastLine? (report : String) : Option String :=
  (Text.lines report.toList).getLast?.map String.ofList

theorem lines_unlines_concat (lines : List String) {last : String} (h : Text.OneLine last.toList) :
    Text.lines (unlines (lines ++ [last])).toList =
      Text.lines (unlines lines).toList ++ [last.toList] := by
  have hfront : (unlines lines).toList = [] ∨ (unlines lines).toList.getLast? = some '\n' := by
    induction lines using List.reverseRecOn with
    | nil => exact .inl rfl
    | append_singleton lines line => simp [unlines]
  have hlast : (unlines (lines ++ [last])).toList =
      (unlines lines).toList ++ (last.toList ++ '\n' :: []) := by
    simp [unlines]
  rw [hlast, Text.lines_append hfront, h.lines_append]
  rfl

theorem lastLine?_unlines (lines : List String) {last : String} (h : Text.OneLine last.toList) :
    lastLine? (unlines (lines ++ [last])) = some last := by
  rw [lastLine?, lines_unlines_concat lines h, List.getLast?_concat, Option.map_some,
    String.ofList_toList]

theorem lastLine?_summary (verbose : Bool) (s : CheckSummary) :
    lastLine? (summary verbose s) = some (verdict s).text := by
  have hword : Text.OneLine (verdict s).text.toList := by
    cases verdict s <;> exact ⟨by decide, by decide⟩
  have hlines : summaryLines verbose s = (s.files.flatMap (fileLines verbose) ++
      ["", "Check Summary:", countLine s, "  Completed in " ++ Text.duration s.duration, ""]) ++
        [(verdict s).text] := by
    simp [summaryLines]
  rw [summary, hlines, lastLine?_unlines _ hword]

def word : Nat → String
  | 0 => "OK"
  | 1 => "FAILED"
  | _ => "NO FIXTURES FOUND"

/-- The verdict asks first for failures and the exit code for results, but without results there are no
failures. -/
theorem text_verdict (s : CheckSummary) : (verdict s).text = word s.exitCode := by
  have hnone : s.total = 0 → s.failed = 0 := by
    intro hzero
    rw [CheckSummary.total] at hzero
    omega
  unfold verdict CheckSummary.exitCode
  by_cases hfails : s.hasFailures = true
  · have hsome : ¬ (s.total = 0 ∧ s.errorFiles = 0) := by
      rintro ⟨hzero, herrors⟩
      simp [CheckSummary.hasFailures, hnone hzero, herrors] at hfails
    rw [if_pos hfails, if_neg hsome, if_pos hfails]
    rfl
  · have herrors : s.errorFiles = 0 := by
      simp [CheckSummary.hasFailures] at hfails
      exact hfails.2
    rw [if_neg hfails, if_neg hfails]
    by_cases hzero : s.total = 0
    · rw [if_pos hzero, if_pos ⟨hzero, herrors⟩]
      rfl
    · rw [if_neg hzero, if_neg fun h => hzero h.1]
      rfl

end Report

/-- After any files with anything noted of them, the counters count the results and the files with errors,
and the last line of the report is the word for the exit code. -/
theorem counts_agree (duration : Nat) (logs : List FileLog) (verbose : Bool) :
    let s := CheckSummary.ofLogs duration logs
    let results := CheckSummary.resultsIn logs
    s.Counts logs ∧ s.total = results.length ∧
    s.files.map FileSummary.failures = (logs.map fun l => l.results.filter fun r => !r.passed) ∧
    Report.lastLine? (Report.summary verbose s) = some (Report.word s.exitCode) ∧ s.exitCode ≤ 2 ∧
    (s.exitCode = 0 ↔
      results ≠ [] ∧ (∀ r ∈ results, r.passed = true) ∧ ∀ l ∈ logs, l.errors = []) ∧
    (s.exitCode = 2 ↔ results = [] ∧ ∀ l ∈ logs, l.errors = []) := by
  intro s results
  have hcounts : s.Counts logs := CheckSummary.counts_ofLogs duration logs
  refine ⟨hcounts, hcounts.total, hcounts.failures, ?_, ?_, hcounts.exitCode_eq_zero_iff,
    hcounts.exitCode_eq_two_iff⟩
  · rw [Report.lastLine?_summary, Report.text_verdict]
  · have hcode := s.exitCode_eq_one_iff
    omega

def mixedLogs : List FileLog :=
  let absent : Mismatch := ⟨2, .ofList [], [], []⟩
  [⟨"a", none, [.result ⟨0, ⟨1, 3, by decide⟩, [], [], some absent⟩, .error "late",
      .result ⟨0, ⟨5, 5, Nat.le_refl 5⟩, [], [], none⟩]⟩,
    ⟨"b", some "B", [.error "early", .error "late"]⟩]

theorem counts_agree_mixedLogs :
    let s := CheckSummary.ofLogs 0 mixedLogs
    s.Counts mixedLogs ∧ (s.passed, s.failed, s.errorFiles, s.exitCode) = (1, 1, 2, 1) ∧
      Report.lastLine? (Report.summary true s) = some "FAILED" := by
  intro s
  have hcode : s.exitCode = 1 := by decide
  obtain ⟨hcounts, -, -, hlast, -⟩ := counts_agree 0 mixedLogs true
  refine ⟨hcounts, by decide, ?_⟩
  rw [hlast, hcode]
  rfl

end Scopemark
