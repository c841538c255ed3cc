import Scopemark.Files.Path
import Scopemark.Fixture.Basic
import Scopemark.Scope.Set

namespace Scopemark

structure Mismatch where
  column : Nat
  actual : ScopeSet
  missing : List Scope
  forbidden : List Scope
deriving DecidableEq

structure CheckResult where
  sourceLine : Nat
  span : ColumnSpan
  expected : List Scope
  excluded : List Scope
  /-- There is none if the assertion holds. -/
  mismatch : Option Mismatch
deriving DecidableEq

namespace CheckResult

def of (a : ScopeAssertion) (mismatch : Option Mismatch) : CheckResult :=
  ⟨a.sourceLine, a.span, a.expected, a.excluded, mismatch⟩

def passed (r : CheckResult) : Bool := r.mismatch.isNone

end CheckResult

/-- The results of one file. If it cannot be read it has an error and no results. -/
structure FileSummary where
  path : FilePath
  suite : Option String := none
  results : List CheckResult := []
  passed : Nat := 0
  failed : Nat := 0
  errors : List String := []
deriving DecidableEq

namespace FileSummary

def addResult (f : FileSummary) (r : CheckResult) : FileSummary :=
  { f with
    results := f.results ++ [r]
    passed := if r.passed then f.passed + 1 else f.passed
    failed := if r.passed then f.failed else f.failed + 1 }

def addError (f : FileSummary) (message : String) : FileSummary :=
  { f with errors := f.errors ++ [message] }

def total (f : FileSummary) : Nat := f.passed + f.failed

def hasFailures (f : FileSummary) : Bool := f.failed != 0 || !f.errors.isEmpty

def failures (f : FileSummary) : List CheckResult := f.results.filter fun r => !r.passed

end FileSummary

/-- The results of a run. Its duration counts nanoseconds. -/
structure CheckSummary where
  files : List FileSummary := []
  passed : Nat := 0
  failed : Nat := 0
  /-- The number of files with errors. -/
  errorFiles : Nat := 0
  duration : Nat := 0
deriving DecidableEq

namespace CheckSummary

def addFile (s : CheckSummary) (f : FileSummary) : CheckSummary :=
  { s with
    files := s.files ++ [f]
    passed := s.passed + f.passed
    failed := s.failed + f.failed
    errorFiles := if f.errors.isEmpty then s.errorFiles else s.errorFiles + 1 }

def total (s : CheckSummary) : Nat := s.passed + s.failed

def hasFailures (s : CheckSummary) : Bool := s.failed != 0 || s.errorFiles != 0

/-- 0 if everything passed, 1 if something failed or could not be read, 2 if nothing was checked. -/
def exitCode (s : CheckSummary) : Nat :=
  if s.total = 0 ∧ s.errorFiles = 0 then 2 else if s.hasFailures then 1 else 0

end CheckSummary

end Scopemark
