import Scopemark.Scope.Basic

namespace Scopemark

/-- Columns from `start` to `stop`, both included. -/
structure ColumnSpan where
  start : Nat
  stop : Nat
  le : start ≤ stop
deriving DecidableEq

namespace ColumnSpan

def width (s : ColumnSpan) : Nat := s.stop - s.start + 1

def contains (s : ColumnSpan) (column : Nat) : Bool := s.start ≤ column && column ≤ s.stop

def display (s : ColumnSpan) : String :=
  if s.start = s.stop then toString s.start else toString s.start ++ "-" ++ toString s.stop

end ColumnSpan

inductive MarkKind
  /-- Several carets under as many columns. -/
  | caretRun
  | caret
  /-- An arrow to the start of the line above. -/
  | arrow
deriving DecidableEq, Repr

/-- The scopes that are required and excluded at every column of a span. Lines count from zero. -/
structure ScopeAssertion where
  sourceLine : Nat
  annotationLine : Nat
  span : ColumnSpan
  kind : MarkKind
  expected : List Scope
  excluded : List Scope
deriving DecidableEq

structure SourceLine where
  index : Nat
  text : String
  assertions : List ScopeAssertion
deriving DecidableEq

/-- The line `// SYNTAX TEST "source.lang" "Suite"`. Annotations start with its comment token. -/
structure FixtureHeader where
  commentToken : String
  scopeName : String
  suite : String
deriving DecidableEq, Repr

structure Fixture where
  header : Option FixtureHeader
  /-- The whole text, annotations included, which is what grammars are run over. -/
  text : String
  lines : List SourceLine
deriving DecidableEq

inductive FixtureFault
  | noTargetLine
  | spanOutOfBounds (targetLine : Nat) (span : ColumnSpan) (length : Nat)
  | missingScopes
  | emptyArrow
  | invalidScope (e : ScopeError)
deriving DecidableEq

def FixtureFault.message : FixtureFault → String
  | .noTargetLine => "annotation has no preceding source line"
  | .spanOutOfBounds targetLine span length =>
    "columns " ++ span.display ++ " are outside line " ++ toString (targetLine + 1) ++ " (" ++
      toString length ++ " characters)"
  | .missingScopes => "annotation declares no scopes"
  | .emptyArrow => "`<` arrow has no `-`"
  | .invalidScope e => e.message

structure FixtureError where
  line : Nat
  fault : FixtureFault
deriving DecidableEq

def FixtureError.message (e : FixtureError) : String :=
  "malformed fixture at line " ++ toString e.line ++ ": " ++ e.fault.message

namespace Fixture

def assertions (f : Fixture) : List ScopeAssertion := f.lines.flatMap SourceLine.assertions

def assertionCount (f : Fixture) : Nat := f.assertions.length

def suiteName (f : Fixture) : Option String := f.header.map FixtureHeader.suite

/-- The place of the last line with at most that index, found by halving the `size` lines from `base`
on. The lines are in the order of their indices. -/
def placeOf (lines : List SourceLine) (index base size : Nat) : Nat :=
  if 1 < size then
    let half := size / 2
    let middle := base + half
    let base := if lines[middle]?.any fun l => index < l.index then base else middle
    placeOf lines index base (size - half)
  else base
termination_by size

def sourceLine? (f : Fixture) (index : Nat) : Option SourceLine :=
  f.lines[placeOf f.lines index 0 f.lines.length]?.filter fun l => l.index == index

end Fixture

end Scopemark
