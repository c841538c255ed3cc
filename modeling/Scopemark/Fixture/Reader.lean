import Scopemark.Fixture.Header
import Scopemark.Fixture.Mark

namespace Scopemark.Fixture

structure ScopeLists where
  expected : List Scope
  excluded : List Scope

/-- Reads scopes. Those behind a hyphen that stands alone are excluded. -/
def readScopes (excluding : Bool) : List (List Char) → Except FixtureFault ScopeLists
  | [] => .ok ⟨[], []⟩
  | word :: rest =>
    if word = ['-'] then readScopes true rest
    else
      match Scope.ofString? (.ofList word) with
      | .error e => .error (.invalidScope e)
      | .ok scope =>
        (readScopes excluding rest).map fun lists =>
          if excluding then { lists with excluded := scope :: lists.excluded }
          else { lists with expected := scope :: lists.expected }

def assertionAt (target : SourceLine) (index : Nat) (scopes : ScopeLists)
    (mark : ColumnSpan × MarkKind) : Except FixtureFault ScopeAssertion :=
  let (span, kind) := mark
  if target.text.length ≤ span.stop then
    .error (.spanOutOfBounds target.index span target.text.length)
  else
    .ok { sourceLine := target.index, annotationLine := index, span, kind
          expected := scopes.expected, excluded := scopes.excluded }

def readAssertions (target : SourceLine) (index column : Nat) (text : List Char) :
    Except FixtureFault (List ScopeAssertion) := do
  let (mark, rest) ← readMark column text
  let scopes ← readScopes false (Text.words rest)
  if scopes.expected.isEmpty && scopes.excluded.isEmpty then throw .missingScopes
  else (mark.spans target.text.toList).mapM (assertionAt target index scopes)

/-- Takes in the line `index` behind the source lines before it, of which the last one is first. -/
def addLine (token : List Char) (before : List SourceLine) (index : Nat) (line : List Char) :
    Except FixtureFault (List SourceLine) :=
  match markText? token line with
  | none => .ok (⟨index, .ofList line, []⟩ :: before)
  | some text =>
    match before with
    | [] => .error .noTargetLine
    | target :: others =>
      (readAssertions target index (line.length - text.length) text).map fun assertions =>
        { target with assertions := target.assertions ++ assertions } :: others

def readLines (token : List Char) (before : List SourceLine) (index : Nat) :
    List (List Char) → Except FixtureError (List SourceLine)
  | [] => .ok before.reverse
  | line :: rest =>
    match addLine token before index line with
    | .error fault => .error ⟨index + 1, fault⟩
    | .ok before => readLines token before (index + 1) rest

def read? (text : String) : Except FixtureError Fixture :=
  let lines := Text.lines text.toList
  let header := header? lines
  (readLines (tokenOf header) [] 0 lines).map fun lines => ⟨header, text, lines⟩

end Scopemark.Fixture
