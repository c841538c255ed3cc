import Scopemark.Check.Result
import Scopemark.Grammar.Token
import Scopemark.Text.Duration
import Scopemark.Text.Quoted

namespace Scopemark.Report

def unlines (lines : List String) : String := String.join (lines.map (· ++ "\n"))

/-- An assigned scope that differs from a missing one in its last segments only. -/
def nearest? (actual : ScopeSet) (missing : Scope) : Option Scope :=
  actual.toList.find? fun s => missing.isPrefixOf s || s.isPrefixOf missing

def hint? (actual : ScopeSet) (missing : Scope) : Option String :=
  (nearest? actual missing).map fun near =>
    "    did you mean `" ++ near.name ++ "` instead of `" ++ missing.name ++ "`?"

def location (r : CheckResult) : String :=
  toString (r.sourceLine + 1) ++ ":" ++ toString r.span.start ++ "-" ++ toString r.span.stop

def scopesLine (label : String) (scopes : List Scope) : List String :=
  if scopes.isEmpty then [] else [label ++ showScopes scopes]

def failLines (r : CheckResult) (x : Mismatch) : List String :=
  ["  FAIL " ++ location r ++ " (column " ++ toString x.column ++ ")",
    "    expected:  " ++ showScopes r.expected] ++
  scopesLine "    excluded:  " r.excluded ++
  ["    actual:    " ++ x.actual.display] ++
  scopesLine "    missing:   " x.missing ++
  x.missing.filterMap (hint? x.actual) ++
  scopesLine "    forbidden: " x.forbidden

def resultLines (verbose : Bool) (r : CheckResult) : List String :=
  match r.mismatch with
  | some x => failLines r x
  | none => if verbose then ["  PASS " ++ location r ++ " " ++ showScopes r.expected] else []

def isListed (verbose : Bool) (f : FileSummary) : Bool :=
  f.hasFailures || (verbose && f.total != 0)

def fileTitle (f : FileSummary) : String :=
  match f.suite with
  | some suite => f.path.display ++ " (" ++ suite ++ ")"
  | none => f.path.display

def fileLines (verbose : Bool) (f : FileSummary) : List String :=
  if isListed verbose f then
    ["", fileTitle f] ++ f.errors.map ("  ERROR: " ++ ·) ++ f.results.flatMap (resultLines verbose)
  else []

inductive Verdict
  | ok
  | failed
  | nothing
deriving DecidableEq, Repr

def Verdict.text : Verdict → String
  | .ok => "OK"
  | .failed => "FAILED"
  | .nothing => "NO FIXTURES FOUND"

def verdict (s : CheckSummary) : Verdict :=
  if s.hasFailures then .failed else if s.total = 0 then .nothing else .ok

def countLine (s : CheckSummary) : String :=
  "  " ++ toString s.passed ++ " passed, " ++ toString s.failed ++ " failed, " ++
    toString s.errorFiles ++ " file errors (" ++ toString s.total ++ " assertions in " ++
    toString s.files.length ++ " files)"

def summaryLines (verbose : Bool) (s : CheckSummary) : List String :=
  s.files.flatMap (fileLines verbose) ++
  ["", "Check Summary:", countLine s, "  Completed in " ++ Text.duration s.duration, "",
    (verdict s).text]

def summary (verbose : Bool) (s : CheckSummary) : String := unlines (summaryLines verbose s)

def padded (n : Nat) : String :=
  let digits := toString n
  "".pushn ' ' (4 - digits.length) ++ digits

def numbered (index : Nat) (text : String) : String := padded (index + 1) ++ " | " ++ text

def markName : MarkKind → String
  | .caretRun => "carets"
  | .caret => "caret"
  | .arrow => "arrow"

def assertionLine (a : ScopeAssertion) : String :=
  "       " ++ toString a.span.start ++ "-" ++ toString a.span.stop ++ " " ++ markName a.kind ++
    " (line " ++ toString (a.annotationLine + 1) ++ "): " ++ showScopes a.expected ++
    (if a.excluded.isEmpty then "" else " - " ++ showScopes a.excluded)

def headerLine (header : Option FixtureHeader) : String :=
  match header with
  | some h =>
    "suite: " ++ h.suite ++ " (" ++ h.scopeName ++ "), comment token " ++ Text.quoted h.commentToken
  | none => "suite: (no header)"

def sourceLines (l : SourceLine) : List String :=
  if l.assertions.isEmpty then []
  else ["", numbered l.index l.text] ++ l.assertions.map assertionLine

def fixture (f : Fixture) : String :=
  unlines ([headerLine f.header, "assertions: " ++ toString f.assertionCount] ++
    f.lines.flatMap sourceLines)

def lexeme (line : List Char) (t : Token) : List Char := (line.drop t.start).take (t.stop - t.start)

def tokenLine (line : List Char) (t : Token) : String :=
  "       " ++ toString t.start ++ "-" ++ toString t.stop ++ " " ++
    Text.quoted (.ofList (lexeme line t)) ++ " " ++ showScopes t.scopes

def tokenLines (index : Nat) : List (List Char × LineTokens) → List String
  | [] => []
  | (line, tokens) :: rest =>
    numbered index (.ofList line) :: tokens.map (tokenLine line) ++ tokenLines (index + 1) rest

def tokens (d : TokenizedText) (text : String) : String :=
  unlines (tokenLines 0 ((Text.lines text.toList).zip d.lines))

end Scopemark.Report
