import Scopemark.Check.Matching
import Scopemark.Check.Discovery
import Scopemark.Fixture.Reader

namespace Scopemark.Check

structure Config where
  /-- Only fixtures are checked whose path contains this text. -/
  filter : Option String := none
  /-- Assertions that hold are reported, too. -/
  verbose : Bool := false
  /-- Files may be checked at the same time, which changes no result. -/
  parallel : Bool := true
  mode : MatchMode := .superset
  extensions : List String := ["cs"]
deriving DecidableEq, Repr

variable {m : Type → Type} [Monad m]

def checkAssertions (oracle : Oracle m) (mode : MatchMode) (text : String) (summary : FileSummary) :
    List ScopeAssertion → m FileSummary
  | [] => pure summary
  | a :: rest => do
    let result ← checkAssertion oracle mode text a
    checkAssertions oracle mode text (summary.addResult result) rest

def checkSource (oracle : Oracle m) (mode : MatchMode) (path : FilePath) (text : String) :
    m FileSummary := do
  match Fixture.read? text with
  | .error e => return ({ path } : FileSummary).addError e.message
  | .ok fixture =>
    let summary ← checkAssertions oracle mode fixture.text { path, suite := fixture.suiteName }
      fixture.assertions
    oracle.release fixture.text
    return summary

def checkFile (oracle : Oracle m) (mode : MatchMode) (fs : Files) (path : FilePath) :
    m FileSummary := do
  match fs.readText path with
  | .ok text => checkSource oracle mode path text
  | .error e => return ({ path } : FileSummary).addError ("failed to read file: " ++ e.message)

def hasInfix (part : List Char) : List Char → Bool
  | [] => part.isEmpty
  | c :: rest => part.isPrefixOf (c :: rest) || hasInfix part rest

def Config.keeps (config : Config) (path : FilePath) : Bool :=
  match config.filter with
  | none => true
  | some part => hasInfix part.toList path.display.toList

def selected (fs : Files) (config : Config) (path : FilePath) : List FilePath :=
  (discoverAt fs config.extensions path).filter config.keeps

def checkFiles (oracle : Oracle m) (mode : MatchMode) (fs : Files) (summary : CheckSummary) :
    List FilePath → m CheckSummary
  | [] => pure summary
  | path :: rest => do
    let file ← checkFile oracle mode fs path
    checkFiles oracle mode fs (summary.addFile file) rest

def run (oracle : Oracle m) (fs : Files) (config : Config) (path : FilePath) : m CheckSummary :=
  checkFiles oracle config.mode fs {} (selected fs config path)

end Scopemark.Check
