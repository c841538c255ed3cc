import Scopemark.Command.Usage
import Scopemark.Check.Report
import Scopemark.Highlight.Block

namespace Scopemark

/-- What a command prints. The report of a run shows how long the run took, which is filled in when
it is printed. -/
inductive Printout
  | text (s : String)
  | report (verbose : Bool) (s : CheckSummary)
deriving DecidableEq

def Printout.render (nanoseconds : Nat) : Printout → String
  | text s => s
  | report verbose s => Report.summary verbose { s with duration := nanoseconds }

structure Outcome where
  code : Nat
  printout : Printout := .text ""
  /-- Lines for the standard error stream. -/
  complaints : List String := []
deriving DecidableEq

namespace Outcome

def failure (complaints : List String) : Outcome := { code := 1, complaints }

def error (message : String) : Outcome := failure ["error: " ++ message]

def lines (l : List String) : Outcome := { code := 0, printout := .text (Report.unlines l) }

def after (warnings : List String) (o : Outcome) : Outcome :=
  { o with complaints := warnings ++ o.complaints }

def attempt {α : Type} (r : Except String α) (go : α → Outcome) : Outcome :=
  match r with
  | .ok a => go a
  | .error message => error message

end Outcome

namespace Command

def readMessage (path : String) : FileFault → String
  | .notFound => "cannot find file '" ++ path ++ "'"
  | .notText => "'" ++ path ++ "' contains invalid UTF-8 data"
  | fault => "error reading '" ++ path ++ "': " ++ fault.message

def readText (fs : Files) (path : String) : Except String String :=
  (fs.readText path).mapError (readMessage path)

def loadGrammar (fs : Files) (path : String) : Except String Grammar :=
  (Grammar.load? fs path).mapError fun e =>
    "failed to load grammar '" ++ path ++ "': " ++ e.message

def runTest (fs : Files) (path grammar : String) (config : Check.Config) : Outcome :=
  if !fs.isThere path then .failure ["Path not found: " ++ path]
  else
    .attempt (loadGrammar fs grammar) fun g =>
      let summary := ((Check.run (g.oracle hash) fs config path).run Cache.empty).1
      { code := summary.exitCode, printout := .report config.verbose summary }

def runParse (fs : Files) (path : String) : Outcome :=
  .attempt (readText fs path) fun text =>
    match Fixture.read? text with
    | .ok f => { code := 0, printout := .text (Report.fixture f) }
    | .error e => .failure [path ++ ": " ++ e.message]

def runTokens (fs : Files) (path grammar : String) : Outcome :=
  .attempt (readText fs path) fun text =>
    .attempt (loadGrammar fs grammar) fun g =>
      { code := 0, printout := .text (Report.tokens (g.tokenize text) text) }

def siteOptions (fs : Files) : Option String → Except String HighlightOptions
  | none => .ok .site
  | some path => (HighlightOptions.site.mergeFile fs path).mapError OptionsError.message

def resolvedSite (fs : Files) (config : Option String) : Except String Highlighting :=
  (siteOptions fs config).map fun o => .resolve fs o fs.workingPath

def runHighlightConfig (fs : Files) (config : Option String) : Outcome :=
  .attempt (resolvedSite fs config) fun h => .lines [h.toJson.pretty]

def runHighlight (fs : Files) (path : String) (a : HighlightArguments) : Outcome :=
  .attempt (readText fs path) fun code =>
    .attempt (resolvedSite fs a.config) fun h =>
      .lines [(CodeBlock.highlight h code a.lang a.isInline).toJson.pretty]

def run (fs : Files) : Command → Outcome
  | test o => (runTest fs (o.pathIn fs) o.grammar o.config).after o.warnings
  | parse none => .failure Usage.parse
  | parse (some path) => runParse fs path
  | tokens none _ => .failure Usage.tokens
  | tokens (some path) grammar => runTokens fs path grammar
  | highlight none _ => .failure Usage.highlight
  | highlight (some path) a => runHighlight fs path a
  | highlightConfig config => runHighlightConfig fs config
  | help => .lines Usage.help
  | version => .lines [Usage.program ++ " " ++ Usage.version]
  | unknown name =>
    { Outcome.lines Usage.help with code := 1, complaints := ["Unknown command: " ++ name, ""] }

def paths (fs : Files) : Command → List String
  | test o => [defaultFixtures, o.path.getD ".", o.grammar]
  | parse path => path.toList
  | tokens path grammar => path.toList ++ [grammar]
  | highlight path a => path.toList ++ configPaths fs a.config
  | highlightConfig config => configPaths fs config
  | help | version | unknown _ => []
where
  configPaths (fs : Files) (config : Option String) : List String :=
    config.toList ++
      match siteOptions fs config with
      | .ok { grammar := .file path, .. } => [path]
      | _ => []

end Command

end Scopemark
