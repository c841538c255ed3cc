import Scopemark.Check.Checker

namespace Scopemark

def defaultGrammar : String := "grammars/cesium.tmGrammar.json"

def defaultFixtures : String := "tests/syntax"

namespace Argument

def value? (name arg : String) : Option String :=
  (name.toList.isPrefixOf? arg.toList).map String.ofList

def isOption (arg : String) : Bool := arg.toList.head? == some '-'

end Argument

inductive TestArgument
  | grammar (path : String)
  | filter (part : String)
  | extension (name : String)
  | verbose
  | sequential
  | exact
  | path (path : String)
  | unknown (arg : String)
deriving DecidableEq, Repr

def withoutDots (extension : String) : String :=
  .ofList (extension.toList.dropWhile (· == '.'))

def TestArgument.of (arg : String) : TestArgument :=
  match Argument.value? "--grammar=" arg with
  | some file => grammar file
  | none =>
    match Argument.value? "--filter=" arg with
    | some part => filter part
    | none =>
      match Argument.value? "--ext=" arg with
      | some name => extension (withoutDots name)
      | none =>
        if arg == "--verbose" || arg == "-v" then verbose
        else if arg == "--no-parallel" then sequential
        else if arg == "--exact" then exact
        else if Argument.isOption arg then unknown arg
        else path arg

structure TestOptions where
  grammar : String := defaultGrammar
  filter : Option String := none
  extensions : List String := []
  verbose : Bool := false
  sequential : Bool := false
  exact : Bool := false
  path : Option String := none
  /-- Arguments that say nothing, in their order. -/
  ignored : List String := []
deriving DecidableEq, Repr

namespace TestOptions

def take (o : TestOptions) : TestArgument → TestOptions
  | .grammar path => { o with grammar := path }
  | .filter part => { o with filter := some part }
  | .extension name => { o with extensions := o.extensions ++ [name] }
  | .verbose => { o with verbose := true }
  | .sequential => { o with sequential := true }
  | .exact => { o with exact := true }
  | .path path =>
    if o.path.isNone then { o with path := some path } else { o with ignored := o.ignored ++ [path] }
  | .unknown arg => { o with ignored := o.ignored ++ [arg] }

def ofArgs (args : List String) : TestOptions :=
  (args.map TestArgument.of).foldl take {}

def config (o : TestOptions) : Check.Config :=
  { filter := o.filter
    verbose := o.verbose
    parallel := !o.sequential
    mode := if o.exact then .exact else .superset
    extensions := if o.extensions.isEmpty then ({} : Check.Config).extensions else o.extensions }

/-- Without a path the usual directory of fixtures is checked if there is one, or else everything. -/
def pathIn (o : TestOptions) (fs : Files) : String :=
  o.path.getD (if fs.isDir defaultFixtures then defaultFixtures else ".")

def warnings (o : TestOptions) : List String :=
  o.ignored.map fun arg => "warning: ignoring unknown option '" ++ arg ++ "'"

end TestOptions

def lastValue? (name : String) (args : List String) : Option String :=
  (args.filterMap (Argument.value? name)).getLast?

def firstValue? (name : String) (args : List String) : Option String :=
  args.findSome? (Argument.value? name)

def firstFile? (args : List String) : Option String := args.find? fun a => !Argument.isOption a

structure HighlightArguments where
  lang : Option String
  config : Option String
  isInline : Bool
deriving DecidableEq, Repr

def HighlightArguments.ofArgs (args : List String) : HighlightArguments where
  lang := lastValue? "--lang=" args
  config := lastValue? "--config=" args
  isInline := args.contains "--inline"

inductive Command
  | test (options : TestOptions)
  | parse (fixture : Option String)
  | tokens (file : Option String) (grammar : String)
  | highlight (file : Option String) (arguments : HighlightArguments)
  | highlightConfig (config : Option String)
  | help
  | version
  | unknown (name : String)
deriving DecidableEq, Repr

def Command.ofArgs : List String → Command
  | [] => help
  | name :: args =>
    if name == "test" then test (.ofArgs args)
    else if name == "parse" then parse args.head?
    else if name == "tokens" then
      tokens (firstFile? args) ((lastValue? "--grammar=" args).getD defaultGrammar)
    else if name == "highlight" then highlight (firstFile? args) (.ofArgs args)
    else if name == "highlight-config" then highlightConfig (firstValue? "--config=" args)
    else if ["help", "--help", "-h"].contains name then help
    else if ["version", "--version", "-V"].contains name then version
    else unknown name

end Scopemark
