import Scopemark.Command.Arguments

namespace Scopemark.Usage

def version : String := "0.1.0"

def program : String := "cesium-syntax-test"

def help : List String :=
  ["Cesium syntax tooling",
    "",
    "Usage: " ++ program ++ " <command> [options]",
    "",
    "Commands:",
    "  test [path]          Check grammar fixtures (default: " ++ defaultFixtures ++ ")",
    "  parse <fixture>      Print the assertions of a fixture",
    "  tokens <file>        Print the tokens and scopes of a file",
    "  highlight <file>     Print highlighted spans of a file as JSON",
    "  highlight-config     Print resolved highlighting options as JSON",
    "  help                 Show this help message",
    "  version              Show version information",
    "",
    "Test options:",
    "  --grammar=<file>    Grammar to check (default: " ++ defaultGrammar ++ ")",
    "  --filter=<text>     Only check fixtures whose path contains <text>",
    "  --ext=<ext>         Fixture extension, repeatable (default: cs)",
    "  --exact             Require exactly the annotated scopes",
    "  --no-parallel       Check files one at a time",
    "  -v, --verbose       List passing assertions too",
    "",
    "Tokens options:",
    "  --grammar=<file>    Grammar to tokenize with (default: " ++ defaultGrammar ++ ")",
    "",
    "Highlight options:",
    "  --config=<file>     JSON options merged over the site defaults",
    "  --lang=<id>         Language to highlight with (highlight only)",
    "  --inline            Use the inline default language (highlight only)",
    "",
    "Logging:",
    "  CESIUM_LOG=<filter> tracing filter, e.g. CESIUM_LOG=cesium_grammar=debug"]

def parse : List String := ["Usage: " ++ program ++ " parse <fixture.cs>"]

def tokens : List String :=
  ["error: missing file path", "Usage: " ++ program ++ " tokens <file.cs> [--grammar=<file>]"]

def highlight : List String :=
  ["error: missing file path",
    "Usage: " ++ program ++ " highlight <file> [--lang=<id>] [--inline] [--config=<file>]"]

end Scopemark.Usage
