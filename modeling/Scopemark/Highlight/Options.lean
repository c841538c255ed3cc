import Scopemark.Grammar.Compile

namespace Scopemark

structure ThemePair where
  light : String := "github-light"
  dark : String := "github-dark"
deriving DecidableEq, Repr

def plaintext : String := "plaintext"

/-- The language of code that names none, for all code or for blocks and inline code apart. -/
inductive DefaultLang
  | single (lang : String)
  | split (block inline : String)
deriving DecidableEq, Repr

namespace DefaultLang

def block : DefaultLang → String
  | single lang => lang
  | split b _ => b

def inlined : DefaultLang → String
  | single lang => lang
  | split _ i => i

def forCode (d : DefaultLang) (isInline : Bool) : String := if isInline then d.inlined else d.block

def retainOr (keep : String → Bool) (fallback : String) (d : DefaultLang) : DefaultLang :=
  let pick (lang : String) := if keep lang then lang else fallback
  match d with
  | single lang => single (pick lang)
  | split b i => if pick b = pick i then single (pick b) else split (pick b) (pick i)

end DefaultLang

inductive GrammarSource
  | none
  | file (path : String)
  | document (g : GrammarText)
deriving BEq

/-- A relative path of a file is taken from `base`. -/
def GrammarSource.rebased (base : String) : GrammarSource → GrammarSource
  | file path => file (Path.join base path)
  | source => source

structure HighlightOptions where
  theme : ThemePair := {}
  keepBackground : Bool := false
  defaultLang : DefaultLang := .single plaintext
  grammar : GrammarSource := .none
  traceVisits : Bool := false
deriving BEq

/-- The settings that a user names. A grammar of `some none` takes an earlier one away. -/
structure UserOptions where
  theme : Option ThemePair := none
  keepBackground : Option Bool := none
  defaultLang : Option DefaultLang := none
  grammar : Option GrammarSource := none
  traceVisits : Option Bool := none
deriving BEq

namespace ThemePair

def ofJson (depth : Nat) (value : Json) : Except Json.Fault ThemePair := do
  let _ ← Json.enter depth
  let fields ← Json.fieldsOf ["light", "dark"] value
  let light ← Json.withDefault fields "light" ({} : ThemePair).light Json.toText
  let dark ← Json.withDefault fields "dark" ({} : ThemePair).dark Json.toText
  return ⟨light, dark⟩

def toJson (t : ThemePair) : Json := .record [("light", .text t.light), ("dark", .text t.dark)]

end ThemePair

namespace DefaultLang

def splitOfFields (fields : List (Option String × Json)) : Except Json.Fault DefaultLang := do
  let fields ← Json.knownFields ["block", "inline"] fields []
  return split (← Json.required fields "block" Json.toText) (← Json.required fields "inline" Json.toText)

def ofJson (depth : Nat) (value : Json) : Except Json.Fault DefaultLang :=
  if !value.isWhole depth then .error .malformed
  else
    match value with
    | .string (some lang) => .ok (single lang)
    | .object fields => splitOfFields fields
    | _ => .error .noVariant

def toJson : DefaultLang → Json
  | single lang => .text lang
  | split b i => .record [("block", .text b), ("inline", .text i)]

end DefaultLang

namespace GrammarSource

def ofJson (depth : Nat) (value : Json) : Except Json.Fault GrammarSource :=
  if !value.isWhole depth then .error .malformed
  else
    match value with
    | .null => .ok .none
    | .string (some path) => .ok (.file path)
    | value => (GrammarText.ofJson depth value).map .document

def toJson : GrammarSource → Json
  | none => .null
  | file path => .text path
  | document g => g.toJson

end GrammarSource

def optionNames : List String := ["theme", "keepBackground", "defaultLang", "grammar", "traceVisits"]

namespace HighlightOptions

def ofJson (depth : Nat) (value : Json) : Except Json.Fault HighlightOptions := do
  let depth ← Json.enter depth
  let fields ← Json.fieldsOf optionNames value
  let theme ← Json.withDefault fields "theme" {} (ThemePair.ofJson depth)
  let keepBackground ← Json.withDefault fields "keepBackground" false Json.toBool
  let defaultLang ← Json.withDefault fields "defaultLang" (.single plaintext) (DefaultLang.ofJson depth)
  let grammar ← Json.withDefault fields "grammar" .none (GrammarSource.ofJson depth)
  let traceVisits ← Json.withDefault fields "traceVisits" false Json.toBool
  return { theme, keepBackground, defaultLang, grammar, traceVisits }

def toJson (o : HighlightOptions) : Json :=
  .record [("theme", o.theme.toJson), ("keepBackground", .bool o.keepBackground),
    ("defaultLang", o.defaultLang.toJson), ("grammar", o.grammar.toJson),
    ("traceVisits", .bool o.traceVisits)]

end HighlightOptions

namespace UserOptions

def ofJson (depth : Nat) (value : Json) : Except Json.Fault UserOptions := do
  let depth ← Json.enter depth
  let fields ← Json.fieldsOf optionNames value
  let theme ← Json.withDefault fields "theme" none (Json.toOption (ThemePair.ofJson depth))
  let keepBackground ← Json.withDefault fields "keepBackground" none (Json.toOption Json.toBool)
  let defaultLang ←
    Json.withDefault fields "defaultLang" none (Json.toOption (DefaultLang.ofJson depth))
  let grammar ←
    Json.withDefault fields "grammar" none fun v => (GrammarSource.ofJson depth v).map some
  let traceVisits ← Json.withDefault fields "traceVisits" none (Json.toOption Json.toBool)
  return { theme, keepBackground, defaultLang, grammar, traceVisits }

end UserOptions

inductive OptionsError
  | unreadable (path : String) (fault : FileFault)
  | invalidDocument (fault : Json.Fault)
deriving DecidableEq

def OptionsError.message : OptionsError → String
  | .unreadable path fault => "failed to read highlight options '" ++ path ++ "': " ++ fault.message
  | .invalidDocument fault => "invalid highlight options: " ++ fault.message

def UserOptions.read? (text : String) : Except OptionsError UserOptions :=
  (Json.decode (UserOptions.ofJson Json.depthLimit) text).mapError .invalidDocument

namespace HighlightOptions

def site : HighlightOptions where
  keepBackground := true
  defaultLang := .single "cesium"
  grammar := .file "grammars/cesium.tmGrammar.json"

def read? (text : String) : Except OptionsError HighlightOptions :=
  (Json.decode (ofJson Json.depthLimit) text).mapError .invalidDocument

def merge (o : HighlightOptions) (user : UserOptions) : HighlightOptions where
  theme := user.theme.getD o.theme
  keepBackground := user.keepBackground.getD o.keepBackground
  defaultLang := user.defaultLang.getD o.defaultLang
  grammar := user.grammar.getD o.grammar
  traceVisits := user.traceVisits.getD o.traceVisits

def mergeText (o : HighlightOptions) (text : String) : Except OptionsError HighlightOptions :=
  (UserOptions.read? text).map o.merge

def mergeFile (o : HighlightOptions) (fs : Files) (path : String) :
    Except OptionsError HighlightOptions := do
  let text ← (fs.readText path).mapError (.unreadable path)
  let user ← UserOptions.read? text
  match Path.parent? path with
  | some dir => return o.merge { user with grammar := user.grammar.map (GrammarSource.rebased dir) }
  | none => return o.merge user

end HighlightOptions

end Scopemark
