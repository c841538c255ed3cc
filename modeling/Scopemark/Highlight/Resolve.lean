import Scopemark.Highlight.Options

namespace Scopemark

structure Language where
  id : String
  scopeName : Option String
  aliases : List String
deriving DecidableEq, Repr

namespace Language

def plain : Language := ⟨plaintext, none, ["text", "txt"]⟩

def ofGrammar (g : Grammar) : Language := ⟨Unicode.lower g.name, some g.scopeName.name, g.fileTypes⟩

def lowerAscii (s : String) : List Char := s.toList.map Char.toLower

def sameName (s t : String) : Bool := lowerAscii s == lowerAscii t

def goesBy (l : Language) (lang : String) : Bool :=
  sameName l.id lang || l.scopeName == some lang || l.aliases.any fun a => sameName a lang

def toJson (l : Language) : Json :=
  .record ([("id", .text l.id)] ++ Json.optional "scopeName" (l.scopeName.map .text) ++
    Json.unlessEmpty "aliases" l.aliases (.texts l.aliases))

end Language

structure Highlighting where
  theme : ThemePair
  keepBackground : Bool
  defaultLang : DefaultLang
  /-- Plain text comes first. -/
  languages : List Language
  traceVisits : Bool
  /-- Why there is no grammar although one is named. -/
  degraded : Option String
  grammar : Option Grammar

def GrammarSource.load? (fs : Files) (base : String) :
    GrammarSource → Except GrammarError (Option Grammar)
  | .none => .ok Option.none
  | .file path => (Grammar.load? fs (Path.join base path)).map some
  | .document g => (Grammar.compile? g).map some

namespace Highlighting

def ofGrammar (o : HighlightOptions) (loaded : Except GrammarError (Option Grammar)) :
    Highlighting :=
  let grammar := match loaded with
    | .ok g => g
    | .error _ => none
  let degraded := match loaded with
    | .ok _ => none
    | .error e => some e.message
  let languages := Language.plain :: (grammar.map Language.ofGrammar).toList
  { theme := o.theme
    keepBackground := o.keepBackground
    defaultLang := o.defaultLang.retainOr (fun lang => languages.any (·.goesBy lang)) plaintext
    languages
    traceVisits := o.traceVisits
    degraded
    grammar }

def resolve (fs : Files) (o : HighlightOptions) (base : String) : Highlighting :=
  ofGrammar o (o.grammar.load? fs base)

def isDegraded (h : Highlighting) : Bool := h.degraded.isSome

def supports (h : Highlighting) (lang : String) : Bool := h.languages.any (·.goesBy lang)

/-- The grammar for a language; there is none for plain text. -/
def grammarFor? (h : Highlighting) (lang : String) : Option Grammar :=
  if (h.languages.drop 1).any (·.goesBy lang) then h.grammar else none

def toJson (h : Highlighting) : Json :=
  .record
    ([("theme", h.theme.toJson), ("keepBackground", .bool h.keepBackground),
      ("defaultLang", h.defaultLang.toJson), ("languages", .array (h.languages.map Language.toJson)),
      ("traceVisits", .bool h.traceVisits)] ++
      Json.optional "degraded" (h.degraded.map .text))

end Highlighting

end Scopemark
