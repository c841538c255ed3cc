import Scopemark.Highlight.Resolve
import Scopemark.Grammar.Tokenizer
import Scopemark.Text.Offsets

namespace Scopemark

structure Span where
  text : String
  scopes : List String
deriving DecidableEq, Repr

structure CodeBlock where
  lang : String
  isInline : Bool
  lines : List (List Span)
deriving DecidableEq, Repr

namespace CodeBlock

def plainLines (code : List (List Char)) : List (List Span) :=
  code.map fun line => [⟨.ofList line, []⟩]

/-- The characters of a token, cut out of the line by bytes. -/
def tokenText (line : List Char) (t : Token) : List Char :=
  (Text.slice? (Text.offsetOf line t.start) (Text.offsetOf line t.stop) line).getD []

def cutLine (line : List Char) (tokens : LineTokens) : List Span :=
  tokens.map fun t => ⟨.ofList (tokenText line t), t.scopes.map Scope.name⟩

def grammarLines (g : Grammar) (code : String) : List (List Span) :=
  ((Text.lines code.toList).zip (g.tokenize code).lines).map fun (line, tokens) => cutLine line tokens

def highlight (h : Highlighting) (code : String) (lang : Option String) (isInline : Bool) :
    CodeBlock :=
  match h.grammarFor? (lang.getD (h.defaultLang.forCode isInline)) with
  | some g => ⟨Unicode.lower g.name, isInline, grammarLines g code⟩
  | none => ⟨plaintext, isInline, plainLines (Text.lines code.toList)⟩

inductive Visit
  | span (line : Nat) (span : Span)
  | line (line : Nat) (spans : List Span)
deriving DecidableEq, Repr

def visitsFrom (index : Nat) : List (List Span) → List Visit
  | [] => []
  | spans :: rest =>
    spans.map (Visit.span index) ++ .line index spans :: visitsFrom (index + 1) rest

def visits (b : CodeBlock) : List Visit := visitsFrom 0 b.lines

def spanJson (s : Span) : Json := .record [("text", .text s.text), ("scopes", .texts s.scopes)]

def lineJson (spans : List Span) : Json := .record [("spans", .array (spans.map spanJson))]

def toJson (b : CodeBlock) : Json :=
  .record [("lang", .text b.lang), ("inline", .bool b.isInline),
    ("lines", .array (b.lines.map lineJson))]

end CodeBlock

end Scopemark
