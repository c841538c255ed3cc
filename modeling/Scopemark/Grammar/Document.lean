import Scopemark.Json.Decode
import Scopemark.Json.Writer
import Scopemark.Text.Blank

namespace Scopemark

structure Capture where
  name : Option String
deriving DecidableEq, Repr

abbrev Captures := List (String × Capture)

/-- A rule. What stands under `match`, `begin` and `end` is its `pattern`, `opening` and `closing`. -/
structure RuleText where
  includes : Option String := none
  name : Option String := none
  contentName : Option String := none
  pattern : Option String := none
  opening : Option String := none
  closing : Option String := none
  captures : Option (List (String × Capture)) := none
  openingCaptures : Option (List (String × Capture)) := none
  closingCaptures : Option (List (String × Capture)) := none
  rules : List RuleText := []
  comment : Option String := none
deriving BEq, Inhabited

structure GrammarText where
  name : String
  scopeName : String
  fileTypes : List String := []
  rules : List RuleText := []
  repository : List (String × RuleText) := []
deriving BEq, Inhabited

namespace Capture

def ofJson (depth : Nat) (value : Json) : Except Json.Fault Capture := do
  let _ ← Json.enter depth
  let fields ← Json.fieldsOf ["name"] value
  return ⟨← Json.optionalText fields "name"⟩

end Capture

def Captures.ofJson (depth : Nat) (value : Json) : Except Json.Fault Captures := do
  Json.toTable (Capture.ofJson (← Json.enter depth)) value

def Captures.field (depth : Nat) (fields : Json.Fields) (name : String) :
    Except Json.Fault (Option Captures) :=
  Json.withDefault fields name none (Json.toOption (Captures.ofJson depth))

namespace RuleText

def fieldNames : List String :=
  ["include", "name", "contentName", "match", "begin", "end", "captures", "beginCaptures",
    "endCaptures", "patterns", "comment"]

def ofFields (depth : Nat) (nested : Json → Except Json.Fault (List RuleText)) (value : Json) :
    Except Json.Fault RuleText := do
  let fields ← Json.fieldsOf fieldNames value
  let includes ← Json.optionalText fields "include"
  let name ← Json.optionalText fields "name"
  let contentName ← Json.optionalText fields "contentName"
  let pattern ← Json.optionalText fields "match"
  let opening ← Json.optionalText fields "begin"
  let closing ← Json.optionalText fields "end"
  let captures ← Captures.field depth fields "captures"
  let openingCaptures ← Captures.field depth fields "beginCaptures"
  let closingCaptures ← Captures.field depth fields "endCaptures"
  let rules ← Json.withDefault fields "patterns" [] nested
  let comment ← Json.optionalText fields "comment"
  return { includes, name, contentName, pattern, opening, closing, captures, openingCaptures
           closingCaptures, rules, comment }

def ofJson : Nat → Json → Except Json.Fault RuleText
  | 0, _ => .error .tooDeep
  | 1, value => ofFields 0 (fun _ => .error .tooDeep) value
  | depth + 2, value => ofFields (depth + 1) (Json.toList (ofJson depth)) value

def listOfJson (depth : Nat) (value : Json) : Except Json.Fault (List RuleText) := do
  Json.toList (ofJson (← Json.enter depth)) value

def tableOfJson (depth : Nat) (value : Json) : Except Json.Fault (List (String × RuleText)) := do
  Json.toTable (ofJson (← Json.enter depth)) value

end RuleText

namespace GrammarText

def fieldNames : List String := ["name", "scopeName", "fileTypes", "patterns", "repository"]

def textsOfJson (depth : Nat) (value : Json) : Except Json.Fault (List String) := do
  let _ ← Json.enter depth
  Json.toList Json.toText value

def ofJson (depth : Nat) (value : Json) : Except Json.Fault GrammarText := do
  let depth ← Json.enter depth
  let fields ← Json.fieldsOf fieldNames value
  let name ← Json.required fields "name" Json.toText
  let scopeName ← Json.required fields "scopeName" Json.toText
  let fileTypes ← Json.withDefault fields "fileTypes" [] (textsOfJson depth)
  let rules ← Json.withDefault fields "patterns" [] (RuleText.listOfJson depth)
  let repository ← Json.withDefault fields "repository" [] (RuleText.tableOfJson depth)
  return { name, scopeName, fileTypes, rules, repository }

end GrammarText

def Capture.toJson (c : Capture) : Json := .record (Json.optional "name" (c.name.map .text))

def Captures.toJson (cs : Captures) : Json := .record (cs.map fun (key, c) => (key, c.toJson))

mutual

def RuleText.toJson : RuleText → Json
  | ⟨includes, name, contentName, pattern, opening, closing, captures, openingCaptures,
      closingCaptures, rules, comment⟩ =>
    .record
      (Json.optional "include" (includes.map .text) ++
        Json.optional "name" (name.map .text) ++
        Json.optional "contentName" (contentName.map .text) ++
        Json.optional "match" (pattern.map .text) ++
        Json.optional "begin" (opening.map .text) ++
        Json.optional "end" (closing.map .text) ++
        Json.optional "captures" (captures.map Captures.toJson) ++
        Json.optional "beginCaptures" (openingCaptures.map Captures.toJson) ++
        Json.optional "endCaptures" (closingCaptures.map Captures.toJson) ++
        Json.unlessEmpty "patterns" rules (.array (RuleText.listToJson rules)) ++
        Json.optional "comment" (comment.map .text))

def RuleText.listToJson : List RuleText → List Json
  | [] => []
  | r :: rs => r.toJson :: RuleText.listToJson rs

end

def GrammarText.toJson (g : GrammarText) : Json :=
  .record
    ([("name", .text g.name), ("scopeName", .text g.scopeName)] ++
      Json.unlessEmpty "fileTypes" g.fileTypes (.texts g.fileTypes) ++
      [("patterns", .array (RuleText.listToJson g.rules))] ++
      Json.unlessEmpty "repository" g.repository
        (.record (g.repository.map fun (key, r) => (key, r.toJson))))

end Scopemark
