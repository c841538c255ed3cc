import Scopemark.Grammar.Document
import Scopemark.Pattern.Basic
import Scopemark.Files.Tree
import Scopemark.Scope.Set

namespace Scopemark

inductive GrammarError
  | unreadable (path : String) (fault : FileFault)
  | invalidDocument (fault : Json.Fault)
  | emptyField (name : String)
  | badPattern (source : String) (fault : Pattern.Fault)
  | unknownInclude (name : String)
  | emptyRule
  | missingEnd (opening : String)
  | captureKey (key : String)
  | badScope (e : ScopeError)
deriving DecidableEq

def GrammarError.message : GrammarError → String
  | .unreadable path fault => "failed to read grammar '" ++ path ++ "': " ++ fault.message
  | .invalidDocument fault => "invalid grammar document: " ++ fault.message
  | .emptyField name => "grammar field `" ++ name ++ "` is empty"
  | .badPattern source fault => "cannot compile pattern `" ++ source ++ "`: " ++ fault.message
  | .unknownInclude name => "unknown include `" ++ name ++ "`"
  | .emptyRule => "rule has no `match`, `begin`, `include` or `patterns`"
  | .missingEnd opening => "rule with begin `" ++ opening ++ "` has no `end`"
  | .captureKey key => "capture key `" ++ key ++ "` is not a group number"
  | .badScope e => "invalid scope name: " ++ e.message

abbrev RuleId := Nat

structure CaptureScopes where
  group : Nat
  scopes : List Scope

inductive Rule
  | single (pattern : Pattern) (scopes : List Scope) (captures : List CaptureScopes)
  /-- From what `opening` matches to what `closing` matches, with `inner` between them only. -/
  | region (opening closing : Pattern) (scopes inner : List Scope)
      (openingCaptures closingCaptures : List CaptureScopes) (rules : List RuleId)
  | group (rules : List RuleId)

namespace Rule

instance : Inhabited Rule := ⟨.group []⟩

def listed : Rule → List RuleId
  | single .. => []
  | region _ _ _ _ _ _ rules => rules
  | group rules => rules

def finder? : Rule → Option Pattern
  | single pattern _ _ => some pattern
  | region opening _ _ _ _ _ _ => some opening
  | group _ => none

def closer? : Rule → Option Pattern
  | region _ closing _ _ _ _ _ => some closing
  | _ => none

end Rule

/-- The rule with that number; a number without a rule is that of an empty group. -/
def ruleAt (rules : Array Rule) (id : RuleId) : Rule := rules[id]?.getD (.group [])

def Grammar.root : RuleId := 0

structure Grammar where
  name : String
  scopeName : Scope
  fileTypes : List String
  rules : Array Rule
  root_group : ∃ ids, ruleAt rules Grammar.root = .group ids

namespace Grammar

def rule (g : Grammar) (id : RuleId) : Rule := ruleAt g.rules id

end Grammar

end Scopemark
