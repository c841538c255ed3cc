import Scopemark.Grammar.Basic

namespace Scopemark.Grammar

structure Building where
  rules : Array Rule
  ids : List (String × RuleId)

abbrev Build := StateT Building (Except GrammarError)

def fail {α : Type} (e : GrammarError) : Build α := fun _ => .error e

def push (rule : Rule) : Build RuleId := fun s =>
  .ok (s.rules.size, { s with rules := s.rules.push rule })

def setRule (id : RuleId) (rule : Rule) : Build Unit := fun s =>
  .ok ((), { s with rules := s.rules.setIfInBounds id rule })

def reserve (name : String) : Build RuleId := fun s =>
  .ok (s.rules.size, ⟨s.rules.push (.group []), (name, s.rules.size) :: s.ids⟩)

def readScopes : List (List Char) → Except GrammarError (List Scope)
  | [] => .ok []
  | word :: rest =>
    match Scope.ofString? (.ofList word) with
    | .error e => .error (.badScope e)
    | .ok scope => (readScopes rest).map (scope :: ·)

def scopesOf (name : Option String) : Except GrammarError (List Scope) :=
  match name with
  | none => .ok []
  | some name => readScopes (Text.words name.toList)

def compilePattern (source : String) : Except GrammarError Pattern :=
  (Pattern.read? source).mapError (.badPattern source)

def groupLimit : Nat := Nat.pow 2 64

def groupNumber? (key : String) : Option Nat :=
  let digits := match key.toList with
    | '+' :: digits => digits
    | digits => digits
  if !digits.isEmpty && digits.all Json.isDigit && Text.decimalValue digits < groupLimit then
    some (Text.decimalValue digits)
  else none

def capturesFrom : List (String × Capture) → Except GrammarError (List CaptureScopes)
  | [] => .ok []
  | (key, capture) :: rest =>
    match groupNumber? key with
    | none => .error (.captureKey key)
    | some group => do
      let scopes ← scopesOf capture.name
      let captures ← capturesFrom rest
      return if scopes.isEmpty then captures else ⟨group, scopes⟩ :: captures

def capturesOf (captures : Option Captures) : Except GrammarError (List CaptureScopes) :=
  match captures with
  | none => .ok []
  | some cs => (capturesFrom cs).map fun list => list.mergeSort fun a b => a.group ≤ b.group

def resolveInclude (entry : String → Build RuleId) (target : String) : Build (Option RuleId) :=
  if target == "$self" || target == "$base" then return some root
  else
    match target.toList with
    | '#' :: name => return some (← entry (.ofList name))
    | _ => return none

mutual

def build (entry : String → Build RuleId) : RuleText → Build Rule
  | ⟨_, name, contentName, pattern, opening, closing, captures, openingCaptures, closingCaptures,
      rules, _⟩ => do
    let scopes ← scopesOf name
    match pattern, opening with
    | some source, _ =>
      let pattern ← compilePattern source
      return .single pattern scopes (← capturesOf captures)
    | none, some begins =>
      match closing with
      | none => fail (.missingEnd begins)
      | some ends =>
        let opening ← compilePattern begins
        let closing ← compilePattern ends
        let inner ← scopesOf contentName
        let openingCaptures ← capturesOf (openingCaptures <|> captures)
        let closingCaptures ← capturesOf (closingCaptures <|> captures)
        let ids ← compileAll entry rules
        return .region opening closing scopes inner openingCaptures closingCaptures ids
    | none, none =>
      if rules.isEmpty then fail .emptyRule
      else return .group (← compileAll entry rules)

def compileAll (entry : String → Build RuleId) : List RuleText → Build (List RuleId)
  | [] => return []
  | r :: rest => do
    match r.includes with
    | some target =>
      let id ← resolveInclude entry target
      let ids ← compileAll entry rest
      return id.toList ++ ids
    | none =>
      let id ← push (← build entry r)
      return id :: (← compileAll entry rest)

end

def entryRule (entry : String → Build RuleId) (raw : RuleText) : Build Rule := do
  match raw.includes with
  | some target => return .group (← resolveInclude entry target).toList
  | none => build entry raw

/-- The number of a repository entry, which is compiled when it is first asked for. Entries nest at
most as deep as there are names, so that with no level left an entry that has no number is unknown. -/
def entry (repository : List (String × RuleText)) : Nat → String → Build RuleId
  | level, name => fun s =>
    match s.ids.lookup name with
    | some id => .ok (id, s)
    | none =>
      match level, KeyList.get? name repository with
      | level + 1, some raw =>
        (do
          let id ← reserve name
          let rule ← entryRule (entry repository level) raw
          setRule id rule
          return id : Build RuleId) s
      | _, _ => .error (.unknownInclude ("#" ++ name))

theorem root_group_setRoot (rules : Array Rule) (ids : List RuleId) :
    ∃ ids', ruleAt (rules.setIfInBounds root (.group ids)) root = .group ids' := by
  by_cases h : root < rules.size
  · exact ⟨ids, by simp [ruleAt, h]⟩
  · exact ⟨[], by simp [ruleAt, h]⟩

def compile? (g : GrammarText) : Except GrammarError Grammar := do
  let scopeName ← (Scope.ofString? (.ofList (Text.trim g.scopeName.toList))).mapError .badScope
  let (ids, s) ← compileAll (entry g.repository g.repository.length) g.rules ⟨#[.group []], []⟩
  return { name := g.name, scopeName, fileTypes := g.fileTypes
           rules := s.rules.setIfInBounds root (.group ids)
           root_group := root_group_setRoot s.rules ids }

end Scopemark.Grammar

namespace Scopemark

def GrammarText.read? (text : String) : Except GrammarError GrammarText := do
  let g ← (Json.decode (GrammarText.ofJson Json.depthLimit) text).mapError .invalidDocument
  if Text.allBlank g.name.toList then throw (.emptyField "name")
  else if Text.allBlank g.scopeName.toList then throw (.emptyField "scopeName")
  else return g

namespace Grammar

def read? (text : String) : Except GrammarError Grammar := do
  compile? (← GrammarText.read? text)

def load? (fs : Files) (path : String) : Except GrammarError Grammar := do
  read? (← (fs.readText path).mapError (.unreadable path))

end Grammar

end Scopemark
