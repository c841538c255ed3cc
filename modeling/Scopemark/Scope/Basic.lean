import Scopemark.Text.Blank
import Scopemark.Text.Lines

namespace Scopemark

inductive ScopeError
  | empty
  | whitespace (name : String)
  | emptySegment (name : String)
deriving DecidableEq, Repr

def ScopeError.message : ScopeError → String
  | .empty => "scope identifier is empty"
  | .whitespace name => "scope identifier `" ++ name ++ "` contains whitespace"
  | .emptySegment name => "scope identifier `" ++ name ++ "` has an empty segment"

/-- A scope has a name of non-empty segments between dots, without white space. -/
structure Scope where
  name : String
  noBlank : name.toList.any Text.isBlank = false
  noGap : (Text.cut '.' name.toList).any List.isEmpty = false
deriving DecidableEq

namespace Scope

def ofString? (name : String) : Except ScopeError Scope :=
  if name.toList.isEmpty then .error .empty
  else if blank : name.toList.any Text.isBlank then .error (.whitespace name)
  else if gap : (Text.cut '.' name.toList).any List.isEmpty then .error (.emptySegment name)
  else .ok ⟨name, eq_false_of_ne_true blank, eq_false_of_ne_true gap⟩

def segments (s : Scope) : List String := (Text.cut '.' s.name.toList).map String.ofList

def isPrefixOf (s t : Scope) : Bool :=
  s.name.toList.isPrefixOf t.name.toList &&
    match t.name.toList.drop s.name.toList.length with
    | [] => true
    | c :: _ => c == '.'

instance : LT Scope := ⟨fun s t => s.name < t.name⟩

instance (s t : Scope) : Decidable (s < t) := inferInstanceAs (Decidable (s.name < t.name))

theorem ext_name {s t : Scope} (h : s.name = t.name) : s = t := by
  cases s; cases t; cases h; rfl

theorem lt_trans {s t u : Scope} (h : s < t) (k : t < u) : s < u := String.lt_trans h k

theorem eq_of_not_lt {s t : Scope} (h : ¬ s < t) (k : ¬ t < s) : s = t :=
  ext_name (String.le_antisymm (String.not_lt.mp k) (String.not_lt.mp h))

end Scope

def scopeNames (scopes : List Scope) : String := String.intercalate " " (scopes.map Scope.name)

def showScopes (scopes : List Scope) : String :=
  if scopes.isEmpty then "(none)" else scopeNames scopes

end Scopemark
