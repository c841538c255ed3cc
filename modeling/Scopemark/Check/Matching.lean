import Scopemark.Check.Result
import Scopemark.Grammar.Oracle

namespace Scopemark

inductive MatchMode
  /-- Other scopes may be assigned, too. -/
  | superset
  /-- No other scope may be assigned, but for those of whole texts. -/
  | exact
deriving DecidableEq, Repr

namespace Scope

def isRoot (s : Scope) : Bool :=
  match s.segments with
  | segment :: _ => segment == "source" || segment == "text"
  | [] => false

end Scope

namespace Check

def unexpected (a : ScopeAssertion) (actual : ScopeSet) (forbidden : List Scope) : List Scope :=
  actual.toList.filter fun s => !s.isRoot && !a.expected.contains s && !forbidden.contains s

def compare (mode : MatchMode) (a : ScopeAssertion) (column : Nat) (actual : ScopeSet) :
    Option Mismatch :=
  let missing := actual.missing a.expected
  let excluded := a.excluded.filter actual.contains
  let forbidden := match mode with
    | .superset => excluded
    | .exact => excluded ++ unexpected a actual excluded
  if missing.isEmpty && forbidden.isEmpty then none else some ⟨column, actual, missing, forbidden⟩

variable {m : Type → Type} [Monad m]

def firstMismatch (oracle : Oracle m) (mode : MatchMode) (text : String) (a : ScopeAssertion) :
    (count column : Nat) → m (Option Mismatch)
  | 0, _ => pure none
  | count + 1, column => do
    let actual ← oracle.scopesAt text a.sourceLine column
    match compare mode a column actual with
    | some mismatch => return some mismatch
    | none => firstMismatch oracle mode text a count (column + 1)

def checkAssertion (oracle : Oracle m) (mode : MatchMode) (text : String) (a : ScopeAssertion) :
    m CheckResult := do
  return .of a (← firstMismatch oracle mode text a a.span.width a.span.start)

end Check

end Scopemark
