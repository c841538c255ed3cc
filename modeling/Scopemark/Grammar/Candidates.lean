import Scopemark.Grammar.Basic

namespace Scopemark.Grammar

variable (g : Grammar)

structure Expansion where
  visited : List RuleId
  found : List RuleId

/-- Adds what a rule stands for: a group stands for its rules when it is met first, and for nothing
after that. Groups nest at most as deep as there are rules. -/
def expand : Nat → Expansion → RuleId → Expansion
  | 0, e, _ => e
  | level + 1, e, id =>
    match g.rule id with
    | .group rules =>
      if e.visited.contains id then e
      else rules.foldl (expand level) { e with visited := id :: e.visited }
    | _ => { e with found := id :: e.found }

def candidates (region : RuleId) : List RuleId :=
  ((g.rule region).listed.foldl (g.expand (g.rules.size + 1)) ⟨[region], []⟩).found.reverse

abbrev Memo := List (RuleId × List RuleId)

def remember (memo : Memo) (region : RuleId) : List RuleId × Memo :=
  match memo.lookup region with
  | some ids => (ids, memo)
  | none => (g.candidates region, (region, g.candidates region) :: memo)

end Scopemark.Grammar
