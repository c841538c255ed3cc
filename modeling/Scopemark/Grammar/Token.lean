import Scopemark.Scope.Set

namespace Scopemark

/-- The characters from column `start` up to `stop`, and their scopes, the outermost first. -/
structure Token where
  start : Nat
  stop : Nat
  scopes : List Scope
deriving DecidableEq

abbrev LineTokens := List Token

namespace LineTokens

/-- The place of the first token between `low` and `high` that `p` does not hold of, found by halving.
The tokens that `p` holds of come first. -/
def partitionPoint (p : Token → Bool) (tokens : LineTokens) (low high : Nat) : Nat :=
  if low < high then
    let middle := low + (high - low) / 2
    if tokens[middle]?.any p then partitionPoint p tokens (middle + 1) high
    else partitionPoint p tokens low middle
  else low
termination_by high - low

def tokenAt? (tokens : LineTokens) (column : Nat) : Option Token :=
  tokens[tokens.partitionPoint (fun t => t.stop ≤ column) 0 tokens.length]?.filter fun t =>
    t.start ≤ column

end LineTokens

structure TokenizedText where
  lines : List LineTokens
deriving DecidableEq

namespace TokenizedText

def lineCount (d : TokenizedText) : Nat := d.lines.length

def scopesAt (d : TokenizedText) (line column : Nat) : ScopeSet :=
  match d.lines[line]?.bind (LineTokens.tokenAt? · column) with
  | some t => .ofList t.scopes
  | none => .empty

end TokenizedText

end Scopemark
