import Scopemark.Pattern.Expr

namespace Scopemark.Pattern

inductive Node
  /-- Reads one character of the set. -/
  | one (set : CharSet) (next : Nat)
  | look (look : Look) (next : Nat)
  /-- Goes on with either node and prefers the first. -/
  | fork (first second : Nat)
  /-- Notes the place in a slot. -/
  | mark (slot : Nat) (next : Nat)
  | accept
deriving Inhabited

structure Program where
  nodes : Array Node
  start : Nat
  /-- The slots of a thread that has noted nothing yet, two for each group. -/
  slots : Array (Option Nat)
  slots_blank : ∀ slot ∈ slots, slot = none
  /-- The characters that a match may start with. There are none to go by if it may be empty. -/
  firsts : Option CharSet

abbrev Table := Array Node

def add (node : Node) (table : Table) : Nat × Table := (table.size, table.push node)

def choice (greedy : Bool) (into out : Nat) : Node :=
  if greedy then .fork into out else .fork out into

def addLoop (body : Nat → Table → Nat × Table) (greedy : Bool) (next : Nat) (table : Table) :
    Nat × Nat × Table :=
  let (again, table) := add .accept table
  let (entry, table) := body again table
  (entry, again, table.setIfInBounds again (choice greedy entry next))

def addCopies (body : Nat → Table → Nat × Table) : Nat → Nat → Table → Nat × Table
  | 0, next, table => (next, table)
  | count + 1, next, table =>
    let (entry, table) := body next table
    addCopies body count entry table

/-- Lays out up to `count` rounds in front of the node `rest`, the last round first. Each may be left
out, which leads to `next`. -/
def addRounds (body : Nat → Table → Nat × Table) (greedy : Bool) (next : Nat) :
    Nat → Nat → Table → Nat × Table
  | 0, rest, table => (rest, table)
  | count + 1, rest, table =>
    let (entry, table) := body rest table
    let (rest, table) := add (choice greedy entry next) table
    addRounds body greedy next count rest table

def addText : List Char → Nat → Table → Nat × Table
  | [], next, table => (next, table)
  | c :: before, next, table =>
    let (entry, table) := add (.one (.singleton c) next) table
    addText before entry table

/-- Lays out an expression in front of the node `next` and returns its entry. A body that may read
nothing is repeated as one round or more, or none, so that a round that reads nothing comes before
leaving it out. -/
def emit : Expr → Nat → Table → Nat × Table
  | .empty, next, table => (next, table)
  | .text cs, next, table => addText cs.reverse next table
  | .one set _, next, table => add (.one set next) table
  | .look l, next, table => add (.look l next) table
  | .group index body, next, table =>
    let (stop, table) := add (.mark (2 * index + 1) next) table
    let (entry, table) := emit body stop table
    add (.mark (2 * index) entry) table
  | .seq first rest, next, table =>
    let (entry, table) := emit rest next table
    emit first entry table
  | .alt first rest, next, table =>
    let (b, table) := emit rest next table
    let (a, table) := emit first next table
    add (.fork a b) table
  | .rep body least none greedy, next, table =>
    if least = 0 then
      let (entry, again, table) := addLoop (emit body) greedy next table
      if body.advances then (again, table) else add (choice greedy entry next) table
    else
      let (entry, _, table) := addLoop (emit body) greedy next table
      addCopies (emit body) (least - 1) entry table
  | .rep body least (some most) greedy, next, table =>
    let (entry, table) := addRounds (emit body) greedy next (most - least) next table
    addCopies (emit body) least entry table

def compile (e : Expr) (groups : Nat) : Program :=
  let (start, nodes) := emit e 0 #[.accept]
  { nodes
    start
    slots := .replicate (2 * (groups + 1)) none
    slots_blank := fun _ h => (Array.mem_replicate.mp h).2
    firsts := if e.nullable then none else some e.firsts }

def Program.mayStart (p : Program) (c : Option Char) : Bool :=
  match p.firsts with
  | none => true
  | some set => c.any set.contains

end Scopemark.Pattern
