import Scopemark.Pattern.Program

namespace Scopemark.Pattern

structure Thread where
  node : Nat
  start : Nat
  slots : Array (Option Nat)
deriving Inhabited

structure Match where
  start : Nat
  stop : Nat
  slots : Array (Option Nat)
deriving Inhabited

def Match.group? (m : Match) (index : Nat) : Option (Nat × Nat) :=
  if index = 0 then some (m.start, m.stop)
  else
    match m.slots[2 * index]?, m.slots[2 * index + 1]? with
    | some (some a), some (some b) => some (a, b)
    | _, _ => none

abbrev Visits := Array Nat

/-- Moves the threads of `work` on until each waits for a character or accepts. A node is visited
once at a place, by the thread that is preferred. The threads that wait are added to `waiting`, the
preferred first from its end. -/
def settle (p : Program) (line : Array Char) (pos : Nat) :
    Nat → List Thread → Visits → List Thread → Visits × List Thread
  | 0, _, visits, waiting => (visits, waiting)
  | _, [], visits, waiting => (visits, waiting)
  | fuel + 1, t :: work, visits, waiting =>
    if visits[t.node]? == some (pos + 1) then settle p line pos fuel work visits waiting
    else
      let visits := visits.setIfInBounds t.node (pos + 1)
      match p.nodes[t.node]? with
      | some (.look look next) =>
        if look.holds line pos then settle p line pos fuel ({ t with node := next } :: work) visits waiting
        else settle p line pos fuel work visits waiting
      | some (.fork first second) =>
        settle p line pos fuel ({ t with node := first } :: { t with node := second } :: work) visits waiting
      | some (.mark slot next) =>
        settle p line pos fuel
          ({ t with node := next, slots := t.slots.setIfInBounds slot (some pos) } :: work) visits waiting
      | some (.one _ _) | some .accept => settle p line pos fuel work visits (t :: waiting)
      | none => settle p line pos fuel work visits waiting

def settleFuel (p : Program) (work : List Thread) : Nat := 2 * p.nodes.size + work.length + 1

def advance (p : Program) (c : Option Char) (pos : Nat) : List Thread → List Thread × Option Match
  | [] => ([], none)
  | t :: waiting =>
    match p.nodes[t.node]? with
    | some .accept => ([], some ⟨t.start, pos, t.slots⟩)
    | some (.one set next) =>
      let (threads, found) := advance p c pos waiting
      if c.any set.contains then ({ t with node := next } :: threads, found) else (threads, found)
    | _ => advance p c pos waiting

/-- Goes through the line from `pos` on. Until there is a match a new thread starts at each place at
which one may start, and the search ends when no thread is left that could replace the match. -/
def scan (p : Program) (line : Array Char) :
    Nat → Nat → List Thread → Visits → Option Match → Option Match
  | 0, _, _, _, best => best
  | fuel + 1, pos, threads, visits, best =>
    let next := charAfter line pos
    let work :=
      if best.isNone && p.mayStart next then threads ++ [⟨p.start, pos, p.slots⟩] else threads
    if work.isEmpty then scan p line fuel (pos + 1) [] visits best
    else
      let (visits, waiting) := settle p line pos (settleFuel p work) work visits []
      let (threads, found) := advance p next pos waiting.reverse
      let best := found.or best
      if threads.isEmpty && best.isSome then best
      else scan p line fuel (pos + 1) threads visits best

def Program.find? (p : Program) (line : Array Char) (pos : Nat) : Option Match :=
  scan p line (line.size + 1 - pos) pos [] (.replicate p.nodes.size 0) none

end Scopemark.Pattern
