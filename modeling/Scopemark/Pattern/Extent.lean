import Std.Data.HashMap
import Scopemark.Pattern.Expr
import Scopemark.Text.Utf8

namespace Scopemark.Pattern

inductive Direction
  | forward
  | backward
deriving DecidableEq, Repr

/-- The number of states, and the bytes of their lists. States are numbered in the order in which they
are added. -/
structure Extent where
  states : Nat := 0
  lists : Nat := 0
deriving DecidableEq, Repr, Inhabited

namespace Extent

def stateSize : Nat := 32

def rangeSize : Nat := 8

def linkSize : Nat := 4

def bytes (x : Extent) : Nat := stateSize * x.states + x.lists

def grow (x : Extent) (states lists : Nat) : Extent := ⟨x.states + states, x.lists + lists⟩

def limit : Nat := 10 * 1024 * 1024

def fits (x : Extent) : Bool := x.bytes ≤ limit

def copies (add : Extent → Extent) : Nat → Extent → Extent
  | 0, x => x
  | n + 1, x => if x.fits then copies add n (add x) else x

end Extent

def slot (size : Nat) (key : List Nat) : Nat :=
  let hash := key.foldl (fun (h : UInt64) n => (h ^^^ n.toUInt64) * 1099511628211) 14695981039346656037
  hash.toNat % size

structure SetBuild where
  extent : Extent
  store : Std.HashMap Nat (List Nat × Nat) := {}

def SetBuild.state (x : SetBuild) (size : Nat) (key : List Nat) (lists : Nat) : Nat × SetBuild :=
  let place := slot size key
  match x.store[place]? with
  | some (known, id) =>
    if known = key then (id, x)
    else (x.extent.states, ⟨x.extent.grow 1 lists, x.store.insert place (key, x.extent.states)⟩)
  | none => (x.extent.states, ⟨x.extent.grow 1 lists, x.store.insert place (key, x.extent.states)⟩)

/-- A state that is not finished: its ranges with their states, the last one first, and the range that
is still being read. -/
structure OpenState where
  ranges : List (Nat × Nat × Nat) := []
  last : Option (Nat × Nat) := none

def OpenState.close (s : OpenState) (next : Nat) : OpenState :=
  match s.last with
  | some (a, b) => ⟨(a, b, next) :: s.ranges, none⟩
  | none => s

def forwardStore : Nat := 10000

def backwardStore : Nat := 1000

def OpenState.add (s : OpenState) (x : SetBuild) : Nat × SetBuild :=
  x.state forwardStore (s.ranges.reverse.flatMap fun (a, b, next) => [a, b, next])
    (Extent.rangeSize * s.ranges.length)

def closeBehind (target : Nat) : List OpenState → SetBuild → Nat × SetBuild
  | [], x => (target, x)
  | s :: states, x =>
    let (next, x) := closeBehind target states x
    (s.close next).add x

/-- Adds a sequence of byte ranges to the open states, of which the first one is where all sequences
start. The states that do not read its beginning are finished. -/
def addSequence (target : Nat) : List OpenState → Text.ByteRanges → SetBuild → List OpenState × SetBuild
  | s :: states, range :: rest, x =>
    if s.last = some range then
      let (states, x) := addSequence target states rest x
      (s :: states, x)
    else
      let (next, x) := closeBehind target states x
      ({ s.close next with last := some range } :: rest.map fun r => { last := some r }, x)
  | states, _, x => (states, x)

def forwardSet (sequences : List Text.ByteRanges) (x : Extent) : Extent :=
  let target := x.states
  let (opened, build) := sequences.foldl
    (fun (states, build) sequence => addSequence target states sequence build)
    (([{}] : List OpenState), ({ extent := x.grow 1 0 } : SetBuild))
  (closeBehind target opened build).2.extent

def backwardSet (sequences : List Text.ByteRanges) (x : Extent) : Extent :=
  let target := x.states + 1
  let build := sequences.foldl
    (fun build sequence =>
      let (_, build) := sequence.foldl
        (fun (next, build) (a, b) => build.state backwardStore [next, a, b] 0)
        (target, build)
      { build with extent := build.extent.grow 0 Extent.linkSize })
    ({ extent := x.grow 2 0 } : SetBuild)
  build.extent

def setExtent (d : Direction) (s : CharSet) (x : Extent) : Extent :=
  if s.isAscii then x.grow 2 (Extent.rangeSize * s.ranges.size)
  else
    let sequences := s.ranges.toList.flatMap fun (a, b) => Text.byteSequences a b
    match d with
    | .forward => forwardSet sequences x
    | .backward => backwardSet sequences x

def behind (b : Nat) (words : List (List Nat)) : List (List Nat) :=
  words.filterMap fun w => if w.head? = some b then some w.tail else none

/-- The words up to each word that ends here, without those words. A word that ends where none went on
before counts once. -/
def chunks : List (List Nat) → List (List (List Nat))
  | [] => [[]]
  | [] :: words => [] :: chunks words
  | w :: words =>
    match chunks words with
    | c :: cs => (w :: c) :: cs
    | [] => [[w]]

def dropRepeatedEnds : List (List Nat) → List (List Nat)
  | [] :: [] :: words => dropRepeatedEnds ([] :: words)
  | words => words

/-- The tree of the words that are left at a place. Ends of words cut the words that go on into
chunks; each chunk is a state with a range for each first byte, and one more state joins them. -/
def treeExtent : Nat → List (List Nat) → Extent → Extent
  | 0, _, x => x
  | depth + 1, words, x =>
    if words.all List.isEmpty then x
    else
      let cs := chunks (dropRepeatedEnds words)
      let firstBytes (chunk : List (List Nat)) := (chunk.filterMap List.head?).eraseDups
      let x := cs.foldl (fun x chunk => (firstBytes chunk).foldl
        (fun x b => treeExtent depth (behind b chunk) x) x) x
      let full := cs.filter fun chunk => !chunk.isEmpty
      let ranges := full.foldl (fun n chunk =>
        let k := (firstBytes chunk).length
        if k = 1 then n else n + k) 0
      x.grow (full.length + 1)
        (Extent.rangeSize * ranges + Extent.linkSize * (full.length + cs.length - 1))

def wordsExtent (d : Direction) (words : List (List Nat)) (x : Extent) : Extent :=
  let words := match d with
    | .forward => words
    | .backward => words.map List.reverse
  treeExtent (1 + words.foldl (fun n w => max n w.length) 0) words (x.grow 1 0)

namespace Expr

def textBytes (cs : List Char) : List Nat := cs.flatMap fun c => Text.utf8Bytes c.toNat

def word? : Expr → Option (List Nat)
  | .text cs => some (textBytes cs)
  | _ => none

def words? : Expr → Option (List (List Nat))
  | .alt first rest => (Expr.alt first rest).branches.mapM word?
  | _ => none

def endsInLinks (d : Direction) : Expr → Bool
  | .group _ body => d = .backward && body.endsInLinks d
  | .seq first rest =>
    match d with
    | .forward => rest.endsInLinks d
    | .backward => first.endsInLinks d
  | .rep body least none _ => least != 0 || body.advances
  | .rep body least (some most) _ => least == most && body.endsInLinks d
  | _ => false

def tieSize (d : Direction) (e : Expr) : Nat := if e.endsInLinks d then Extent.linkSize else 0

def join (d : Direction) (e : Expr) (before : Nat) (x : Extent) : Extent :=
  x.grow (if before = 1 then 2 else 0) (Extent.linkSize + e.tieSize d)

/-- Adds the machine of an expression. If it is the last of several alternatives, `before` is the
number of the others, and 0 otherwise. -/
def extend (d : Direction) : Expr → Nat → Extent → Extent
  | .alt first rest, before, x =>
    match if before = 0 then words? (.alt first rest) else none with
    | some words => wordsExtent d words x
    | none => rest.extend d (before + 1) (join d first before (first.extend d 0 x))
  | .empty, before, x => close .empty before (x.grow 1 0)
  | .look l, before, x => close (.look l) before (x.grow 1 0)
  | .text cs, before, x => close (.text cs) before (x.grow (textBytes cs).length 0)
  | .one set unicode, before, x => close (.one set unicode) before (setExtent d set x)
  | .group index body, before, x =>
    close (.group index body) before <|
      match d with
      | .forward => (body.extend d 0 (x.grow 1 0)).grow 1 (body.tieSize d)
      | .backward => body.extend d 0 x
  | .seq first rest, before, x =>
    close (.seq first rest) before <|
      match d with
      | .forward => rest.extend d 0 ((first.extend d 0 x).grow 0 (first.tieSize d))
      | .backward => first.extend d 0 ((rest.extend d 0 x).grow 0 (rest.tieSize d))
  | .rep body least none greedy, before, x =>
    close (.rep body least none greedy) before <|
      if least = 0 ∧ body.advances then
        (body.extend d 0 (x.grow 1 0)).grow 0 (Extent.linkSize + body.tieSize d)
      else if least = 0 then
        (body.extend d 0 x).grow 3 (4 * Extent.linkSize + body.tieSize d)
      else
        (Extent.copies (fun x => (body.extend d 0 x).grow 0 (body.tieSize d)) least x).grow 1
          Extent.linkSize
  | .rep body least (some most) greedy, before, x =>
    close (.rep body least (some most) greedy) before <|
      let copy := fun x => (body.extend d 0 x).grow 0 (body.tieSize d)
      let round := fun x => copy ((x : Extent).grow 1 (2 * Extent.linkSize))
      if least = most then body.extend d 0 (Extent.copies copy (least - 1) x)
      else if least = 0 ∧ most = 1 then (round x).grow 1 0
      else
        let x := Extent.copies copy least (x.grow (if least = 0 then 1 else 0) 0)
        Extent.copies round (most - least) (x.grow 1 0)
where
  /-- Ties what was added, if it is the last alternative. -/
  close (e : Expr) (before : Nat) (x : Extent) : Extent :=
    if before = 0 then x else join d e before x

def startsWith (l : Look) : Expr → Bool
  | .look m => l = m
  | .group _ body => body.startsWith l
  | .rep body least _ _ => least != 0 && body.startsWith l
  | .seq first rest => first.startsWith l || (first.readsNothing && rest.startsWith l)
  | .alt first rest => first.startsWith l && rest.startsWith l
  | _ => false

def endsWith (l : Look) : Expr → Bool
  | .look m => l = m
  | .group _ body => body.endsWith l
  | .rep body least _ _ => least != 0 && body.endsWith l
  | .seq first rest => rest.endsWith l || (rest.readsNothing && first.endsWith l)
  | .alt first rest => first.endsWith l && rest.endsWith l
  | _ => false

def machineExtent (d : Direction) (e : Expr) : Extent :=
  let tied := match d with
    | .forward => e.startsWith .textStart
    | .backward => e.endsWith .textStop
  let x : Extent := if tied then { states := 1 } else { states := 3, lists := 16 }
  match d with
  | .forward => (e.extend d 0 (x.grow 1 0)).grow 2 (e.tieSize d)
  | .backward => (e.extend d 0 x).grow 1 (e.tieSize d)

def manyWords : Nat := 3000

def fits (e : Expr) : Bool :=
  e.words?.any (fun words => manyWords ≤ words.length) ||
    ((e.machineExtent .forward).fits && (e.machineExtent .backward).fits)

end Expr

end Scopemark.Pattern
