import Scopemark.Text.Digits

namespace Scopemark

/-- A set of characters: ascending ranges of code points, both ends included. -/
structure CharSet where
  ranges : Array (Nat × Nat)
deriving DecidableEq, Inhabited

namespace CharSet

def lastCodePoint : Nat := 0x10FFFF

def join : List (Nat × Nat) → List (Nat × Nat)
  | (a, b) :: (c, d) :: rest =>
    if c ≤ b + 1 then join ((a, max b d) :: rest) else (a, b) :: join ((c, d) :: rest)
  | rest => rest
termination_by rs => rs.length

def ofRanges (rs : List (Nat × Nat)) : CharSet :=
  ⟨(join (rs.mergeSort fun r s => r.1 ≤ s.1)).toArray⟩

def empty : CharSet := ⟨#[]⟩

def all : CharSet := ⟨#[(0, lastCodePoint)]⟩

def singleton (c : Char) : CharSet := ⟨#[(c.toNat, c.toNat)]⟩

def isEmpty (s : CharSet) : Bool := s.ranges.isEmpty

def search (ranges : Array (Nat × Nat)) (n lo hi : Nat) : Bool :=
  if lo < hi then
    let mid := (lo + hi) / 2
    match ranges[mid]? with
    | none => false
    | some (a, b) =>
      if n < a then search ranges n lo mid
      else if b < n then search ranges n (mid + 1) hi
      else true
  else false
termination_by hi - lo

def containsCode (s : CharSet) (n : Nat) : Bool := search s.ranges n 0 s.ranges.size

def contains (s : CharSet) (c : Char) : Bool := s.containsCode c.toNat

def union (s t : CharSet) : CharSet := ofRanges (s.ranges.toList ++ t.ranges.toList)

def unions (ss : List CharSet) : CharSet := ofRanges (ss.flatMap fun s => s.ranges.toList)

def after (n : Nat) : Nat := if n = 0xD7FF then 0xE000 else n + 1

def before (n : Nat) : Nat := if n = 0xE000 then 0xD7FF else n - 1

def between (a b : Nat) : Nat × Nat := (min a b, max a b)

/-- What lies behind the range that ends at `last`: the gap before each further range, and the rest.
Two ranges that meet where no characters are have the two characters at their ends between them. -/
def gapsBehind (last : Nat) : List (Nat × Nat) → List (Nat × Nat)
  | [] => if last < lastCodePoint then [between (after last) lastCodePoint] else []
  | (a, b) :: rest => between (after last) (before a) :: gapsBehind b rest

def gaps : List (Nat × Nat) → List (Nat × Nat)
  | [] => [(0, lastCodePoint)]
  | (a, b) :: rest => (if 0 < a then [(0, before a)] else []) ++ gapsBehind b rest

def compl (s : CharSet) : CharSet := ⟨(gaps s.ranges.toList).toArray⟩

def overlaps : List (Nat × Nat) → List (Nat × Nat) → List (Nat × Nat)
  | (a, b) :: rs, (c, d) :: ss =>
    let rest := if b < d then overlaps rs ((c, d) :: ss) else overlaps ((a, b) :: rs) ss
    if max a c ≤ min b d then (max a c, min b d) :: rest else rest
  | _, _ => []
termination_by rs ss => rs.length + ss.length

def inter (s t : CharSet) : CharSet := ⟨(overlaps s.ranges.toList t.ranges.toList).toArray⟩

def remains : List (Nat × Nat) → List (Nat × Nat) → List (Nat × Nat)
  | (a, b) :: rs, (c, d) :: ss =>
    if d < a then remains ((a, b) :: rs) ss
    else if b < c then (a, b) :: remains rs ((c, d) :: ss)
    else
      let rest := if d < b then remains ((after d, b) :: rs) ss else remains rs ((c, d) :: ss)
      if a < c then (a, before c) :: rest else rest
  | rs, _ => rs
termination_by rs ss => rs.length + ss.length

def diff (s t : CharSet) : CharSet := ⟨(remains s.ranges.toList t.ranges.toList).toArray⟩

def symmDiff (s t : CharSet) : CharSet := (s.union t).diff (s.inter t)

def isAscii (s : CharSet) : Bool := s.ranges.all fun r => r.2 < 128

def cutAt (c : Char) (cs : List Char) : List Char × List Char :=
  let (before, after) := cs.span (· != c)
  (before, after.drop 1)

def everySecond (a b : Nat) : List (Nat × Nat) :=
  (List.range ((b - a) / 2 + 1)).map fun i => (a + 2 * i, a + 2 * i)

def readItem (cs : List Char) : List (Nat × Nat) :=
  let (range, stride) := cutAt '/' cs
  let (first, last) := cutAt '-' range
  let a := Text.hexValue first
  let b := if last.isEmpty then a else Text.hexValue last
  if stride.isEmpty then [(a, b)] else everySecond a b

def readTable (table : String) : CharSet :=
  ofRanges (((table.splitToList fun c => c == ' ' || c == '\n').filter fun s => !s.isEmpty).flatMap
    fun s => readItem s.toList)

end CharSet

end Scopemark
