import Scopemark.Pattern.Lexeme

namespace Scopemark.Pattern

inductive SetOp
  | inter
  | diff
  | symmDiff
deriving DecidableEq, Repr

def SetOp.apply : SetOp → CharSet → CharSet → CharSet
  | .inter => CharSet.inter
  | .diff => CharSet.diff
  | .symmDiff => CharSet.symmDiff

structure DeepSet where
  set : CharSet
  depth : Nat

abbrev Members := List DeepSet

def Members.join (members : Members) : DeepSet where
  set := .unions (members.map DeepSet.set)
  depth :=
    match members with
    | [] => 0
    | [m] => m.depth
    | ms => 1 + (ms.map DeepSet.depth).foldl max 0

inductive ClassFrame
  /-- A bracket was opened among the members of an outer class. -/
  | bracket (outer : Members) (negated : Bool)
  /-- The left side of an operation was read. -/
  | operand (op : SetOp) (left : DeepSet)

structure ClassState where
  rest : List Char
  members : Members
  stack : List ClassFrame

def applyOperand (flags : Flags) (right : DeepSet) (stack : List ClassFrame) :
    DeepSet × List ClassFrame :=
  match stack with
  | .operand op left :: stack =>
    (⟨op.apply (flags.fold left.set) (flags.fold right.set), 1 + max left.depth right.depth⟩, stack)
  | stack => (right, stack)

def readHyphens (flags : Flags) (inComment : Bool) : List Char → Nat × List Char
  | [] => (0, [])
  | c :: rest =>
    if inComment then readHyphens flags (c != '\n') rest
    else if flags.verbose && Text.isBlank c then readHyphens flags false rest
    else if flags.verbose && c == '#' then readHyphens flags true rest
    else if c == '-' then
      let (n, rest) := readHyphens flags false rest
      (n + 1, rest)
    else (0, c :: rest)

def openClass (flags : Flags) (cs : List Char) (outer : Members) (stack : List ClassFrame) :
    Except Fault ClassState := do
  let (negated, cs) ←
    match skip flags cs with
    | '^' :: rest => pure (true, skip flags rest)
    | [] => throw .classUnclosed
    | rest => pure (false, rest)
  let (hyphens, cs) := readHyphens flags false cs
  let frames := .bracket outer negated :: stack
  match cs with
  | [] => throw .classUnclosed
  | c :: rest =>
    if hyphens = 0 ∧ c = ']' then
      if (skip flags rest).isEmpty then throw .classUnclosed
      else return ⟨skip flags rest, [⟨.singleton ']', 0⟩], frames⟩
    else return ⟨c :: rest, .replicate hyphens ⟨.singleton '-', 0⟩, frames⟩

def readNamedClass (flags : Flags) (cs : List Char) :
    Option (Except Fault CharSet × List Char) :=
  match cs with
  | '[' :: ':' :: rest =>
    let (negated, rest) :=
      match rest with
      | '^' :: rest => (true, rest)
      | rest => (false, rest)
    match rest.span (· != ':') with
    | (name, ':' :: ']' :: rest) =>
      (namedClass? (.ofList name)).map fun s => (flags.foldAndNegate negated s, rest)
    | _ => none
  | _ => none

def readMember (flags : Flags) (cs : List Char) : Except Fault (Element × List Char) :=
  match cs with
  | [] => .error .classUnclosed
  | '\\' :: rest => readEscape flags rest
  | c :: rest => .ok (.char c false, rest)

def rangeEnd (flags : Flags) : Element → Except Fault Char
  | .char c _ => if flags.unicode || c.toNat < 128 then .ok c else .error .needsUnicode
  | _ => .error .classRangeInvalid

def memberSet (flags : Flags) : Element → Except Fault CharSet
  | .set s => .ok s
  | .char c byte => (rangeEnd flags (.char c byte)).map .singleton
  | .look _ => .error .classMember

/-- The character that tells a range from a hyphen that stands for itself: the first one behind the
hyphen, over blanks and the sign that starts a comment. If nothing else follows it is a blank. -/
def peekBehind (flags : Flags) (cs : List Char) : Option Char :=
  if flags.verbose then
    let behind :=
      match cs.dropWhile Text.isBlank with
      | '#' :: rest => rest.dropWhile Text.isBlank
      | rest => rest
    (behind.head?).or cs.head?
  else cs.head?

def readRange (flags : Flags) (cs : List Char) : Except Fault (CharSet × List Char) := do
  let (first, rest) ← readMember flags cs
  match skip flags rest with
  | [] => throw .classUnclosed
  | '-' :: behind =>
    if peekBehind flags behind == some ']' || peekBehind flags behind == some '-' then
      return (← memberSet flags first, '-' :: behind)
    else
      let (last, rest) ← readMember flags (skip flags behind)
      let a ← rangeEnd flags first
      let b ← rangeEnd flags last
      if a.toNat ≤ b.toNat then return (.ofRanges [(a.toNat, b.toNat)], rest)
      else throw .classRangeInvalid
  | rest => return (← memberSet flags first, rest)

def startOperand (flags : Flags) (op : SetOp) (rest : List Char) (s : ClassState) : ClassState :=
  let (left, stack) := applyOperand flags s.members.join s.stack
  ⟨rest, [], .operand op left :: stack⟩

def readClassFrom (flags : Flags) : Nat → ClassState → Except Fault (DeepSet × List Char)
  | 0, _ => .error .classUnclosed
  | fuel + 1, s => do
    match skip flags s.rest with
    | [] => throw .classUnclosed
    | '[' :: rest =>
      match readNamedClass flags ('[' :: rest) with
      | some (named, rest) =>
        readClassFrom flags fuel { s with rest, members := ⟨← named, 0⟩ :: s.members }
      | none => readClassFrom flags fuel (← openClass flags rest s.members s.stack)
    | ']' :: rest =>
      let (inner, stack) := applyOperand flags s.members.join s.stack
      match stack with
      | .bracket outer negated :: stack =>
        let closed : DeepSet := ⟨← flags.foldAndNegate negated inner.set, 1 + inner.depth⟩
        if stack.isEmpty then return (closed, rest)
        else readClassFrom flags fuel ⟨rest, closed :: outer, stack⟩
      | _ => throw .classUnclosed
    | '&' :: '&' :: rest => readClassFrom flags fuel (startOperand flags .inter rest s)
    | '-' :: '-' :: rest => readClassFrom flags fuel (startOperand flags .diff rest s)
    | '~' :: '~' :: rest => readClassFrom flags fuel (startOperand flags .symmDiff rest s)
    | rest =>
      let (set, rest) ← readRange flags rest
      readClassFrom flags fuel { s with rest, members := ⟨set, 0⟩ :: s.members }

def readClass (flags : Flags) (cs : List Char) : Except Fault (DeepSet × List Char) := do
  readClassFrom flags (cs.length + 1) (← openClass flags cs [] [])

end Scopemark.Pattern
