import Scopemark.Pattern.ClassReader
import Scopemark.Pattern.Extent

namespace Scopemark.Pattern

/-- An expression, how deeply its text is nested, and whether it only sets flags and so cannot be
repeated. -/
structure Piece where
  expr : Expr
  depth : Nat := 0
  directive : Bool := false

structure OpenGroup where
  pieces : List Piece
  branches : List Piece
  index : Option Nat
  flags : Flags

structure ReadState where
  rest : List Char
  flags : Flags := {}
  pieces : List Piece := []
  branches : List Piece := []
  stack : List OpenGroup := []
  groups : Nat := 0
  names : List (List Char) := []

def concat (pieces : List Piece) : Piece where
  expr := .concat (pieces.reverse.map Piece.expr)
  depth :=
    match pieces with
    | [] => 0
    | [p] => p.depth
    | ps => 1 + (ps.map Piece.depth).foldl max 0

def ReadState.body (s : ReadState) : Piece :=
  let last := concat s.pieces
  match s.branches.reverse with
  | [] => last
  | first :: others =>
    { expr := .anyOf ((first :: others ++ [last]).map Piece.expr)
      depth := 1 + ((first :: others ++ [last]).map Piece.depth).foldl max 0 }

def ReadState.push (s : ReadState) (rest : List Char) (piece : Piece) : ReadState :=
  { s with rest, pieces := piece :: s.pieces }

def isNameStart (c : Char) : Bool := c == '_' || Unicode.Latest.alphabetic.contains c

def isNameChar (c : Char) : Bool :=
  isNameStart c || c == '.' || c == '[' || c == ']' || Unicode.Latest.numeric.contains c

def readName (cs : List Char) : Except Fault (List Char × List Char) :=
  match cs.span isNameChar with
  | (c :: name, '>' :: rest) =>
    if isNameStart c then .ok (c :: name, rest) else .error .groupNameInvalid
  | _ => .error .groupNameInvalid

def readFlags (outer : Flags) (seen : List Char) (negated : Bool) :
    Flags → List Char → Except Fault (Flags × Char × List Char)
  | _, [] => .error .flagsUnfinished
  | flags, c :: rest =>
    if c == ':' || c == ')' then
      if seen.head? == some '-' then .error .flagsUnfinished
      else if c == ')' ∧ seen.isEmpty then .error .nothingToRepeat
      else .ok (flags, c, rest)
    else if seen.contains c then .error .flagRepeated
    else if c == '-' then readFlags outer (c :: seen) true flags rest
    else
      match flags.set? c !negated with
      | none => .error .flagUnknown
      | some flags => readFlags outer (c :: seen) negated flags rest

def isLookAround (cs : List Char) : Bool :=
  "?=".toList.isPrefixOf cs || "?!".toList.isPrefixOf cs || "?<=".toList.isPrefixOf cs ||
    "?<!".toList.isPrefixOf cs

def ReadState.enter (s : ReadState) (rest : List Char) (index : Option Nat) (inside : Flags) :
    ReadState :=
  { s with
    rest
    flags := inside
    pieces := []
    branches := []
    stack := ⟨s.pieces, s.branches, index, s.flags⟩ :: s.stack
    groups := if index.isSome then s.groups + 1 else s.groups }

def ReadState.enterNamed (s : ReadState) (cs : List Char) : Except Fault ReadState := do
  let (name, rest) ← readName cs
  if s.names.contains name then throw .groupNameRepeated
  else return { s.enter rest (some (s.groups + 1)) s.flags with names := name :: s.names }

def ReadState.openGroup (s : ReadState) (cs : List Char) : Except Fault ReadState := do
  let cs := skip s.flags cs
  if isLookAround cs then throw .lookAround
  else
    match cs with
    | '?' :: 'P' :: '<' :: rest => s.enterNamed rest
    | '?' :: '<' :: rest => s.enterNamed rest
    | '?' :: rest =>
      if rest.isEmpty then throw .groupUnclosed
      else
        let (flags, sign, rest) ← readFlags s.flags [] false s.flags rest
        if sign == ')' then return { s.push rest { expr := .empty, directive := true } with flags }
        else return s.enter rest none flags
    | rest => return s.enter rest (some (s.groups + 1)) s.flags

def ReadState.closeGroup (s : ReadState) (rest : List Char) : Except Fault ReadState :=
  match s.stack with
  | [] => .error .groupUnopened
  | g :: stack =>
    let body := s.body
    let expr := match g.index with
      | some index => .group index body.expr
      | none => body.expr
    .ok { s with
      rest
      flags := g.flags
      pieces := { expr, depth := 1 + body.depth } :: g.pieces
      branches := g.branches
      stack }

def readLazy (cs : List Char) : Bool × List Char :=
  match cs with
  | '?' :: rest => (true, rest)
  | rest => (false, rest)

def ReadState.repeatLast (s : ReadState) (bounds : Bounds) (isLazy : Bool) (rest : List Char) :
    Except Fault ReadState :=
  match s.pieces with
  | [] => .error .nothingToRepeat
  | p :: pieces =>
    if p.directive then .error .nothingToRepeat
    else
      let greedy := isLazy == s.flags.swapGreed
      let expr := Expr.repeated p.expr bounds.least bounds.most greedy
      .ok { s with rest, pieces := { expr, depth := 1 + p.depth } :: pieces }

def ReadState.repeatSign (s : ReadState) (bounds : Bounds) (rest : List Char) :
    Except Fault ReadState :=
  let (isLazy, rest) := readLazy rest
  s.repeatLast bounds isLazy rest

def ReadState.repeatCounted (s : ReadState) (rest : List Char) : Except Fault ReadState := do
  let (bounds, rest) ← readBounds s.flags rest
  let (isLazy, rest) := readLazy (skip s.flags rest)
  s.repeatLast bounds isLazy rest

def elementExpr (flags : Flags) : Element → Except Fault Expr
  | .set s => .ok (.ofSet s flags.unicode)
  | .look l => .ok (.look l)
  | .char c byte =>
    if byte && !flags.unicode && 128 ≤ c.toNat then .error .needsUnicode
    else .ok (.ofSet (flags.charSet c) flags.unicode)

def ReadState.step (s : ReadState) (c : Char) (rest : List Char) : Except Fault ReadState := do
  match c with
  | '(' => s.openGroup rest
  | ')' => s.closeGroup rest
  | '|' => return { s with rest, pieces := [], branches := concat s.pieces :: s.branches }
  | '[' =>
    let (set, rest) ← readClass s.flags rest
    return s.push rest { expr := .ofSet set.set s.flags.unicode, depth := set.depth }
  | '?' => s.repeatSign ⟨0, some 1⟩ rest
  | '*' => s.repeatSign ⟨0, none⟩ rest
  | '+' => s.repeatSign ⟨1, none⟩ rest
  | '\x7b' => s.repeatCounted rest
  | '\\' =>
    let (element, rest) ← readEscape s.flags rest
    return s.push rest { expr := ← elementExpr s.flags element }
  | '.' => return s.push rest { expr := .ofSet (← s.flags.dot) true }
  | '^' => return s.push rest { expr := .look s.flags.lineStart }
  | '$' => return s.push rest { expr := .look s.flags.lineStop }
  | c => return s.push rest { expr := ← elementExpr s.flags (.char c false) }

def readFrom : Nat → ReadState → Except Fault ReadState
  | 0, s => .ok s
  | fuel + 1, s =>
    match skip s.flags s.rest with
    | [] => .ok s
    | c :: rest => (s.step c rest).bind (readFrom fuel)

def depthLimit : Nat := 250

def readPattern (cs : List Char) : Except Fault (Expr × Nat) := do
  let s ← readFrom (cs.length + 1) { rest := cs }
  if !s.stack.isEmpty then throw .groupUnclosed
  else if depthLimit < s.body.depth then throw .tooDeep
  else if !s.body.expr.fits then throw .tooLarge
  else return (s.body.expr, s.groups)

end Scopemark.Pattern
