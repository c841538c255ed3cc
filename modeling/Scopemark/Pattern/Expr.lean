import Scopemark.Pattern.Look

namespace Scopemark.Pattern

inductive Expr
  | empty
  /-- One character after the other; there is at least one. -/
  | text (chars : List Char)
  /-- One character of the set. A set that is read without Unicode is another than one that is read
  with it, even of the same characters. -/
  | one (set : CharSet) (unicode : Bool)
  | look (look : Look)
  | group (index : Nat) (body : Expr)
  /-- One part and a sequence, or the last part, behind it. -/
  | seq (first rest : Expr)
  /-- One alternative and the others, or the last one. -/
  | alt (first rest : Expr)
  | rep (body : Expr) (least : Nat) (most : Option Nat) (greedy : Bool)
deriving DecidableEq, Inhabited

namespace Expr

def nullable : Expr → Bool
  | empty | look _ => true
  | text _ | one _ _ => false
  | group _ body => body.nullable
  | seq first rest => first.nullable && rest.nullable
  | alt first rest => first.nullable || rest.nullable
  | rep body least _ _ => least == 0 || body.nullable

/-- The expression can match, and never reads a character when it does. -/
def readsNothing : Expr → Bool
  | empty | look _ => true
  | text _ | one _ _ => false
  | group _ body => body.readsNothing
  | seq first rest | alt first rest => first.readsNothing && rest.readsNothing
  | rep body _ most _ => most.isSome && body.readsNothing

/-- A bound from below on the number of characters read. There is none for what cannot match, nor for
alternatives of which one cannot. -/
def leastLength : Expr → Option Nat
  | empty | look _ => some 0
  | text cs => some cs.length
  | one set _ => if set.isEmpty then none else some 1
  | group _ body => body.leastLength
  | seq first rest => do return (← first.leastLength) + (← rest.leastLength)
  | alt first rest => do return min (← first.leastLength) (← rest.leastLength)
  | rep body least _ _ => body.leastLength.map (least * ·)

def advances (e : Expr) : Bool := e.leastLength.any (0 < ·)

def firsts : Expr → CharSet
  | empty | look _ => .empty
  | text cs => (cs.head?.map .singleton).getD .empty
  | one set _ => set
  | group _ body => body.firsts
  | seq first rest => if first.nullable then first.firsts.union rest.firsts else first.firsts
  | alt first rest => first.firsts.union rest.firsts
  | rep body _ _ _ => body.firsts

def never : Expr := .one .empty false

def ofSet (set : CharSet) (unicode : Bool) : Expr :=
  match set.ranges.toList with
  | [] => never
  | [(a, b)] => if a = b then .text [Char.ofNat a] else .one set unicode
  | _ => .one set unicode

/-- Repetition. What reads nothing is tried once at most, for more rounds could not differ. -/
def repeated (body : Expr) (least : Nat) (most : Option Nat) (greedy : Bool) : Expr :=
  let (least, most) :=
    if body.readsNothing then (min least 1, some ((most.map (min · 1)).getD 1)) else (least, most)
  if least = 0 ∧ most = some 0 then .empty
  else if least = 1 ∧ most = some 1 then body
  else .rep body least most greedy

def parts : Expr → List Expr
  | .empty => []
  | .seq first rest => first :: rest.parts
  | e => [e]

def branches : Expr → List Expr
  | .alt first rest => first :: rest.branches
  | e => [e]

def ofParts : List Expr → Expr
  | [] => .empty
  | [e] => e
  | e :: es => .seq e (ofParts es)

def ofBranches : List Expr → Expr
  | [] => never
  | [e] => e
  | e :: es => .alt e (ofBranches es)

def joinTexts : List Expr → List Expr
  | [] => []
  | .text cs :: es =>
    match joinTexts es with
    | .text ds :: es => .text (cs ++ ds) :: es
    | es => .text cs :: es
  | e :: es => e :: joinTexts es

def concat (es : List Expr) : Expr := ofParts (joinTexts (es.flatMap parts))

def char? : Expr → Option Char
  | .text [c] => some c
  | _ => none

def set? : Expr → Option CharSet
  | .one set _ => some set
  | _ => none

def commonParts : List Expr → List Expr → List Expr
  | d :: ds, e :: es => if d = e then d :: commonParts ds es else []
  | _, _ => []

def isSequence : Expr → Bool
  | .seq _ _ => true
  | _ => false

def sharedStart : List Expr → List Expr
  | [] => []
  | e :: es =>
    if (e :: es).all isSequence then es.foldl (fun start e => commonParts start e.parts) e.parts
    else []

def weight : Expr → Nat
  | group _ body | rep body _ _ _ => body.weight + 1
  | seq first rest | alt first rest => first.weight + rest.weight + 1
  | _ => 1

/-- Alternatives in order of preference. Single characters become one set, and so do sets. The parts
with which all start come before a choice of what is left, so that no alternative is given up for
another one before they were read: `.*b|.*c` means `.*[bc]`. -/
def anyOfWithin : Nat → List Expr → Expr
  | 0, es => ofBranches es
  | depth + 1, es =>
    let es := es.flatMap branches
    match es with
    | [] => never
    | [e] => e
    | es =>
      match es.mapM char?, es.mapM set? with
      | some cs, _ => ofSet (.unions (cs.map .singleton)) true
      | none, some sets => ofSet (.unions sets) true
      | none, none =>
        match sharedStart es with
        | [] => ofBranches es
        | start =>
          let ends := es.map fun e => concat (e.parts.drop start.length)
          concat (start ++ [anyOfWithin depth ends])

def anyOf (es : List Expr) : Expr :=
  anyOfWithin (1 + es.foldl (fun n e => n + e.weight) 0) es

end Expr

end Scopemark.Pattern
