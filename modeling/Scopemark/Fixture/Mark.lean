import Scopemark.Fixture.Basic

namespace Scopemark.Fixture

/-- A mark before it is set against the line it points at. -/
inductive Mark
  | carets (runs : List ColumnSpan)
  /-- So many tildes and, one more than `more`, dashes. -/
  | arrow (offset more : Nat)
deriving DecidableEq

def markText? (token line : List Char) : Option (List Char) :=
  let body := Text.trimStart line
  if token.isPrefixOf body then
    match Text.trimStart (body.drop token.length) with
    | '^' :: rest => some ('^' :: rest)
    | '<' :: '~' :: rest => some ('<' :: '~' :: rest)
    | '<' :: '-' :: rest => some ('<' :: '-' :: rest)
    | _ => none
  else none

def readCarets (column : Nat) (cs : List Char) : List ColumnSpan × List Char :=
  match h : cs.takeWhile (· == '^') with
  | [] => ([], cs)
  | _ :: more =>
    let rest := cs.dropWhile (· == '^')
    let gap := (rest.takeWhile Text.isBlank).length
    let (runs, behind) :=
      readCarets (column + more.length + 1 + gap) (rest.dropWhile Text.isBlank)
    (⟨column, column + more.length, by omega⟩ :: runs, behind)
termination_by cs.length
decreasing_by
  have h1 : cs.length = (cs.takeWhile (· == '^')).length + (cs.dropWhile (· == '^')).length := by
    rw [← List.length_append, List.takeWhile_append_dropWhile]
  have h2 := (List.dropWhile_suffix (l := cs.dropWhile (· == '^')) Text.isBlank).length_le
  rw [h, List.length_cons] at h1
  omega

def readArrow (cs : List Char) : Option (Mark × List Char) :=
  let rest := cs.dropWhile (· == '~')
  match rest.takeWhile (· == '-') with
  | [] => none
  | _ :: more => some (.arrow (cs.takeWhile (· == '~')).length more.length, rest.dropWhile (· == '-'))

def readMark (column : Nat) (cs : List Char) : Except FixtureFault (Mark × List Char) :=
  match cs with
  | '<' :: rest =>
    match readArrow rest with
    | some found => .ok found
    | none => .error .emptyArrow
  | cs =>
    let (runs, rest) := readCarets column cs
    .ok (.carets runs, rest)

def caretKind (span : ColumnSpan) : MarkKind := if span.width = 1 then .caret else .caretRun

def Mark.spans (target : List Char) : Mark → List (ColumnSpan × MarkKind)
  | .carets runs => runs.map fun span => (span, caretKind span)
  | .arrow offset more =>
    let start := (target.takeWhile Text.isBlank).length + offset
    [(⟨start, start + more, by omega⟩, .arrow)]

end Scopemark.Fixture
