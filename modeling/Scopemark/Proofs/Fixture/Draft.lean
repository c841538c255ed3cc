import Scopemark.Proofs.Fixture.Header
import Scopemark.Proofs.Fixture.Lines
import Scopemark.Proofs.Text.Lines

namespace Scopemark.Fixture

open Text

/-- One annotation. A gap of white space is in front of each of its words. -/
structure Note where
  mark : Mark
  expected : List Scope
  excluded : List Scope
  /-- The number of blanks in front of an arrow. -/
  indent : Nat
  /-- The white space of each column in front of the mark and inside it. -/
  blank : Nat → Char
  gap : Nat → List Char

def fill (blank : Nat → Char) (start stop : Nat) : List Char :=
  (List.range' start (stop - start)).map blank

def carets (blank : Nat → Char) (column : Nat) : List ColumnSpan → List Char
  | [] => []
  | run :: runs =>
    fill blank column run.start ++ (List.replicate run.width '^' ++ carets blank (run.stop + 1) runs)

def arrow (offset more : Nat) : List Char :=
  '<' :: (List.replicate offset '~' ++ List.replicate (more + 1) '-')

def spaced (gap : Nat → List Char) (i : Nat) : List (List Char) → List Char
  | [] => []
  | word :: words => gap i ++ (word ++ spaced gap (i + 1) words)

namespace Note

def words (n : Note) : List (List Char) :=
  n.expected.map (fun s => s.name.toList) ++
    if n.excluded = [] then [] else ['-'] :: n.excluded.map fun s => s.name.toList

def markFrom (n : Note) (column : Nat) : List Char :=
  match n.mark with
  | .carets runs => carets n.blank column runs
  | .arrow offset more => fill n.blank column (column + n.indent) ++ arrow offset more

def row (token : List Char) (n : Note) : List Char :=
  token ++ (n.markFrom token.length ++ spaced n.gap 0 n.words)

def assertions (n : Note) (target : SourceLine) (index : Nat) : List ScopeAssertion :=
  (n.mark.spans target.text.toList).map (assertionOf target index ⟨n.expected, n.excluded⟩)

end Note

def Space (c : Char) : Prop := isBlank c = true ∧ c ≠ '\n'

def Gaps (gap : Nat → List Char) : Prop := ∀ i, gap i ≠ [] ∧ ∀ c ∈ gap i, Space c

def Spread (column : Nat) : List ColumnSpan → Prop
  | [] => True
  | run :: runs => column ≤ run.start ∧ Spread (run.stop + 2) runs

def Mark.Placed (column : Nat) : Mark → Prop
  | .carets runs => runs ≠ [] ∧ Spread column runs
  | .arrow _ _ => True

structure Note.Fits (token target : List Char) (n : Note) : Prop where
  blank : ∀ i, Space (n.blank i)
  gap : Gaps n.gap
  placed : n.mark.Placed token.length
  within : ∀ m ∈ n.mark.spans target, m.1.stop < target.length
  scopes : ¬ (n.expected = [] ∧ n.excluded = [])
  hyphen : ∀ s ∈ n.expected ++ n.excluded, s.name ≠ "-"
  caret : ∀ runs, n.mark = .carets runs → ∀ s ∈ n.expected.head?, ¬ ['^'] <+: s.name.toList

structure DraftLine where
  text : String
  notes : List Note

namespace DraftLine

def rows (token : List Char) (l : DraftLine) : List (List Char) :=
  l.text.toList :: l.notes.map (Note.row token)

structure Fits (token : List Char) (l : DraftLine) : Prop where
  oneLine : OneLine l.text.toList
  plain : ¬ Annotates token l.text.toList
  notes : ∀ n ∈ l.notes, n.Fits token l.text.toList

end DraftLine

structure Draft where
  header : Option FixtureHeader
  lines : List DraftLine

def noted (target : SourceLine) (index : Nat) : List Note → List ScopeAssertion
  | [] => []
  | n :: notes => n.assertions target index ++ noted target (index + 1) notes

def sourcesFrom (index : Nat) : List DraftLine → List SourceLine
  | [] => []
  | l :: lines =>
    ⟨index, l.text, noted ⟨index, l.text, []⟩ (index + 1) l.notes⟩ ::
      sourcesFrom (index + 1 + l.notes.length) lines

def firstText? (lines : List (List Char)) : Option (List Char) :=
  lines.find? fun l => !allBlank l

/-- The first of the lines that is not blank is that of the header, or none. -/
def Opens (header : Option FixtureHeader) (lines : List (List Char)) : Prop :=
  match header with
  | some h => firstText? lines = some (headerLine h)
  | none => ∀ line ∈ firstText? lines, readHeader? line = none

namespace Draft

def token (d : Draft) : List Char := tokenOf d.header

def rows (d : Draft) : List (List Char) := d.lines.flatMap (DraftLine.rows d.token)

def write (d : Draft) : String := .ofList (d.rows.flatMap fun row => row ++ ['\n'])

def fixture (d : Draft) : Fixture := ⟨d.header, d.write, sourcesFrom 0 d.lines⟩

structure Fits (d : Draft) : Prop where
  header : ∀ h ∈ d.header, Proper h
  lines : ∀ l ∈ d.lines, l.Fits d.token

end Draft

end Scopemark.Fixture
