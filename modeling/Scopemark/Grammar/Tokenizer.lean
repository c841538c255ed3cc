import Scopemark.Grammar.Candidates
import Scopemark.Grammar.Compile
import Scopemark.Grammar.Token

namespace Scopemark.Grammar

variable (g : Grammar)

structure Frame where
  rule : RuleId
  /-- The scopes of what opens and closes the region. -/
  outer : List Scope
  /-- The scopes of what is inside of it. -/
  inner : List Scope
deriving DecidableEq

/-- The open regions. The last one below is that of the whole text. -/
structure Regions where
  top : Frame
  below : List Frame
deriving DecidableEq

def outermost : Regions := ⟨⟨root, [g.scopeName], [g.scopeName]⟩, []⟩

inductive Candidate
  | close
  | rule (id : RuleId)
deriving DecidableEq

def contest (region : RuleId) (ids : List RuleId) : List (Candidate × Pattern) :=
  ((g.rule region).closer?.map fun p => (Candidate.close, p)).toList ++
    ids.filterMap fun id => (g.rule id).finder?.map fun p => (.rule id, p)

abbrev Best := Option (Candidate × Pattern.Match)

def startsBefore (m : Pattern.Match) (best : Best) : Bool := best.all fun b => m.start < b.2.start

/-- The best match from position `pos` on. Nothing is better than a match at that position. -/
def bestMatch (line : Array Char) (pos : Nat) (best : Best) : List (Candidate × Pattern) → Best
  | [] => best
  | (candidate, pattern) :: rest =>
    match pattern.find? line pos with
    | none => bestMatch line pos best rest
    | some m =>
      let best := if startsBefore m best then some (candidate, m) else best
      if m.start = pos then best else bestMatch line pos best rest

abbrev Tokens := List Token

def addToken (start stop : Nat) (scopes : List Scope) (tokens : Tokens) : Tokens :=
  if start < stop then ⟨start, stop, scopes⟩ :: tokens else tokens

structure GroupSpan where
  start : Nat
  stop : Nat
  scopes : List Scope

def groupSpans (m : Pattern.Match) (captures : List CaptureScopes) : List GroupSpan :=
  captures.filterMap fun c =>
    match m.group? c.group with
    | some (a, b) => if a < b then some ⟨a, b, c.scopes⟩ else none
    | none => none

def insertBound (n : Nat) : List Nat → List Nat
  | [] => [n]
  | m :: rest => if n < m then n :: m :: rest else if n = m then m :: rest else m :: insertBound n rest

def bounds (m : Pattern.Match) (spans : List GroupSpan) : List Nat :=
  (m.start :: m.stop :: spans.flatMap fun s => [s.start, s.stop]).foldr insertBound []

def scopesBetween (base : List Scope) (spans : List GroupSpan) (a b : Nat) : List Scope :=
  base ++ (spans.filter fun s => s.start ≤ a && b ≤ s.stop).flatMap GroupSpan.scopes

def addBetween (base : List Scope) (spans : List GroupSpan) : List Nat → Tokens → Tokens
  | a :: b :: rest, tokens =>
    addBetween base spans (b :: rest) (addToken a b (scopesBetween base spans a b) tokens)
  | _, tokens => tokens

/-- Adds the tokens of a match, which is cut where its groups begin and end. -/
def addMatch (m : Pattern.Match) (base : List Scope) (captures : List CaptureScopes)
    (tokens : Tokens) : Tokens :=
  let spans := groupSpans m captures
  if spans.isEmpty then addToken m.start m.stop base tokens
  else addBetween base spans (bounds m spans) tokens

structure Scan where
  pos : Nat
  /-- Where the last match was, if it was empty. -/
  emptyAt : Option Nat
  regions : Regions
  tokens : Tokens
  memo : Memo

def closeTop (m : Pattern.Match) (regions : Regions) (tokens : Tokens) : Regions × Tokens :=
  match regions.below with
  | [] => (regions, tokens)
  | top :: below =>
    let tokens :=
      match g.rule regions.top.rule with
      | .region _ _ _ _ _ captures _ => addMatch m regions.top.outer captures tokens
      | _ => tokens
    (⟨top, below⟩, tokens)

def applyRule (id : RuleId) (m : Pattern.Match) (regions : Regions) (tokens : Tokens) :
    Regions × Tokens :=
  match g.rule id with
  | .single _ scopes captures => (regions, addMatch m (regions.top.inner ++ scopes) captures tokens)
  | .region _ _ scopes inner captures _ _ =>
    let outer := regions.top.inner ++ scopes
    (⟨⟨id, outer, outer ++ inner⟩, regions.top :: regions.below⟩, addMatch m outer captures tokens)
  | .group _ => (regions, tokens)

def applyMatch (candidate : Candidate) (m : Pattern.Match) (regions : Regions) (tokens : Tokens) :
    Regions × Tokens :=
  match candidate with
  | .close => g.closeTop m regions tokens
  | .rule id => g.applyRule id m regions tokens

inductive Round
  | more (s : Scan)
  | done (s : Scan)

/-- Takes the match found at the scan's position. The second empty match in a row at one place is
passed over together with one character. -/
def takeMatch (line : Array Char) (s : Scan) (candidate : Candidate) (m : Pattern.Match) : Round :=
  let tokens := addToken s.pos m.start s.regions.top.inner s.tokens
  if m.start = m.stop ∧ s.emptyAt = some m.start then
    if m.start < line.size then
      .more { s with
        pos := m.start + 1
        emptyAt := none
        tokens := addToken m.start (m.start + 1) s.regions.top.inner tokens }
    else .done { s with tokens }
  else
    let (regions, tokens) := g.applyMatch candidate m s.regions tokens
    .more { s with
      pos := m.stop
      emptyAt := if m.start = m.stop then some m.start else none
      regions
      tokens }

def round (line : Array Char) (s : Scan) : Round :=
  let (ids, memo) := g.remember s.memo s.regions.top.rule
  let s := { s with memo }
  match bestMatch line s.pos none (g.contest s.regions.top.rule ids) with
  | none => .done { s with tokens := addToken s.pos line.size s.regions.top.inner s.tokens }
  | some (candidate, m) => g.takeMatch line s candidate m

def scanFrom (line : Array Char) : Nat → Scan → Scan
  | 0, s => s
  | fuel + 1, s =>
    match g.round line s with
    | .done s => s
    | .more s => scanFrom line fuel s

structure Carry where
  regions : Regions
  memo : Memo

def tokenizeLine (carry : Carry) (line : List Char) : LineTokens × Carry :=
  let line := line.toArray
  let s := g.scanFrom line (2 * (line.size + 1)) ⟨0, none, carry.regions, [], carry.memo⟩
  (s.tokens.reverse, ⟨s.regions, s.memo⟩)

def tokenizeLines (carry : Carry) : List (List Char) → List LineTokens
  | [] => []
  | line :: rest =>
    let (tokens, carry) := g.tokenizeLine carry line
    tokens :: tokenizeLines carry rest

def tokenize (text : String) : TokenizedText :=
  ⟨g.tokenizeLines ⟨g.outermost, []⟩ (Text.lines text.toList)⟩

end Scopemark.Grammar
