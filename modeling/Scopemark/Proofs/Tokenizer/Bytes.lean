import Scopemark.Proofs.Text.Offsets
import Scopemark.Proofs.Tokenizer.Pieces
import Scopemark.Proofs.Tokenizer.Rounds

namespace Scopemark

open Text

namespace Pattern

variable {line : List Char} {m : Match} {column : Nat}

def Match.inBytes (line : List Char) (m : Match) : Match :=
  ⟨offsetOf line m.start, offsetOf line m.stop, m.slots.map (Option.map (offsetOf line))⟩

/-- Searches from an offset, which has to be between two characters, and answers by offsets. -/
def findAt? (p : Pattern) (line : List Char) (pos : Nat) : Option (Option Match) :=
  (cutAt? pos line).map fun (front, _) => (p.find? line.toArray front.length).map (Match.inBytes line)

theorem findAt?_offsetOf (p : Pattern) (h : column ≤ line.length) :
    p.findAt? line (offsetOf line column) =
      some ((p.find? line.toArray column).map (Match.inBytes line)) := by
  rw [findAt?, cutAt?_offsetOf, Option.map_some]
  dsimp only
  rw [List.length_take_of_le h]

theorem Match.group?_inBytes (line : List Char) (m : Match) (i : Nat) : (m.inBytes line).group? i =
    (m.group? i).map fun (a, b) => (offsetOf line a, offsetOf line b) := by
  unfold group? inBytes
  split
  · rfl
  · simp only [Array.getElem?_map]
    rcases m.slots[2 * i]? with _ | _ | a <;> rcases m.slots[2 * i + 1]? with _ | _ | b <;> rfl

end Pattern

namespace Grammar

variable {g : Grammar} {line : List Char} {columns : Array Nat} {a b : Nat} {m : Pattern.Match}
  {spans : List GroupSpan} {regions : Regions} {tokens : Tokens} {s last : Scan} {scans : List Scan}

def put? (columns : Array Nat) (offset column : Nat) : Option (Array Nat) :=
  if h : offset < columns.size then some (columns.set offset column h) else none

def fillColumns? (columns : Array Nat) (offset count : Nat) : List Char → Option (Array Nat × Nat)
  | [] => some (columns, count)
  | c :: rest => do
    let columns ← put? columns offset count
    fillColumns? columns (offset + c.utf8Size) (count + 1) rest

/-- Tokens that are written by offsets. An offset inside of a character has no column of its own. -/
structure LineBuilder where
  columns : Array Nat
  tokens : Tokens

namespace LineBuilder

def new? (line : List Char) : Option LineBuilder := do
  let (columns, count) ← fillColumns? (.replicate (size line + 1) 0) 0 0 line
  let columns ← put? columns (size line) count
  return ⟨columns, []⟩

def push? (builder : LineBuilder) (start stop : Nat) (scopes : List Scope) : Option LineBuilder :=
  if start < stop then do
    let first ← builder.columns[start]?
    let behind ← builder.columns[stop]?
    return { builder with tokens := ⟨first, behind, scopes⟩ :: builder.tokens }
  else some builder

def pushBetween? (base : List Scope) (spans : List GroupSpan) :
    List Nat → LineBuilder → Option LineBuilder
  | a :: b :: rest, builder => do
    let builder ← builder.push? a b (scopesBetween base spans a b)
    pushBetween? base spans (b :: rest) builder
  | _, builder => some builder

def pushMatch? (m : Pattern.Match) (base : List Scope) (captures : List CaptureScopes)
    (builder : LineBuilder) : Option LineBuilder :=
  let spans := groupSpans m captures
  if spans.isEmpty then builder.push? m.start m.stop base
  else pushBetween? base spans (bounds m spans) builder

end LineBuilder

structure ByteScan where
  pos : Nat
  emptyAt : Option Nat
  regions : Regions
  builder : LineBuilder
  memo : Memo

inductive ByteRound
  | more (s : ByteScan)
  | done (s : ByteScan)

section Machine

variable (g : Grammar)

def bestMatchAt? (line : List Char) (pos : Nat) (best : Best) :
    List (Candidate × Pattern) → Option Best
  | [] => some best
  | (candidate, pattern) :: rest => do
    match ← pattern.findAt? line pos with
    | none => bestMatchAt? line pos best rest
    | some m =>
      let best := if startsBefore m best then some (candidate, m) else best
      if m.start = pos then return best else bestMatchAt? line pos best rest

def closeTopAt? (m : Pattern.Match) (regions : Regions) (builder : LineBuilder) :
    Option (Regions × LineBuilder) :=
  match regions.below with
  | [] => some (regions, builder)
  | top :: below => do
    let builder ← match g.rule regions.top.rule with
      | .region _ _ _ _ _ captures _ => builder.pushMatch? m regions.top.outer captures
      | _ => some builder
    return (⟨top, below⟩, builder)

def applyRuleAt? (id : RuleId) (m : Pattern.Match) (regions : Regions) (builder : LineBuilder) :
    Option (Regions × LineBuilder) :=
  match g.rule id with
  | .single _ scopes captures => do
    return (regions, ← builder.pushMatch? m (regions.top.inner ++ scopes) captures)
  | .region _ _ scopes inner captures _ _ => do
    let outer := regions.top.inner ++ scopes
    return (⟨⟨id, outer, outer ++ inner⟩, regions.top :: regions.below⟩,
      ← builder.pushMatch? m outer captures)
  | .group _ => some (regions, builder)

def applyMatchAt? (candidate : Candidate) (m : Pattern.Match) (regions : Regions)
    (builder : LineBuilder) : Option (Regions × LineBuilder) :=
  match candidate with
  | .close => g.closeTopAt? m regions builder
  | .rule id => g.applyRuleAt? id m regions builder

def takeMatchAt? (line : List Char) (s : ByteScan) (candidate : Candidate) (m : Pattern.Match) :
    Option ByteRound := do
  let builder ← s.builder.push? s.pos m.start s.regions.top.inner
  if m.start = m.stop ∧ s.emptyAt = some m.start then
    let (_, rest) ← cutAt? m.start line
    match rest.head? with
    | none => return .done { s with builder }
    | some c =>
      let next := m.start + c.utf8Size
      let builder ← builder.push? m.start next s.regions.top.inner
      return .more { s with pos := next, emptyAt := none, builder }
  else
    let (regions, builder) ← g.applyMatchAt? candidate m s.regions builder
    return .more { s with
      pos := m.stop
      emptyAt := if m.start = m.stop then some m.start else none
      regions
      builder }

def roundAt? (line : List Char) (s : ByteScan) : Option ByteRound := do
  let (ids, memo) := g.remember s.memo s.regions.top.rule
  let s := { s with memo }
  match ← bestMatchAt? line s.pos none (g.contest s.regions.top.rule ids) with
  | none =>
    let builder ← s.builder.push? s.pos (size line) s.regions.top.inner
    return .done { s with builder }
  | some (candidate, m) => g.takeMatchAt? line s candidate m

/-- There is no result if the scan does not end by itself. -/
def scanAt? (line : List Char) : Nat → ByteScan → Option ByteScan
  | 0, _ => none
  | fuel + 1, s => do
    match ← g.roundAt? line s with
    | .done s => return s
    | .more s => scanAt? line fuel s

def tokenizeLineAt? (carry : Carry) (line : List Char) : Option (LineTokens × Carry) := do
  let builder ← LineBuilder.new? line
  let s ← g.scanAt? line (2 * (size line + 1)) ⟨0, none, carry.regions, builder, carry.memo⟩
  return (s.builder.tokens.reverse, ⟨s.regions, s.memo⟩)

def tokenizeLinesAt? (carry : Carry) : List (List Char) → Option (List LineTokens)
  | [] => some []
  | line :: rest => do
    let (tokens, carry) ← g.tokenizeLineAt? carry line
    let others ← tokenizeLinesAt? carry rest
    return tokens :: others

/-- Cuts a text into tokens by the offsets of its lines. There is no result if an offset is behind the
end of its line, or inside of a character where text is cut. -/
def tokenizeAt? (text : String) : Option TokenizedText :=
  (g.tokenizeLinesAt? ⟨g.outermost, []⟩ (Text.lines text.toList)).map .mk

end Machine

/-- The table has the column of each character where this one starts, and the number of characters at
the end. -/
def IsTable (line : List Char) (columns : Array Nat) : Prop :=
  ∀ column ≤ line.length, columns[offsetOf line column]? = some column

theorem exists_put? {offset : Nat} (h : offset < columns.size) (column : Nat) :
    ∃ columns', put? columns offset column = some columns' ∧ columns'.size = columns.size ∧
      columns'[offset]? = some column ∧ ∀ other ≠ offset, columns'[other]? = columns[other]? := by
  refine ⟨columns.set offset column h, dif_pos h, Array.size_set h, ?_, fun other hne => ?_⟩
  · rw [Array.getElem?_set_self]
  · rw [Array.getElem?_set_ne h hne.symm]

/-- What is in front of the characters to come has its columns. -/
theorem exists_fillColumns? (columns : Array Nat) (front rest : List Char) (hline : front ++ rest = line)
    (hsize : columns.size = size line + 1)
    (hfilled : ∀ column < front.length, columns[offsetOf line column]? = some column) :
    ∃ columns', fillColumns? columns (size front) front.length rest = some (columns', line.length) ∧
      columns'.size = size line + 1 ∧
      ∀ column < line.length, columns'[offsetOf line column]? = some column := by
  induction rest generalizing front columns with
  | nil =>
      rw [List.append_nil] at hline
      subst hline
      exact ⟨columns, rfl, hsize, hfilled⟩
  | cons c rest ih =>
      have hlength : front.length < line.length := by rw [← hline]; simp
      have hoffset : offsetOf line front.length = size front := by
        rw [offsetOf_eq_size_take, ← hline, List.take_left]
      have hinside : size front < columns.size := by
        have hend := offsetOf_lt hlength (Nat.le_refl _)
        rw [hoffset, offsetOf_length] at hend
        omega
      obtain ⟨columns', hput, hsize', hnoted, hothers⟩ := exists_put? hinside front.length
      have hfront : size (front ++ [c]) = size front + c.utf8Size := size_append front [c]
      have hfilled' : ∀ column < (front ++ [c]).length, columns'[offsetOf line column]? = some column := by
        intro column hcolumn
        rw [List.length_append, List.length_singleton, Nat.lt_succ_iff] at hcolumn
        rcases Nat.eq_or_lt_of_le hcolumn with rfl | hlt
        · rw [hoffset, hnoted]
        · have hbefore := offsetOf_lt hlt hlength.le
          rw [hothers _ (by omega), hfilled column hlt]
      obtain ⟨filled, hfill, hrest⟩ :=
        ih columns' (front ++ [c]) (by simpa using hline) (hsize'.trans hsize) hfilled'
      refine ⟨filled, ?_, hrest⟩
      rw [fillColumns?, hput, Option.bind_eq_bind, Option.bind_some, ← hfront]
      rwa [List.length_append] at hfill

theorem exists_new? (line : List Char) :
    ∃ columns, LineBuilder.new? line = some ⟨columns, []⟩ ∧ IsTable line columns := by
  obtain ⟨filled, hfill, hsize, hfilled⟩ := exists_fillColumns? (.replicate (size line + 1) 0) [] line
    (List.nil_append line) Array.size_replicate (fun _ h => nomatch h)
  have hinside : size line < filled.size := by omega
  obtain ⟨columns, hput, -, hend, hothers⟩ := exists_put? hinside line.length
  refine ⟨columns, ?_, fun column hcolumn => ?_⟩
  · rw [size, List.length_nil] at hfill
    rw [LineBuilder.new?, hfill, Option.bind_eq_bind, Option.bind_some]
    dsimp only
    rw [hput]
    rfl
  · rcases Nat.eq_or_lt_of_le hcolumn with rfl | hlt
    · rw [offsetOf_length, hend]
    · have hbefore := offsetOf_lt hlt (Nat.le_refl _)
      rw [offsetOf_length] at hbefore
      rw [hothers _ hbefore.ne, hfilled column hlt]

example : LineBuilder.new? ['é', 'λ', 'x'] = some ⟨#[0, 0, 1, 0, 2, 3], []⟩ := by cbv

theorem push?_offsetOf (h : IsTable line columns) (ha : a ≤ line.length) (hb : b ≤ line.length)
    (scopes : List Scope) (tokens : Tokens) :
    LineBuilder.push? ⟨columns, tokens⟩ (offsetOf line a) (offsetOf line b) scopes =
      some ⟨columns, addToken a b scopes tokens⟩ := by
  rw [LineBuilder.push?, addToken]
  by_cases hlt : a < b
  · rw [if_pos hlt, if_pos ((offsetOf_lt_iff ha hb).mpr hlt), h a ha, h b hb]
    rfl
  · rw [if_neg hlt, if_neg (mt (offsetOf_lt_iff ha hb).mp hlt)]

def GroupSpan.inBytes (line : List Char) (s : GroupSpan) : GroupSpan :=
  ⟨offsetOf line s.start, offsetOf line s.stop, s.scopes⟩

theorem groupSpans_le {low high : Nat} (hm : m.Within low high) (captures : List CaptureScopes) :
    ∀ s ∈ groupSpans m captures, s.start ≤ high ∧ s.stop ≤ high := by
  intro s hs
  have hspan := groupSpans_within hm.encloses captures hs
  have hhigh := hm.le_high
  omega

theorem groupSpans_inBytes {low : Nat} (hm : m.Within low line.length) (captures : List CaptureScopes) :
    groupSpans (m.inBytes line) captures = (groupSpans m captures).map (GroupSpan.inBytes line) := by
  unfold groupSpans
  rw [List.map_filterMap]
  refine List.filterMap_congr fun c _ => ?_
  rw [Pattern.Match.group?_inBytes]
  cases hg : m.group? c.group with
  | none => rfl
  | some p =>
      obtain ⟨ha, hb⟩ := hm.group_le hg
      simp only [Option.map_some, offsetOf_lt_iff ha hb]
      split <;> rfl

theorem insertBound_map {n : Nat} {l : List Nat} (hn : n ≤ line.length)
    (hl : ∀ x ∈ l, x ≤ line.length) :
    insertBound (offsetOf line n) (l.map (offsetOf line)) = (insertBound n l).map (offsetOf line) := by
  induction l with
  | nil => rfl
  | cons x l ih =>
      obtain ⟨hx, hl⟩ := List.forall_mem_cons.mp hl
      rw [List.map_cons, insertBound, insertBound]
      simp only [offsetOf_lt_iff hn hx, offsetOf_inj hn hx, ih hl]
      split
      · rfl
      · split <;> rfl

theorem foldr_insertBound_map {l : List Nat} (hl : ∀ x ∈ l, x ≤ line.length) :
    (l.map (offsetOf line)).foldr insertBound [] = (l.foldr insertBound []).map (offsetOf line) := by
  induction l with
  | nil => rfl
  | cons n l ih =>
      obtain ⟨hn, hl⟩ := List.forall_mem_cons.mp hl
      rw [List.map_cons, List.foldr_cons, ih hl, List.foldr_cons, insertBound_map hn]
      exact fun x hx => hl x (mem_foldr_insertBound.mp hx)

theorem bounds_inBytes {low : Nat} (hm : m.Within low line.length)
    (hspans : ∀ s ∈ spans, s.start ≤ line.length ∧ s.stop ≤ line.length) :
    bounds (m.inBytes line) (spans.map (GroupSpan.inBytes line)) =
      (bounds m spans).map (offsetOf line) := by
  have hends : (spans.map (GroupSpan.inBytes line)).flatMap (fun s => [s.start, s.stop]) =
      (spans.flatMap fun s => [s.start, s.stop]).map (offsetOf line) := by
    rw [List.flatMap_map, List.map_flatMap]
    rfl
  rw [bounds, bounds, ← foldr_insertBound_map, hends]
  · rfl
  · refine List.forall_mem_cons.mpr ⟨hm.start_le_high, List.forall_mem_cons.mpr ⟨hm.le_high, ?_⟩⟩
    intro x hx
    obtain ⟨s, hs, hx⟩ := List.mem_flatMap.mp hx
    obtain ⟨hstart, hstop⟩ := hspans s hs
    rcases List.mem_pair.mp hx with rfl | rfl
    · exact hstart
    · exact hstop

theorem scopesBetween_inBytes (ha : a ≤ line.length) (hb : b ≤ line.length)
    (hspans : ∀ s ∈ spans, s.start ≤ line.length ∧ s.stop ≤ line.length) (base : List Scope) :
    scopesBetween base (spans.map (GroupSpan.inBytes line)) (offsetOf line a) (offsetOf line b) =
      scopesBetween base spans a b := by
  have hfilter : spans.filter ((fun s => s.start ≤ offsetOf line a && offsetOf line b ≤ s.stop) ∘
      GroupSpan.inBytes line) = spans.filter fun s => s.start ≤ a && b ≤ s.stop := by
    refine List.filter_congr fun s hs => ?_
    obtain ⟨hstart, hstop⟩ := hspans s hs
    simp only [Function.comp, GroupSpan.inBytes, offsetOf_le_iff hstart ha, offsetOf_le_iff hb hstop]
  rw [scopesBetween, scopesBetween, List.filter_map, hfilter, List.flatMap_map]
  rfl

theorem pushBetween?_offsetOf (h : IsTable line columns)
    (hspans : ∀ s ∈ spans, s.start ≤ line.length ∧ s.stop ≤ line.length) (base : List Scope)
    {l : List Nat} (hl : ∀ x ∈ l, x ≤ line.length) (tokens : Tokens) :
    LineBuilder.pushBetween? base (spans.map (GroupSpan.inBytes line)) (l.map (offsetOf line))
      ⟨columns, tokens⟩ = some ⟨columns, addBetween base spans l tokens⟩ := by
  fun_induction addBetween base spans l tokens with
  | case1 tokens a b rest ih =>
      obtain ⟨ha, hrest⟩ := List.forall_mem_cons.mp hl
      obtain ⟨hb, -⟩ := List.forall_mem_cons.mp hrest
      rw [List.map_cons, List.map_cons, LineBuilder.pushBetween?, scopesBetween_inBytes ha hb hspans,
        push?_offsetOf h ha hb, Option.bind_eq_bind, Option.bind_some, ← List.map_cons, ih hrest]
  | case2 l tokens hshort =>
      rcases l with _ | ⟨a, _ | ⟨b, rest⟩⟩
      · rfl
      · rfl
      · exact absurd rfl (hshort a b rest)

theorem pushMatch?_inBytes (h : IsTable line columns) {low : Nat} (hm : m.Within low line.length)
    (base : List Scope) (captures : List CaptureScopes) (tokens : Tokens) :
    LineBuilder.pushMatch? (m.inBytes line) base captures ⟨columns, tokens⟩ =
      some ⟨columns, addMatch m base captures tokens⟩ := by
  have hspans := groupSpans_le hm captures
  have hstart := hm.start_le_high
  rw [LineBuilder.pushMatch?, addMatch, groupSpans_inBytes hm, List.isEmpty_map]
  split
  · exact push?_offsetOf h hstart hm.le_high base tokens
  · rw [bounds_inBytes hm hspans]
    refine pushBetween?_offsetOf h hspans base (fun x hx => ?_) tokens
    have hbetween := bounds_between hm.encloses captures hx
    exact hbetween.2.trans hm.le_high

theorem applyMatchAt?_inBytes (h : IsTable line columns) {low : Nat} (hm : m.Within low line.length)
    (g : Grammar) (candidate : Candidate) (regions : Regions) (tokens : Tokens) :
    g.applyMatchAt? candidate (m.inBytes line) regions ⟨columns, tokens⟩ =
      some ((g.applyMatch candidate m regions tokens).map id (LineBuilder.mk columns)) := by
  cases candidate with
  | close =>
      rw [applyMatchAt?, applyMatch, closeTopAt?, closeTop]
      cases regions.below with
      | nil => rfl
      | cons top below =>
          dsimp only
          cases g.rule regions.top.rule with
          | region =>
              dsimp only
              rw [pushMatch?_inBytes h hm]
              rfl
          | single | group => rfl
  | rule id =>
      rw [applyMatchAt?, applyMatch, applyRuleAt?, applyRule]
      cases g.rule id with
      | single | region =>
          dsimp only
          rw [pushMatch?_inBytes h hm]
          rfl
      | group => rfl

def Scan.inBytes (line : List Char) (columns : Array Nat) (s : Scan) : ByteScan :=
  ⟨offsetOf line s.pos, s.emptyAt.map (offsetOf line), s.regions, ⟨columns, s.tokens⟩, s.memo⟩

def Round.inBytes (line : List Char) (columns : Array Nat) : Round → ByteRound
  | more s => .more (s.inBytes line columns)
  | done s => .done (s.inBytes line columns)

def Best.inBytes (line : List Char) (best : Best) : Best :=
  best.map fun (candidate, m) => (candidate, m.inBytes line)

theorem bestMatchAt?_offsetOf {pos : Nat} (hpos : pos ≤ line.length) {best : Best}
    (hbest : ∀ b ∈ best, b.2.start ≤ line.length) (list : List (Candidate × Pattern)) :
    bestMatchAt? line (offsetOf line pos) (Best.inBytes line best) list =
      some (Best.inBytes line (bestMatch line.toArray pos best list)) := by
  induction list generalizing best with
  | nil => rfl
  | cons entry list ih =>
      obtain ⟨candidate, pattern⟩ := entry
      rw [bestMatchAt?, bestMatch, Pattern.findAt?_offsetOf _ hpos]
      cases hm : pattern.find? line.toArray pos with
      | none => exact ih hbest
      | some m =>
          have hwithin := Pattern.find?_within hm
          have hstart : m.start ≤ line.length := hwithin.start_le_high
          have hbefore : startsBefore (m.inBytes line) (Best.inBytes line best) = startsBefore m best := by
            cases best with
            | none => rfl
            | some b => exact decide_eq_decide.mpr (offsetOf_lt_iff hstart (hbest b rfl))
          have hnext : (if startsBefore m best = true then some (candidate, m.inBytes line)
              else Best.inBytes line best) =
                Best.inBytes line (if startsBefore m best = true then some (candidate, m) else best) := by
            split <;> rfl
          have hhere : (m.inBytes line).start = offsetOf line pos ↔ m.start = pos := offsetOf_inj hstart hpos
          simp only [Option.map_some, Option.bind_eq_bind, Option.bind_some, hbefore, hnext, hhere]
          split
          · rfl
          · refine ih fun b hb => ?_
            split at hb
            · cases hb
              exact hstart
            · exact hbest b hb

theorem takeMatchAt?_inBytes (h : IsTable line columns) (hs : s.Placed line.toArray)
    (hm : m.Within s.pos line.length) (g : Grammar) (candidate : Candidate) :
    g.takeMatchAt? line (s.inBytes line columns) candidate (m.inBytes line) =
      some ((g.takeMatch line.toArray s candidate m).inBytes line columns) := by
  have hpos : s.pos ≤ line.length := hs.pos_le
  have hstart : m.start ≤ line.length := hm.start_le_high
  have hempty : offsetOf line m.start = offsetOf line m.stop ↔ m.start = m.stop :=
    offsetOf_inj hstart hm.le_high
  have hagain : s.emptyAt.map (offsetOf line) = some (offsetOf line m.start) ↔ s.emptyAt = some m.start := by
    cases hat : s.emptyAt with
    | none => simp
    | some p =>
        have hp := hs.emptyAt p hat
        rw [Option.map_some, Option.some.injEq, Option.some.injEq, offsetOf_inj (hp.trans_le hpos) hstart]
  have hgap := push?_offsetOf h hpos hstart s.regions.top.inner s.tokens
  rw [takeMatchAt?, takeMatch]
  simp only [Scan.inBytes, Pattern.Match.inBytes, hgap, hempty, hagain, Option.bind_eq_bind,
    Option.bind_some]
  split
  · rw [cutAt?_offsetOf, Option.bind_some, List.head?_drop, List.size_toArray]
    by_cases hinside : m.start < line.length
    · have hsucc := offsetOf_succ (List.getElem?_eq_getElem hinside)
      rw [List.getElem?_eq_getElem hinside, if_pos hinside]
      dsimp only
      rw [← hsucc, push?_offsetOf h hstart hinside]
      rfl
    · rw [List.getElem?_eq_none (Nat.le_of_not_lt hinside), if_neg hinside]
      rfl
  · have happly := applyMatchAt?_inBytes h hm g candidate s.regions
      (addToken s.pos m.start s.regions.top.inner s.tokens)
    rw [Pattern.Match.inBytes] at happly
    rw [happly]
    split <;> rfl

theorem roundAt?_inBytes (h : IsTable line columns) (hs : s.Placed line.toArray) (g : Grammar) :
    g.roundAt? line (s.inBytes line columns) =
      some ((g.round line.toArray s).inBytes line columns) := by
  have hpos : s.pos ≤ line.length := hs.pos_le
  have hfirst : ∀ b ∈ (none : Best), b.2.start ≤ line.length := nofun
  have hbest : bestMatchAt? line (offsetOf line s.pos) none
      (g.contest s.regions.top.rule (g.remember s.memo s.regions.top.rule).1) =
        some (Best.inBytes line (g.winner line.toArray s)) :=
    bestMatchAt?_offsetOf hpos hfirst _
  rw [roundAt?]
  cases hwinner : g.winner line.toArray s with
  | none =>
      rw [hwinner] at hbest
      have hpush := push?_offsetOf h hpos (Nat.le_refl line.length) s.regions.top.inner s.tokens
      rw [offsetOf_length] at hpush
      simp only [Scan.inBytes, hbest, Best.inBytes, Option.map_none, Option.bind_eq_bind,
        Option.bind_some, hpush, round_of_none hwinner]
      rfl
  | some found =>
      obtain ⟨candidate, m⟩ := found
      have hm : m.Within s.pos line.length := winner_within hwinner
      rw [hwinner] at hbest
      have htake := takeMatchAt?_inBytes (s := { s with memo := (g.remember s.memo s.regions.top.rule).2 })
        h ⟨hpos, hs.emptyAt⟩ hm g candidate
      rw [round_of_some hwinner, ← htake]
      simp only [Scan.inBytes, hbest, Best.inBytes, Option.map_some, Option.bind_eq_bind,
        Option.bind_some]

/-- The scan by offsets ends where the scan by columns does. -/
theorem Rounds.scanAt? {fuel : Nat} (h : IsTable line columns)
    (hrounds : g.Rounds line.toArray s scans last) (hs : s.Placed line.toArray)
    (hfuel : scans.length ≤ fuel) :
    g.scanAt? line fuel (s.inBytes line columns) = some (last.inBytes line columns) := by
  induction hrounds generalizing fuel with
  | done hround =>
      obtain ⟨fuel, rfl⟩ := Nat.exists_eq_succ_of_ne_zero (Nat.ne_zero_of_lt hfuel)
      rw [Grammar.scanAt?, roundAt?_inBytes h hs, hround]
      rfl
  | more hround _ ih =>
      obtain ⟨fuel, rfl⟩ := Nat.exists_eq_succ_of_ne_zero (Nat.ne_zero_of_lt hfuel)
      rw [Grammar.scanAt?, roundAt?_inBytes h hs, hround]
      exact ih (hs.round hround).1 (Nat.le_of_succ_le_succ hfuel)

theorem tokenizeLineAt?_eq (g : Grammar) (carry : Carry) (line : List Char) :
    g.tokenizeLineAt? carry line = some (g.tokenizeLine carry line) := by
  obtain ⟨columns, hnew, htable⟩ := exists_new? line
  obtain ⟨scans, last, hrounds, htokens⟩ := exists_rounds_line g carry line
  have hstart := carry.placed_start line.toArray
  have hlength : scans.length ≤ 2 * (size line + 1) := by
    have hle := length_le_size line
    have hleft := hrounds.length_le hstart
    rw [carry.left_start, List.size_toArray] at hleft
    omega
  have hscan := hrounds.scanAt? htable hstart hlength
  have hzero : carry.start.inBytes line columns = ⟨0, none, carry.regions, ⟨columns, []⟩, carry.memo⟩ := by
    rw [Scan.inBytes, Carry.start, offsetOf_zero, Option.map_none]
  rw [hzero] at hscan
  rw [tokenizeLineAt?, hnew, Option.bind_eq_bind, Option.bind_some, hscan, htokens]
  rfl

theorem tokenizeLinesAt?_eq (g : Grammar) (carry : Carry) (lines : List (List Char)) :
    g.tokenizeLinesAt? carry lines = some (g.tokenizeLines carry lines) := by
  induction lines generalizing carry with
  | nil => rfl
  | cons line rest ih =>
      rw [tokenizeLinesAt?, tokenizeLineAt?_eq, Option.bind_eq_bind, Option.bind_some]
      dsimp only
      rw [ih]
      rfl

/-- No offset is behind the end of its line or inside of a character, and the columns are those that are
counted by characters. -/
theorem tokenizeAt?_eq (g : Grammar) (text : String) : g.tokenizeAt? text = some (g.tokenize text) := by
  rw [tokenizeAt?, tokenizeLinesAt?_eq]
  rfl

end Grammar

end Scopemark
