import Scopemark.Proofs.Fixture.Organization
import Scopemark.Proofs.Fixture.Positions

namespace Scopemark.Fixture

open Text

variable {front middle back text rest row target token : List Char} {column index : Nat} {mark : Mark}
  {runs : List ColumnSpan} {lines : List (List Char)} {last? : Option SourceLine}
  {as bs : List ScopeAssertion} {sources : List SourceLine} {f : Fixture}

structure IsRun (row : List Char) (run : ColumnSpan) : Prop where
  carets : ∀ c, run.start ≤ c → c ≤ run.stop → row[c]? = some '^'
  ends : row[run.stop + 1]? ≠ some '^'

structure Follows (row : List Char) (run next : ColumnSpan) : Prop where
  apart : run.stop + 1 < next.start
  blanks : ∀ c, run.stop < c → c < next.start → ∃ d, row[c]? = some d ∧ isBlank d = true

/-- The runs are all those from the column on up to other text than white space. -/
structure CaretRuns (row : List Char) (column : Nat) (runs : List ColumnSpan) : Prop where
  first : runs.head?.map ColumnSpan.start = some column
  each : ∀ run ∈ runs, IsRun row run
  follows : runs.IsChain (Follows row)
  last : ∀ run ∈ runs.getLast?, (trimStart (row.drop (run.stop + 1))).head? ≠ some '^'

theorem exists_mem_of_getElem? (front middle back : List Char) (hrow : row = front ++ (middle ++ back))
    {i : Nat} (hle : front.length ≤ i) (hlt : i < front.length + middle.length) :
    ∃ d ∈ middle, row[i]? = some d := by
  subst hrow
  have hi : i - front.length < middle.length := by omega
  refine ⟨middle[i - front.length], List.getElem_mem hi, ?_⟩
  rw [List.getElem?_append_right hle, List.getElem?_append_left hi, List.getElem?_eq_getElem hi]

theorem isRun_of_eq {more : Nat} (hrow : row = front ++ (List.replicate (more + 1) '^' ++ rest))
    (hrest : rest.head? ≠ some '^') :
    IsRun row ⟨front.length, front.length + more, Nat.le_add_right _ more⟩ where
  carets := by
    intro c hle hlt
    dsimp only at hle hlt
    obtain ⟨d, hd, hc⟩ := exists_mem_of_getElem? _ _ _ hrow hle
      (by rw [List.length_replicate]; omega)
    rw [hc, List.eq_of_mem_replicate hd]
  ends := by
    have hbehind := getElem?_length_append (front ++ List.replicate (more + 1) '^') rest
    rw [List.length_append, List.length_replicate, List.append_assoc, ← hrow] at hbehind
    rwa [Nat.add_assoc, hbehind]

theorem Carets.exists_run (h : Carets column text runs rest) :
    ∃ more others, runs = ⟨column, column + more, Nat.le_add_right column more⟩ :: others := by
  cases h with
  | last | next => exact ⟨_, _, rfl⟩

theorem Carets.caretRuns (h : Carets column text runs rest) (hrow : row = front ++ text)
    (hfront : front.length = column) : CaretRuns row column runs := by
  induction h generalizing front with
  | @last column more rest ends =>
      subst hfront
      obtain ⟨hstop, hnext⟩ := head?_ne_of_ends ends
      refine ⟨rfl, List.forall_mem_singleton.mpr (isRun_of_eq hrow hstop), .singleton _, ?_⟩
      have hdrop : row.drop (front.length + more + 1) = rest := by
        rw [hrow, ← List.append_assoc]
        exact List.drop_left' (by simp [Nat.add_assoc])
      rw [List.getLast?_singleton]
      rintro _ ⟨⟩
      rwa [hdrop]
  | @next column more gap text rest runs blanks apart others ih =>
      subst hfront
      have hothers := @ih (front ++ (List.replicate (more + 1) '^' ++ gap)) (by simp [hrow])
        (by simp [Nat.add_assoc])
      have hrun := isRun_of_eq hrow (head?_append_ne_of_blanks blanks apart)
      obtain ⟨more', others', rfl⟩ := others.exists_run
      refine ⟨rfl, List.forall_mem_cons.mpr ⟨hrun, hothers.each⟩, .cons_cons ⟨?_, ?_⟩ hothers.follows,
        hothers.last⟩
      · have hgap := List.length_pos_of_ne_nil apart
        dsimp only
        omega
      · intro c hlt hgt
        dsimp only at hlt hgt
        have hgap : row = (front ++ List.replicate (more + 1) '^') ++ (gap ++ text) := by simp [hrow]
        obtain ⟨d, hd, hc⟩ := exists_mem_of_getElem? _ gap text hgap
          (show _ ≤ c by simp; omega) (by simp; omega)
        exact ⟨d, hc, blanks d hd⟩

theorem CaretRuns.disjoint (h : CaretRuns row column runs) :
    runs.Pairwise fun a b => a.stop < b.start := by
  have hchain : runs.IsChain fun a b => a.stop < b.start :=
    h.follows.imp fun a b hab => Nat.lt_of_succ_lt hab.apart
  have : IsTrans ColumnSpan fun a b => a.stop < b.start :=
    ⟨fun a b c hab hbc => hab.trans_le (b.le.trans hbc.le)⟩
  exact List.isChain_iff_pairwise.mp hchain

/-- The assertions of one line are those of its runs of carets, or that of its arrow. -/
inductive Drawn (row target : List Char) (column : Nat) (as : List ScopeAssertion) : Prop
  | carets (runs : CaretRuns row column (as.map ScopeAssertion.span))
      (disjoint : (as.map ScopeAssertion.span).Pairwise fun a b => a.stop < b.start)
      (kinds : ∀ a ∈ as, a.kind = if a.span.width = 1 then .caret else .caretRun)
  | arrow {tildes dashes : Nat} {rest white solid : List Char} {a : ScopeAssertion} (only : as = [a])
      (kind : a.kind = .arrow) (mark : row.drop column =
        '<' :: (List.replicate tildes '~' ++ (List.replicate dashes '-' ++ rest)))
      (ends : rest.head? ≠ some '-') (target_eq : target = white ++ solid) (white_blanks : Blanks white)
      (solid_starts : Solid solid) (start : a.span.start = white.length + tildes)
      (width : a.span.width = dashes)

theorem Shape.drawn {target : SourceLine} {scopes : ScopeLists} (h : Shape column text mark rest)
    (hrow : row = front ++ text) (hfront : front.length = column)
    (hstop : ∀ m ∈ mark.spans target.text.toList, m.1.stop < target.text.length) :
    Drawn row target.text.toList column
      ((mark.spans target.text.toList).map (assertionOf target index scopes)) := by
  cases h with
  | @carets _ _ runs runs_read =>
      have hspans : (((Mark.carets runs).spans target.text.toList).map
          (assertionOf target index scopes)).map ScopeAssertion.span = runs := by
        simp [Mark.spans, assertionOf, Function.comp_def]
      have hruns := runs_read.caretRuns hrow hfront
      refine .carets (by rwa [hspans]) (by rw [hspans]; exact hruns.disjoint) fun a ha => ?_
      obtain ⟨m, hm, rfl⟩ := List.mem_map.mp ha
      obtain ⟨span, -, rfl⟩ := List.mem_map.mp hm
      rfl
  | @arrow offset more rest ends =>
      let white := target.text.toList.takeWhile isBlank
      have hlt : white.length + offset + more < target.text.toList.length :=
        hstop _ (List.mem_singleton_self _)
      have htarget : target.text.toList = white ++ trimStart target.text.toList :=
        List.takeWhile_append_dropWhile.symm
      have hsolid : Solid (trimStart target.text.toList) := by
        refine solid_trimStart fun hnil => ?_
        rw [htarget, hnil, List.append_nil] at hlt
        omega
      have hdrop : row.drop column =
          '<' :: (List.replicate offset '~' ++ (List.replicate (more + 1) '-' ++ rest)) := by
        rw [hrow, List.drop_left' hfront]
      refine .arrow rfl rfl hdrop ends htarget (fun _ => List.mem_takeWhile_imp) hsolid rfl ?_
      simp [assertionOf, ColumnSpan.width]

theorem OpensMark.exists_shape (h : OpensMark text) (hmark : readMark column text = .ok (mark, rest)) :
    ∃ behind, Shape column text mark behind := by
  rcases h.dashless_or_shape column with hdashless | ⟨mark', behind, hshape⟩
  · rw [hdashless.readMark] at hmark
    cases hmark
  · obtain ⟨_, hread, -⟩ := hshape.readMark
    rw [hread] at hmark
    cases hmark
    exact ⟨behind, hshape⟩

theorem readAssertions_drawn {target : SourceLine} (hopens : OpensMark text)
    (h : readAssertions target index column text = .ok as) (hrow : row = front ++ text)
    (hfront : front.length = column) : Drawn row target.text.toList column as ∧
      ∀ a ∈ as, ∀ b ∈ as, a.expected = b.expected ∧ a.excluded = b.excluded := by
  obtain ⟨mark, rest, scopes, hmark, -, -, hstop, rfl⟩ := readAssertions_eq_ok_iff.mp h
  obtain ⟨behind, hshape⟩ := hopens.exists_shape hmark
  refine ⟨hshape.drawn hrow hfront hstop, fun a ha b hb => ?_⟩
  obtain ⟨m, -, rfl⟩ := List.mem_map.mp ha
  obtain ⟨n, -, rfl⟩ := List.mem_map.mp hb
  exact ⟨rfl, rfl⟩

def MarkedAt (token row : List Char) (column : Nat) : Prop :=
  ∃ indent gap text, Blanks indent ∧ Blanks gap ∧ OpensMark text ∧
    row = indent ++ (token ++ (gap ++ text)) ∧ column = indent.length + token.length + gap.length

theorem markedAt_of_markText? (h : markText? token row = some text) :
    MarkedAt token row (row.length - text.length) := by
  obtain ⟨hopens, indent, gap, hindent, hgap, rfl⟩ := exists_of_markText?_eq_some h
  exact ⟨indent, gap, text, hindent, hgap, hopens, rfl, by simp; omega⟩

def fromLine (as : List ScopeAssertion) (index : Nat) : List ScopeAssertion :=
  as.filter fun a => a.annotationLine == index

theorem fromLine_append : fromLine (as ++ bs) index = fromLine as index ++ fromLine bs index :=
  List.filter_append _ _

theorem fromLine_eq_self (h : ∀ a ∈ as, a.annotationLine = index) : fromLine as index = as :=
  List.filter_eq_self.mpr fun a ha => beq_iff_eq.mpr (h a ha)

theorem fromLine_eq_nil (h : ∀ a ∈ as, a.annotationLine ≠ index) : fromLine as index = [] :=
  List.filter_eq_nil_iff.mpr fun a ha => by simp [h a ha]

structure ReadFrom (token : List Char) (lines : List (List Char × Nat)) (all : List ScopeAssertion)
    (a : ScopeAssertion) (row text : List Char) (target : SourceLine) : Prop where
  place : (row, a.annotationLine) ∈ lines
  marked : markText? token row = some text
  read : readAssertions target a.annotationLine (row.length - text.length) text =
    .ok (fromLine all a.annotationLine)

/-- Assertions from one line stand together, as no line but their own adds to them. -/
theorem Organizes.exists_readFrom (h : Organizes token last? index lines as sources) {a : ScopeAssertion}
    (ha : a ∈ stated as sources) : ∃ row text target,
      ReadFrom token (lines.zipIdx index) (stated as sources) a row text target ∧
      (last? = some target ∨ ∃ s ∈ sources, s.index = target.index ∧ s.text = target.text) := by
  induction h with
  | nil => cases ha
  | source plain rest ih =>
      rw [stated_source] at ha ⊢
      obtain ⟨row, text, target, hread, htarget⟩ := ih ha
      refine ⟨row, text, target, ⟨?_, hread.marked, hread.read⟩, .inr ?_⟩
      · rw [List.zipIdx_cons]
        exact List.mem_cons_of_mem _ hread.place
      · rcases htarget with hlast | ⟨s, hs, hsame⟩
        · cases hlast
          exact ⟨_, List.mem_cons_self, rfl, rfl⟩
        · exact ⟨s, List.mem_cons_of_mem _ hs, hsame⟩
  | @marks last index row text lines as bs sources marked read rest ih =>
      rw [stated_append] at ha ⊢
      have hfrom := readAssertions_concerns read
      rcases List.mem_append.mp ha with ha | ha
      · obtain rfl := (hfrom a ha).annotationLine
        have hall : fromLine (as ++ stated bs sources) a.annotationLine = as := by
          rw [fromLine_append, fromLine_eq_self fun b hb => (hfrom b hb).annotationLine,
            fromLine_eq_nil fun b hb => Nat.ne_of_gt (rest.le_annotationLine hb), List.append_nil]
        refine ⟨row, text, last, ⟨?_, marked, by rwa [hall]⟩, .inl rfl⟩
        rw [List.zipIdx_cons]
        exact List.mem_cons_self
      · obtain ⟨row', text', target, hread, htarget⟩ := ih ha
        have hlater := rest.le_annotationLine ha
        have hnone : fromLine as a.annotationLine = [] := by
          refine fromLine_eq_nil fun b hb => ?_
          rw [(hfrom b hb).annotationLine]
          exact Nat.ne_of_lt hlater
        refine ⟨row', text', target, ⟨?_, hread.marked, ?_⟩, htarget⟩
        · rw [List.zipIdx_cons]
          exact List.mem_cons_of_mem _ hread.place
        · rw [fromLine_append, hnone, List.nil_append]
          exact hread.read

/-- The assertion points at columns of its source line, and with the others from its line it is that of the
mark on it. -/
structure Pointed (f : Fixture) (lines : List (List Char)) (a : ScopeAssertion) (row : List Char)
    (column : Nat) (s : SourceLine) : Prop where
  written : lines[a.annotationLine]? = some row
  marked : MarkedAt (tokenOf f.header) row column
  target : f.sourceLine? a.sourceLine = some s
  start_le : a.span.start ≤ a.span.stop
  stop_lt : a.span.stop < s.text.length
  drawn : Drawn row s.text.toList column (fromLine f.assertions a.annotationLine)
  shared : ∀ b ∈ fromLine f.assertions a.annotationLine, b.sourceLine = a.sourceLine ∧
    b.expected = a.expected ∧ b.excluded = a.excluded

/-- Reading by positions does not go wrong for any text, and what it reads are assertions about columns
that are there, and that the marks point at. -/
theorem read?_columns (text : String) : (readAt? text).run = some (read? text) ∧
    ∀ f, read? text = .ok f → ∀ a ∈ f.assertions, ∃ row column s,
      Pointed f (Text.lines text.toList) a row column s := by
  refine ⟨readAt?_eq text, fun f h a ha => ?_⟩
  obtain ⟨hheader, -, horganizes⟩ := read?_eq_ok_iff.mp h
  obtain ⟨row, mark, target, hread, htarget⟩ := horganizes.exists_readFrom ha
  rcases htarget with hnone | ⟨s, hs, hindex, htext⟩
  · cases hnone
  obtain ⟨hopens, -⟩ := exists_of_markText?_eq_some hread.marked
  obtain ⟨front, hrow, hcolumn⟩ := exists_front_of_markText? hread.marked
  obtain ⟨hdrawn, hsame⟩ := readAssertions_drawn hopens hread.read hrow hcolumn.symm
  have hconcerns := readAssertions_concerns hread.read
  have hmem : a ∈ fromLine f.assertions a.annotationLine :=
    List.mem_filter.mpr ⟨ha, beq_self_eq_true _⟩
  refine ⟨row, _, s, List.mk_mem_zipIdx_iff_getElem?.mp hread.place, markedAt_of_markText? hread.marked,
    ?_, a.span.le, ?_, htext ▸ hdrawn, fun b hb => ⟨?_, hsame b hb a hmem⟩⟩
  · rw [sourceLine?_eq_some_iff horganizes.ascending]
    exact ⟨hs, by rw [hindex, (hconcerns a hmem).sourceLine]⟩
  · rw [htext]
    exact (hconcerns a hmem).stop_lt
  · rw [(hconcerns a hmem).sourceLine, (hconcerns b hb).sourceLine]

def letText : String := "\tlet xy;z\n//  ^^ ^ x\n// <~-- y - z"

def letFixture : Fixture :=
  let x : Scope := ⟨"x", by decide, by decide⟩
  let y : Scope := ⟨"y", by decide, by decide⟩
  let z : Scope := ⟨"z", by decide, by decide⟩
  { header := none
    text := letText
    lines := [⟨0, "\tlet xy;z", [⟨0, 1, ⟨4, 5, by decide⟩, .caretRun, [x], []⟩,
      ⟨0, 1, ⟨7, 7, Nat.le_refl 7⟩, .caret, [x], []⟩, ⟨0, 2, ⟨2, 3, by decide⟩, .arrow, [y], [z]⟩]⟩] }

theorem read?_columns_letText : (readAt? letText).run = some (.ok letFixture) ∧
    ∀ a ∈ letFixture.assertions, ∃ row column s,
      Pointed letFixture (Text.lines letText.toList) a row column s := by
  have hread : read? letText = .ok letFixture := by cbv
  obtain ⟨hpositions, hcolumns⟩ := read?_columns letText
  exact ⟨hread ▸ hpositions, hcolumns letFixture hread⟩

end Scopemark.Fixture
