import Scopemark.Proofs.Fixture.Rows

namespace Scopemark.Fixture

open Text

variable {column index : Nat} {text rest cs : List Char} {runs : List ColumnSpan}
  {mark : Mark} {ws : List (List Char)} {w : List Char} {target : SourceLine} {fault : FixtureFault}

/-- The text consists of runs of carets with white space between them, up to the last such run, and of
the rest behind it. The first run starts at the column. -/
inductive Carets : (column : Nat) → (text : List Char) → List ColumnSpan → (rest : List Char) → Prop
  | last {column more : Nat} {rest : List Char}
      (ends : ∀ gap behind, Blanks gap → rest ≠ gap ++ '^' :: behind) :
      Carets column (List.replicate (more + 1) '^' ++ rest)
        [⟨column, column + more, Nat.le_add_right column more⟩] rest
  | next {column more : Nat} {gap text rest : List Char} {runs : List ColumnSpan}
      (blanks : Blanks gap) (apart : gap ≠ [])
      (others : Carets (column + more + 1 + gap.length) text runs rest) :
      Carets column (List.replicate (more + 1) '^' ++ (gap ++ text))
        (⟨column, column + more, Nat.le_add_right column more⟩ :: runs) rest

/-- The text is a mark, which starts at the column, and the rest behind it. -/
inductive Shape (column : Nat) : (text : List Char) → Mark → (rest : List Char) → Prop
  | carets {text rest : List Char} {runs : List ColumnSpan} (runs_read : Carets column text runs rest) :
      Shape column text (.carets runs) rest
  | arrow {offset more : Nat} {rest : List Char} (ends : rest.head? ≠ some '-') :
      Shape column
        ('<' :: (List.replicate offset '~' ++ (List.replicate (more + 1) '-' ++ rest)))
        (.arrow offset more) rest

/-- The text is an arrow that has tildes at most. -/
def Dashless (text : List Char) : Prop :=
  ∃ offset rest, text = '<' :: (List.replicate offset '~' ++ rest) ∧ rest.head? ≠ some '~' ∧
    rest.head? ≠ some '-'

theorem beq_of_head?_ne {c : Char} (h : cs.head? ≠ some c) : ∀ d ∈ cs.head?, (d == c) = false := by
  intro d hd
  rw [beq_eq_false_iff_ne]
  rintro rfl
  exact h hd

theorem exists_run (c : Char) (cs : List Char) :
    ∃ k rest, cs = List.replicate k c ++ rest ∧ rest.head? ≠ some c := by
  induction cs with
  | nil => exact ⟨0, [], rfl, nofun⟩
  | cons d cs ih =>
      by_cases hd : d = c
      · subst hd
        obtain ⟨k, rest, rfl, hrest⟩ := ih
        exact ⟨k + 1, rest, rfl, hrest⟩
      · refine ⟨0, d :: cs, rfl, ?_⟩
        rintro ⟨⟩
        exact hd rfl

theorem Carets.exists_cons (h : Carets column text runs rest) : ∃ cs, text = '^' :: cs := by
  cases h with
  | last | next => exact ⟨_, rfl⟩

theorem readCarets_replicate {more : Nat} (h : ∀ c ∈ rest.head?, (c == '^') = false) :
    readCarets column (List.replicate (more + 1) '^' ++ rest) =
      (⟨column, column + more, Nat.le_add_right column more⟩ ::
          (readCarets (column + more + 1 + (rest.takeWhile isBlank).length) (trimStart rest)).1,
        (readCarets (column + more + 1 + (rest.takeWhile isBlank).length) (trimStart rest)).2) := by
  let run : ColumnSpan := ⟨column, column + more, Nat.le_add_right column more⟩
  have hwidth : run.width = more + 1 := by
    simp [run, ColumnSpan.width]
  have hread := @readCarets_run run rest h
  rw [hwidth] at hread
  exact hread

theorem Carets.readCarets (h : Carets column text runs rest) :
    readCarets column text = (runs, trimStart rest) := by
  induction h with
  | @last column more rest ends =>
      have hstop : rest.head? ≠ some '^' := by
        intro hhead
        obtain ⟨behind, rfl⟩ := List.head?_eq_some_iff.mp hhead
        exact ends [] behind (List.forall_mem_nil _) rfl
      have htrim : (trimStart rest).head? ≠ some '^' := by
        intro hhead
        obtain ⟨behind, hbehind⟩ := List.head?_eq_some_iff.mp hhead
        obtain ⟨gap, hgap, hrest⟩ := exists_trimStart rest
        exact ends gap behind hgap (hbehind ▸ hrest)
      rw [readCarets_replicate (beq_of_head?_ne hstop), readCarets_of_head? (beq_of_head?_ne htrim)]
  | @next column more gap text rest runs blanks apart others ih =>
      obtain ⟨cs, hcs⟩ := others.exists_cons
      have hsolid : Solid text := ⟨'^', cs, hcs, by decide⟩
      have hstop : ∀ c ∈ (gap ++ text).head?, (c == '^') = false := by
        intro c hc
        rw [List.head?_append_of_ne_nil _ apart] at hc
        exact ne_of_blank (by decide) (blanks c (List.mem_of_mem_head? hc))
      rw [readCarets_replicate hstop, takeWhile_append_of_stop blanks hsolid.head?,
        trimStart_append blanks, hsolid.trimStart, ih]

theorem exists_carets (column : Nat) (cs : List Char) :
    ∃ runs rest, Carets column ('^' :: cs) runs rest := by
  induction hn : cs.length using Nat.strong_induction_on generalizing column cs with
  | _ n ih =>
      obtain ⟨more, rest, rfl, hrest⟩ := exists_run '^' cs
      by_cases hnext : ∃ gap behind, Blanks gap ∧ rest = gap ++ '^' :: behind
      · obtain ⟨gap, behind, hgap, rfl⟩ := hnext
        have hapart : gap ≠ [] := by
          rintro rfl
          exact hrest rfl
        obtain ⟨runs, rest, hruns⟩ := ih behind.length (by simp at hn; omega)
          (column + more + 1 + gap.length) behind rfl
        exact ⟨_, rest, .next hgap hapart hruns⟩
      · refine ⟨_, rest, .last fun gap behind hgap heq => hnext ⟨gap, behind, hgap, heq⟩⟩

theorem Shape.readMark (h : Shape column text mark rest) :
    ∃ behind, readMark column text = .ok (mark, behind) ∧ words behind = words rest := by
  cases h with
  | carets runs_read =>
      obtain ⟨cs, rfl⟩ := runs_read.exists_cons
      exact ⟨_, readMark_of_readCarets runs_read.readCarets, words_trimStart _⟩
  | arrow ends =>
      refine ⟨rest, ?_, rfl⟩
      rw [Fixture.readMark, readArrow_arrow (beq_of_head?_ne ends)]

theorem Dashless.readMark (h : Dashless text) : readMark column text = .error .emptyArrow := by
  obtain ⟨offset, rest, rfl, htilde, hdash⟩ := h
  have hdrop : (List.replicate offset '~' ++ rest).dropWhile (· == '~') = rest :=
    dropWhile_append_of_stop (fun _ => beq_of_mem_replicate) (beq_of_head?_ne htilde)
  have htake : rest.takeWhile (· == '-') = [] :=
    takeWhile_append_of_stop (List.forall_mem_nil _) (beq_of_head?_ne hdash)
  rw [Fixture.readMark, readArrow, hdrop, htake]

theorem dashless_or_shape_arrow (column : Nat) (cs : List Char) :
    Dashless ('<' :: cs) ∨ ∃ mark rest, Shape column ('<' :: cs) mark rest := by
  obtain ⟨offset, behind, rfl, htilde⟩ := exists_run '~' cs
  obtain ⟨dashes, rest, rfl, hdash⟩ := exists_run '-' behind
  cases dashes with
  | zero => exact .inl ⟨offset, rest, rfl, htilde, hdash⟩
  | succ more => exact .inr ⟨_, rest, .arrow hdash⟩

theorem OpensMark.dashless_or_shape (h : OpensMark text) (column : Nat) :
    Dashless text ∨ ∃ mark rest, Shape column text mark rest := by
  rcases h with ⟨cs, rfl⟩ | ⟨cs, rfl⟩ | ⟨cs, rfl⟩
  · obtain ⟨runs, rest, hruns⟩ := exists_carets column cs
    exact .inr ⟨_, rest, .carets hruns⟩
  · exact dashless_or_shape_arrow column ('~' :: cs)
  · exact dashless_or_shape_arrow column ('-' :: cs)

def gapped (w : List Char) : Bool := (Text.cut '.' w).any List.isEmpty

theorem ofString?_of_gapped (hw : Word w) (h : gapped w = true) :
    Scope.ofString? (.ofList w) = .error (.emptySegment (.ofList w)) := by
  have hblank : ¬ w.any isBlank = true := by
    rw [List.any_eq_true]
    rintro ⟨c, hc, hblank⟩
    rw [hw.noBlank c hc] at hblank
    cases hblank
  simp [Scope.ofString?, hw.ne_nil, hblank, show (Text.cut '.' w).any List.isEmpty = true from h]

theorem exists_ofString?_of_not_gapped (hw : Word w) (h : gapped w = false) :
    ∃ s, Scope.ofString? (.ofList w) = .ok s := by
  have hblank : w.any isBlank = false := by
    rw [List.any_eq_false]
    exact fun c hc => by simp [hw.noBlank c hc]
  have hgap : (Text.cut '.' w).any List.isEmpty = false := h
  rw [Scope.exists_ofString?]
  exact ⟨⟨.ofList w, by rwa [String.toList_ofList], by rwa [String.toList_ofList]⟩, rfl⟩

theorem readScopes_of_gapped (hws : ∀ w ∈ ws, Word w) (h : ws.find? gapped = some w)
    (excluding : Bool) :
    readScopes excluding ws = .error (.invalidScope (.emptySegment (.ofList w))) := by
  induction ws generalizing excluding with
  | nil => cases h
  | cons v ws ih =>
      obtain ⟨hv, hws⟩ := List.forall_mem_cons.mp hws
      cases hgap : gapped v with
      | true =>
          rw [List.find?_cons_of_pos hgap] at h
          cases h
          have hhyphen : w ≠ ['-'] := by
            rintro rfl
            exact absurd hgap (by decide)
          rw [readScopes, if_neg hhyphen, ofString?_of_gapped hv hgap]
      | false =>
          rw [List.find?_cons_of_neg (by simp [hgap])] at h
          rw [readScopes]
          split
          · exact ih hws h true
          · obtain ⟨s, hs⟩ := exists_ofString?_of_not_gapped hv hgap
            rw [hs]
            exact map_eq_error.mpr (ih hws h excluding)

theorem exists_readScopes_of_sound (hws : ∀ w ∈ ws, Word w) (h : ws.find? gapped = none)
    (excluding : Bool) : ∃ scopes, readScopes excluding ws = .ok scopes ∧
      ((scopes.expected = [] ∧ scopes.excluded = []) ↔ ∀ w ∈ ws, w = ['-']) := by
  induction ws generalizing excluding with
  | nil => exact ⟨_, rfl, by simp⟩
  | cons v ws ih =>
      obtain ⟨hv, hws⟩ := List.forall_mem_cons.mp hws
      have hgap : gapped v = false :=
        eq_false_of_ne_true (List.find?_eq_none.mp h v List.mem_cons_self)
      rw [List.find?_cons_of_neg (by simp [hgap])] at h
      rw [readScopes]
      split
      next hhyphen =>
        obtain ⟨scopes, hscopes, hnone⟩ := ih hws h true
        exact ⟨scopes, hscopes, by rw [hnone, List.forall_mem_cons, and_iff_right hhyphen]⟩
      next hhyphen =>
        obtain ⟨s, hs⟩ := exists_ofString?_of_not_gapped hv hgap
        obtain ⟨scopes, hscopes, -⟩ := ih hws h excluding
        refine ⟨_, by rw [hs, hscopes]; rfl, ?_⟩
        cases excluding <;> simp [hhyphen]

/-- What is reported of an annotation about the line `target`, whose mark starts `text` at the column. -/
inductive Flawed (target : SourceLine) (column : Nat) (text : List Char) : FixtureFault → Prop
  | emptyArrow (dashless : Dashless text) : Flawed target column text .emptyArrow
  | invalidScope {mark : Mark} {rest word : List Char} (shape : Shape column text mark rest)
      (leftmost : (Text.words rest).find? gapped = some word) :
      Flawed target column text (.invalidScope (.emptySegment (.ofList word)))
  | missingScopes {mark : Mark} {rest : List Char} (shape : Shape column text mark rest)
      (hyphens : ∀ w ∈ Text.words rest, w = ['-']) : Flawed target column text .missingScopes
  | spanOutOfBounds {mark : Mark} {rest : List Char} {span : ColumnSpan} {kind : MarkKind}
      (shape : Shape column text mark rest) (sound : (Text.words rest).find? gapped = none)
      (named : ¬ ∀ w ∈ Text.words rest, w = ['-'])
      (leftmost : (mark.spans target.text.toList).find? (fun s => target.text.length ≤ s.1.stop) =
        some (span, kind)) :
      Flawed target column text (.spanOutOfBounds target.index span target.text.length)

theorem find?_gapped_of_hyphens (h : ∀ w ∈ ws, w = ['-']) : ws.find? gapped = none := by
  rw [List.find?_eq_none]
  intro w hw
  rw [h w hw]
  decide

theorem Shape.readAssertions_eq (h : Shape column text mark rest) (target : SourceLine) (index : Nat) :
    readAssertions target index column text = readScopes false (words rest) >>= fun scopes =>
      if scopes.expected.isEmpty && scopes.excluded.isEmpty then throw .missingScopes
      else (mark.spans target.text.toList).mapM (assertionAt target index scopes) := by
  obtain ⟨behind, hmark, hwords⟩ := h.readMark
  rw [readAssertions, hmark, ok_bind, ← hwords]

theorem Flawed.readAssertions (h : Flawed target column text fault) :
    readAssertions target index column text = .error fault := by
  cases h with
  | emptyArrow dashless => rw [Fixture.readAssertions, dashless.readMark, error_bind]
  | invalidScope shape leftmost =>
      rw [shape.readAssertions_eq, readScopes_of_gapped (forall_mem_words _) leftmost false, error_bind]
  | missingScopes shape hyphens =>
      obtain ⟨scopes, hscopes, hnone⟩ := exists_readScopes_of_sound (forall_mem_words _)
        (find?_gapped_of_hyphens hyphens) false
      rw [shape.readAssertions_eq, hscopes, ok_bind, if_pos (by simpa using hnone.mpr hyphens)]
      rfl
  | spanOutOfBounds shape sound named leftmost =>
      obtain ⟨scopes, hscopes, hnone⟩ := exists_readScopes_of_sound (forall_mem_words _) sound false
      rw [shape.readAssertions_eq, hscopes, ok_bind, if_neg (by simpa using mt hnone.mp named)]
      refine mapM_of_find? (fun m hm => ?_) ?_ leftmost
      · exact ⟨_, (assertionAt_eq_ok_iff m _).mpr ⟨by simpa using hm, rfl⟩⟩
      · have hstop := List.find?_some leftmost
        rw [assertionAt, if_pos (by simpa using hstop)]

/-- An annotation that has none of the flaws is read. -/
theorem OpensMark.flawed_or_reads (h : OpensMark text) (target : SourceLine) (index column : Nat) :
    (∃ fault, Flawed target column text fault) ∨
      ∃ as, readAssertions target index column text = .ok as := by
  rcases h.dashless_or_shape column with hdashless | ⟨mark, rest, hshape⟩
  · exact .inl ⟨_, .emptyArrow hdashless⟩
  cases hgap : (words rest).find? gapped with
  | some w => exact .inl ⟨_, .invalidScope hshape hgap⟩
  | none =>
      by_cases hhyphens : ∀ w ∈ words rest, w = ['-']
      · exact .inl ⟨_, .missingScopes hshape hhyphens⟩
      cases hspan : (mark.spans target.text.toList).find? (fun s => target.text.length ≤ s.1.stop) with
      | some s => exact .inl ⟨_, .spanOutOfBounds hshape hgap hhyphens hspan⟩
      | none =>
          obtain ⟨behind, hmark, hwords⟩ := hshape.readMark
          rw [← hwords] at hgap hhyphens
          obtain ⟨scopes, hscopes, hnone⟩ :=
            exists_readScopes_of_sound (forall_mem_words _) hgap false
          refine .inr ⟨_, readAssertions_eq_ok_iff.mpr
            ⟨mark, behind, scopes, hmark, hscopes, mt hnone.mp hhyphens, fun m hm => ?_, rfl⟩⟩
          simpa using List.find?_eq_none.mp hspan m hm

theorem OpensMark.readAssertions_eq_error_iff (h : OpensMark text) :
    readAssertions target index column text = .error fault ↔ Flawed target column text fault := by
  refine ⟨fun herror => ?_, Flawed.readAssertions⟩
  rcases h.flawed_or_reads target index column with ⟨fault', hflawed⟩ | ⟨as, hread⟩
  · rw [hflawed.readAssertions] at herror
    cases herror
    exact hflawed
  · rw [hread] at herror
    cases herror

end Scopemark.Fixture
