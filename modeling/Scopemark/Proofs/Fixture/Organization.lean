import Scopemark.Proofs.Fixture.Header
import Scopemark.Proofs.Fixture.Lines

namespace Scopemark.Fixture

variable {token line text : List Char} {lines : List (List Char)} {last? : Option SourceLine}
  {index : Nat} {target : SourceLine} {sources : List SourceLine} {as bs : List ScopeAssertion}

theorem readCarets_starts (column : Nat) (cs : List Char) :
    (∀ run ∈ (readCarets column cs).1, column ≤ run.start) ∧
      (readCarets column cs).1.Pairwise fun a b => a.start < b.start := by
  fun_induction readCarets column cs with
  | case1 column cs h => simp
  | case2 column cs c more h rest gap runs behind hread ih =>
      rw [hread] at ih
      obtain ⟨hle, hpairwise⟩ := ih
      have hlt : ∀ run ∈ runs, column < run.start := fun run hrun =>
        Nat.lt_of_lt_of_le (by omega) (hle run hrun)
      exact ⟨List.forall_mem_cons.mpr ⟨Nat.le_refl _, fun run hrun => (hlt run hrun).le⟩,
        List.pairwise_cons.mpr ⟨hlt, hpairwise⟩⟩

theorem readCarets_ne_nil {column : Nat} {rest : List Char} :
    (readCarets column ('^' :: rest)).1 ≠ [] := by
  rw [readCarets]
  split
  next h => simp at h
  next => simp

theorem readMark_spans (target : List Char) {column : Nat} {mark : Mark} {rest : List Char}
    (hopens : OpensMark text) (h : readMark column text = .ok (mark, rest)) :
    mark.spans target ≠ [] ∧ (mark.spans target).Pairwise fun a b => a.1.start < b.1.start := by
  unfold readMark at h
  split at h
  next behind =>
    split at h
    next found hfound =>
      cases h
      unfold readArrow at hfound
      dsimp only at hfound
      split at hfound
      · cases hfound
      · cases hfound
        exact ⟨List.cons_ne_nil _ _, List.pairwise_singleton _ _⟩
    next => cases h
  next hcaret =>
    cases h
    obtain ⟨behind, rfl⟩ : ['^'] <+: text := by
      rcases hopens with h | ⟨_, rfl⟩ | ⟨_, rfl⟩
      · exact h
      · exact absurd rfl (hcaret _)
      · exact absurd rfl (hcaret _)
    refine ⟨?_, List.pairwise_map.mpr (readCarets_starts column _).2⟩
    simpa [Mark.spans] using readCarets_ne_nil

def Precedes (a b : ScopeAssertion) : Prop :=
  a.annotationLine < b.annotationLine ∨
    a.annotationLine = b.annotationLine ∧ a.span.start < b.span.start

theorem readAssertions_ordered {column : Nat} (hopens : OpensMark text)
    (h : readAssertions target index column text = .ok as) : as ≠ [] ∧ as.Pairwise Precedes := by
  obtain ⟨mark, rest, scopes, hmark, _, _, _, rfl⟩ := readAssertions_eq_ok_iff.mp h
  obtain ⟨hne, hpairwise⟩ := readMark_spans target.text.toList hopens hmark
  refine ⟨mt List.map_eq_nil_iff.mp hne, List.pairwise_map.mpr ?_⟩
  exact hpairwise.imp fun hlt => .inr ⟨rfl, hlt⟩

theorem Organizes.le_index (h : Organizes token last? index lines as sources) {s : SourceLine}
    (hs : s ∈ sources) : index ≤ s.index :=
  List.le_snd_of_mem_zipIdx (h.mem_zipIdx hs)

theorem Organizes.ascending (h : Organizes token last? index lines as sources) :
    sources.Pairwise fun s t => s.index < t.index := by
  have hindices : ((lines.zipIdx index).map Prod.snd).Pairwise (· < ·) := by
    rw [List.zipIdx_map_snd]
    exact List.pairwise_lt_range' 1
  have hsources := (List.pairwise_map.mp hindices).filter fun p => (markText? token p.1).isNone
  rw [← h.sources_eq, List.pairwise_map] at hsources
  exact hsources

theorem Organizes.mem_iff (h : Organizes token none 0 lines as sources) :
    (∃ s ∈ sources, s.index = index ∧ s.text.toList = line) ↔
      lines[index]? = some line ∧ markText? token line = none := by
  have hmem : (line, index) ∈ sources.map (fun s => (s.text.toList, s.index)) ↔
      lines[index]? = some line ∧ markText? token line = none := by
    rw [h.sources_eq, List.mem_filter, List.mk_mem_zipIdx_iff_getElem?, Option.isNone_iff_eq_none]
  rw [← hmem, List.mem_map]
  refine exists_congr fun s => and_congr_right fun _ => ?_
  rw [Prod.mk.injEq, and_comm]

def stated (as : List ScopeAssertion) (sources : List SourceLine) : List ScopeAssertion :=
  as ++ sources.flatMap SourceLine.assertions

theorem stated_source {text : String} :
    stated [] (⟨index, text, as⟩ :: sources) = stated as sources := rfl

theorem stated_append : stated (as ++ bs) sources = as ++ stated bs sources :=
  List.append_assoc _ _ _

theorem Organizes.exists_annotationLine_iff (h : Organizes token last? index lines as sources)
    {i : Nat} : (∃ a ∈ stated as sources, a.annotationLine = i) ↔
      ∃ line, (line, i) ∈ lines.zipIdx index ∧ (markText? token line).isSome := by
  induction h with
  | nil => simp [stated]
  | @source _ _ line _ _ _ plain rest ih =>
      rw [stated_source, ih]
      refine exists_congr fun other => and_congr_left fun hother => ?_
      rw [List.zipIdx_cons, List.mem_cons, or_iff_right]
      rintro he
      cases he
      simp [plain] at hother
  | @marks _ index line _ _ _ _ _ marked read rest ih =>
      obtain ⟨hopens, -⟩ := exists_of_markText?_eq_some marked
      have hconcerns := readAssertions_concerns read
      obtain ⟨first, hfirst⟩ := List.exists_mem_of_ne_nil _ (readAssertions_ordered hopens read).1
      rw [stated_append]
      simp only [List.mem_append, or_and_right, exists_or, ih, List.zipIdx_cons, List.mem_cons]
      refine or_congr_left ?_
      constructor
      · rintro ⟨a, ha, rfl⟩
        exact ⟨line, by rw [(hconcerns a ha).annotationLine], by simp [marked]⟩
      · rintro ⟨other, he, -⟩
        cases he
        exact ⟨first, hfirst, (hconcerns first hfirst).annotationLine⟩

theorem Organizes.le_annotationLine (h : Organizes token last? index lines as sources)
    {a : ScopeAssertion} (ha : a ∈ stated as sources) : index ≤ a.annotationLine := by
  obtain ⟨line, hmem, -⟩ := h.exists_annotationLine_iff.mp ⟨a, ha, rfl⟩
  exact List.le_snd_of_mem_zipIdx hmem

theorem Organizes.ordered (h : Organizes token last? index lines as sources) :
    (stated as sources).Pairwise Precedes := by
  induction h with
  | nil => exact .nil
  | source plain rest ih => exact ih
  | marks marked read rest ih =>
      obtain ⟨hopens, -⟩ := exists_of_markText?_eq_some marked
      rw [stated_append]
      refine List.pairwise_append.mpr ⟨(readAssertions_ordered hopens read).2, ih, ?_⟩
      intro a ha b hb
      rw [Precedes, (readAssertions_concerns read a ha).annotationLine]
      exact .inl (rest.le_annotationLine hb)

theorem Organizes.lt_index (h : Organizes token last? index lines as sources) {a : ScopeAssertion}
    (ha : a ∈ as) {s : SourceLine} (hs : s ∈ sources) : a.annotationLine < s.index := by
  induction h with
  | nil => cases ha
  | source plain rest ih => cases ha
  | marks marked read rest ih =>
      rcases List.mem_append.mp ha with ha | ha
      · rw [(readAssertions_concerns read a ha).annotationLine]
        exact rest.le_index hs
      · exact ih ha hs

structure Attached (sources : List SourceLine) (s : SourceLine) (a : ScopeAssertion) : Prop where
  sourceLine : a.sourceLine = s.index
  above : s.index < a.annotationLine
  last : ∀ t ∈ sources, t.index < a.annotationLine → t.index ≤ s.index

theorem Organizes.attached (h : Organizes token last? index lines as sources) :
    ∀ s ∈ sources, ∀ a ∈ s.assertions, Attached sources s a := by
  have hconcerns := h.concerns.2
  induction h with
  | nil => simp
  | marks marked read rest ih => exact ih hconcerns
  | source plain rest ih =>
      obtain ⟨hfirst, hothers⟩ := List.forall_mem_cons.mp hconcerns
      -- The assertions of the first line come before the second line, and the first line is above all
      -- assertions of the others.
      refine List.forall_mem_cons.mpr ⟨fun a ha => ?_, fun s hs a ha => ?_⟩
      · obtain ⟨_, ha'⟩ := hfirst a ha
        refine ⟨ha'.sourceLine, rest.le_annotationLine (List.mem_append_left _ ha), ?_⟩
        refine List.forall_mem_cons.mpr ⟨fun _ => Nat.le_refl _, fun t ht hlt => ?_⟩
        exact absurd hlt (rest.lt_index ha ht).not_gt
      · obtain ⟨hsource, habove, hlast⟩ := ih hothers s hs a ha
        refine ⟨hsource, habove, List.forall_mem_cons.mpr ⟨fun _ => ?_, hlast⟩⟩
        exact Nat.le_of_lt (rest.le_index hs)

theorem index_lt_iff (h : sources.Pairwise fun s t => s.index < t.index) {s t : SourceLine}
    {j k : Nat} (hs : sources[j]? = some s) (ht : sources[k]? = some t) :
    s.index < t.index ↔ j < k := by
  obtain ⟨hj, rfl⟩ := List.getElem?_eq_some_iff.mp hs
  obtain ⟨hk, rfl⟩ := List.getElem?_eq_some_iff.mp ht
  have hlt := List.pairwise_iff_getElem.mp h
  refine ⟨fun hindex => ?_, hlt j k hj hk⟩
  by_contra hle
  rcases Nat.lt_or_eq_of_le (Nat.le_of_not_lt hle) with hkj | rfl
  · exact Nat.lt_asymm hindex (hlt k j hk hj hkj)
  · exact Nat.lt_irrefl _ hindex

theorem placeOf_eq (h : sources.Pairwise fun s t => s.index < t.index) {s : SourceLine}
    {k base size : Nat} (hs : sources[k]? = some s) (hbase : base ≤ k) (hsize : k < base + size)
    (hlength : base + size ≤ sources.length) : placeOf sources s.index base size = k := by
  -- The place stays between `base` and `base + size`.
  fun_induction placeOf sources s.index base size with
  | case1 base size hmore half middle base' ih =>
      have hmiddle : sources[middle]? = some sources[middle] := List.getElem?_eq_getElem (by omega)
      by_cases hlt : k < middle
      · have hbase' : base' = base := by simp [base', hmiddle, index_lt_iff h hs hmiddle, hlt]
        rw [hbase'] at ih ⊢
        exact ih hbase (by omega) (by omega)
      · have hbase' : base' = middle := by simp [base', hmiddle, index_lt_iff h hs hmiddle, hlt]
        rw [hbase'] at ih ⊢
        exact ih (by omega) (by omega) (by omega)
  | case2 base size hmore => omega

theorem sourceLine?_eq_some_iff {f : Fixture} (h : f.lines.Pairwise fun s t => s.index < t.index)
    {s : SourceLine} : f.sourceLine? index = some s ↔ s ∈ f.lines ∧ s.index = index := by
  unfold sourceLine?
  rw [Option.filter_eq_some_iff, beq_iff_eq]
  refine and_congr_left fun hindex => ⟨List.mem_of_getElem?, fun hs => ?_⟩
  obtain ⟨k, hk⟩ := List.mem_iff_getElem?.mp hs
  obtain ⟨hlength, -⟩ := List.getElem?_eq_some_iff.mp hk
  rw [← hindex, placeOf_eq h hk (Nat.zero_le _) (by omega) (by omega), hk]

/-- The lines of the fixture's text are divided into source lines and annotations, and the assertions
belong to them. -/
structure Organized (f : Fixture) (lines : List (List Char)) : Prop where
  sources : ∀ i line, (∃ s ∈ f.lines, s.index = i ∧ s.text.toList = line) ↔
    lines[i]? = some line ∧ ¬ Annotates (tokenOf f.header) line
  ascending : f.lines.Pairwise fun s t => s.index < t.index
  header : ∀ h ∈ f.header, ∃ s ∈ f.lines, readHeader? s.text.toList = some h ∧
    ∀ i < s.index, ∃ line, lines[i]? = some line ∧ Text.Blanks line
  annotations : ∀ i, (∃ a ∈ f.assertions, a.annotationLine = i) ↔
    ∃ line, lines[i]? = some line ∧ Annotates (tokenOf f.header) line
  attached : ∀ s ∈ f.lines, ∀ a ∈ s.assertions, Attached f.lines s a
  ordered : f.assertions.Pairwise Precedes
  sourceLine? : ∀ i s, f.sourceLine? i = some s ↔ s ∈ f.lines ∧ s.index = i

theorem header?_eq_some {h : FixtureHeader} (hheader : header? lines = some h) :
    ∃ (i : Nat) (line : List Char), lines[i]? = some line ∧ readHeader? line = some h ∧
      ∀ j < i, ∃ line, lines[j]? = some line ∧ Text.Blanks line := by
  obtain ⟨line, hfind, hread⟩ := Option.bind_eq_some_iff.mp hheader
  obtain ⟨-, i, hi, rfl, hbefore⟩ := List.find?_eq_some_iff_getElem.mp hfind
  refine ⟨i, _, List.getElem?_eq_getElem hi, hread, fun j hj => ?_⟩
  refine ⟨_, List.getElem?_eq_getElem (hj.trans hi), ?_⟩
  simpa [Text.allBlank, Text.Blanks] using hbefore j hj

theorem read?_organized {text : String} {f : Fixture} (h : read? text = .ok f) :
    Organized f (Text.lines text.toList) := by
  obtain ⟨hheader, -, horganizes⟩ := read?_eq_ok_iff.mp h
  have htoken : Text.Solid (tokenOf f.header) := hheader ▸ solid_tokenOf _
  have hplain {line : List Char} :
      ¬ Annotates (tokenOf f.header) line ↔ markText? (tokenOf f.header) line = none := by
    rw [annotates_iff htoken, Option.not_isSome_iff_eq_none]
  refine ⟨fun i line => ?_, horganizes.ascending, fun header hsome => ?_, fun i => ?_,
    horganizes.attached, horganizes.ordered,
    fun i s => sourceLine?_eq_some_iff horganizes.ascending⟩
  · rw [hplain]
    exact horganizes.mem_iff
  · rw [Option.mem_def, hheader] at hsome
    obtain ⟨i, line, hline, hread, hblank⟩ := header?_eq_some hsome
    have hnone : markText? (tokenOf f.header) line = none := by
      rw [hheader, hsome]
      exact markText?_of_readHeader? hread
    obtain ⟨s, hs, rfl, rfl⟩ := horganizes.mem_iff.mpr ⟨hline, hnone⟩
    exact ⟨s, hs, hread, hblank⟩
  · refine horganizes.exists_annotationLine_iff.trans (exists_congr fun line => ?_)
    rw [List.mk_mem_zipIdx_iff_getElem?, annotates_iff htoken]

def shellText : String :=
  "# SYNTAX TEST \x22a.sh\x22 \x22Words\x22\necho $1 $2\n#    ^^ ^^ b\n#<-- - c"

def shellFixture : Fixture :=
  let b : Scope := ⟨"b", by decide, by decide⟩
  let c : Scope := ⟨"c", by decide, by decide⟩
  { header := some ⟨"#", "a.sh", "Words"⟩
    text := shellText
    lines := [⟨0, "# SYNTAX TEST \x22a.sh\x22 \x22Words\x22", []⟩,
      ⟨1, "echo $1 $2", [⟨1, 2, ⟨5, 6, by decide⟩, .caretRun, [b], []⟩,
        ⟨1, 2, ⟨8, 9, by decide⟩, .caretRun, [b], []⟩,
        ⟨1, 3, ⟨0, 1, by decide⟩, .arrow, [], [c]⟩]⟩] }

theorem read?_organized_shellText : read? shellText = .ok shellFixture ∧
    Organized shellFixture (Text.lines shellText.toList) := by
  have hread : read? shellText = .ok shellFixture := by cbv
  exact ⟨hread, read?_organized hread⟩

end Scopemark.Fixture
