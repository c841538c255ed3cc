import Scopemark.Fixture.Reader
import Scopemark.Proofs.Except

namespace Scopemark

def SourceLine.bare (s : SourceLine) : SourceLine := { s with assertions := [] }

namespace Fixture

variable {token line : List Char} {lines : List (List Char)} {index : Nat} {target : SourceLine}
  {before next sources : List SourceLine} {as bs : List ScopeAssertion}

/-- After the source line `last?`, the lines from `index` on are read as assertions `as` about it and as
the further source lines `sources`. -/
inductive Organizes (token : List Char) : (last? : Option SourceLine) → (index : Nat) →
    (lines : List (List Char)) → (as : List ScopeAssertion) → (sources : List SourceLine) → Prop
  | nil {last? : Option SourceLine} {index : Nat} : Organizes token last? index [] [] []
  | source {last? : Option SourceLine} {index : Nat} {line : List Char} {lines : List (List Char)}
      {as : List ScopeAssertion} {sources : List SourceLine} (plain : markText? token line = none)
      (rest : Organizes token (some ⟨index, .ofList line, []⟩) (index + 1) lines as sources) :
      Organizes token last? index (line :: lines) [] (⟨index, .ofList line, as⟩ :: sources)
  | marks {last : SourceLine} {index : Nat} {line text : List Char} {lines : List (List Char)}
      {as bs : List ScopeAssertion} {sources : List SourceLine}
      (marked : markText? token line = some text)
      (read : readAssertions last index (line.length - text.length) text = .ok as)
      (rest : Organizes token (some last) (index + 1) lines bs sources) :
      Organizes token (some last) index (line :: lines) (as ++ bs) sources

theorem Organizes.eq_nil (h : Organizes token none index lines as sources) : as = [] := by
  cases h <;> rfl

theorem Organizes.of_nil {last? : Option SourceLine} (h : Organizes token last? index [] as sources) :
    as = [] ∧ sources = [] := by
  cases h
  exact ⟨rfl, rfl⟩

def addTo (as : List ScopeAssertion) : List SourceLine → List SourceLine
  | [] => []
  | last :: others => { last with assertions := last.assertions ++ as } :: others

theorem addTo_nil : addTo [] before = before := by
  cases before with
  | nil => rfl
  | cons last others => rw [addTo, List.append_nil]

theorem addTo_addTo : addTo bs (addTo as before) = addTo (as ++ bs) before := by
  cases before with
  | nil => rfl
  | cons last others => rw [addTo, addTo, addTo, List.append_assoc]

theorem reverse_addTo_source {text : String} :
    (addTo as (⟨index, text, []⟩ :: before)).reverse ++ sources =
      (addTo [] before).reverse ++ ⟨index, text, as⟩ :: sources := by
  rw [addTo_nil, addTo, List.reverse_cons, List.append_assoc]
  rfl

theorem bare_head?_addTo : (addTo as before).head?.map SourceLine.bare =
    before.head?.map SourceLine.bare := by
  cases before <;> rfl

theorem addLine_eq_ok_iff : addLine token before index line = .ok next ↔
    (markText? token line = none ∧ next = ⟨index, .ofList line, []⟩ :: before) ∨
    ∃ text last as, markText? token line = some text ∧ before.head?.map SourceLine.bare = some last ∧
      readAssertions last index (line.length - text.length) text = .ok as ∧
      next = addTo as before := by
  unfold addLine
  cases markText? token line with
  | none => simp [eq_comm]
  | some text =>
      cases before with
      | nil => simp
      | cons last others =>
          simp only [map_eq_ok, reduceCtorEq, false_and, false_or, List.head?_cons, Option.map_some]
          constructor
          · rintro ⟨as, has, rfl⟩
            exact ⟨text, last.bare, as, rfl, rfl, has, rfl⟩
          · rintro ⟨_, _, as, hmark, hlast, has, rfl⟩
            cases hmark
            cases hlast
            exact ⟨as, has, rfl⟩

theorem readLines_cons_eq_ok_iff : readLines token before index (line :: lines) = .ok sources ↔
    ∃ next, addLine token before index line = .ok next ∧
      readLines token next (index + 1) lines = .ok sources := by
  rw [readLines]
  cases addLine token before index line with
  | error fault => simp
  | ok next => simp

theorem readLines_eq_ok_iff {result : List SourceLine} :
    readLines token before index lines = .ok result ↔
      ∃ as sources, Organizes token (before.head?.map SourceLine.bare) index lines as sources ∧
        result = (addTo as before).reverse ++ sources := by
  -- Only the last source line can still get assertions; it is the first of `before`.
  induction lines generalizing before index with
  | nil =>
      rw [readLines, Except.ok.injEq]
      constructor
      · rintro rfl
        exact ⟨[], [], .nil, by rw [addTo_nil, List.append_nil]⟩
      · rintro ⟨as, sources, h, rfl⟩
        obtain ⟨rfl, rfl⟩ := h.of_nil
        rw [addTo_nil, List.append_nil]
  | cons line lines ih =>
      rw [readLines_cons_eq_ok_iff]
      constructor
      · rintro ⟨next, hnext, h⟩
        obtain ⟨as, sources, horganizes, rfl⟩ := ih.mp h
        rcases addLine_eq_ok_iff.mp hnext with ⟨hplain, rfl⟩ | ⟨text, last, bs, hmark, hlast, hread, rfl⟩
        · exact ⟨[], _, .source hplain horganizes, reverse_addTo_source⟩
        · rw [bare_head?_addTo, hlast] at horganizes
          refine ⟨bs ++ as, sources, hlast ▸ .marks hmark hread horganizes, ?_⟩
          rw [addTo_addTo]
      · rintro ⟨as, sources, h, rfl⟩
        generalize hlast : before.head?.map SourceLine.bare = last? at h
        cases h with
        | source hplain rest =>
            exact ⟨_, addLine_eq_ok_iff.mpr (.inl ⟨hplain, rfl⟩),
              ih.mpr ⟨_, _, rest, reverse_addTo_source.symm⟩⟩
        | marks hmark hread rest =>
            refine ⟨_, addLine_eq_ok_iff.mpr (.inr ⟨_, _, _, hmark, hlast, hread, rfl⟩), ?_⟩
            rw [← hlast, ← bare_head?_addTo] at rest
            exact ih.mpr ⟨_, _, rest, by rw [addTo_addTo]⟩

theorem read?_eq_ok_iff {text : String} {f : Fixture} : read? text = .ok f ↔
    f.header = header? (Text.lines text.toList) ∧ f.text = text ∧
      Organizes (tokenOf f.header) none 0 (Text.lines text.toList) [] f.lines := by
  unfold read?
  dsimp only
  rw [map_eq_ok]
  constructor
  · rintro ⟨lines, hlines, rfl⟩
    obtain ⟨as, sources, h, rfl⟩ := readLines_eq_ok_iff.mp hlines
    obtain rfl := h.eq_nil
    exact ⟨rfl, rfl, h⟩
  · rintro ⟨hheader, rfl, h⟩
    refine ⟨f.lines, ?_, by rw [← hheader]⟩
    rw [← hheader]
    exact readLines_eq_ok_iff.mpr ⟨[], f.lines, h, rfl⟩

def assertionOf (target : SourceLine) (index : Nat) (scopes : ScopeLists)
    (mark : ColumnSpan × MarkKind) : ScopeAssertion :=
  ⟨target.index, index, mark.1, mark.2, scopes.expected, scopes.excluded⟩

theorem assertionAt_eq_ok_iff {scopes : ScopeLists} (mark : ColumnSpan × MarkKind)
    (a : ScopeAssertion) : assertionAt target index scopes mark = .ok a ↔
      mark.1.stop < target.text.length ∧ a = assertionOf target index scopes mark := by
  unfold assertionAt
  dsimp only
  split
  next h => simp [Nat.not_lt.mpr h]
  next h => simp [Nat.lt_of_not_le h, assertionOf, eq_comm]

theorem readAssertions_eq_ok_iff {column : Nat} {text : List Char} :
    readAssertions target index column text = .ok as ↔
      ∃ mark rest scopes, readMark column text = .ok (mark, rest) ∧
        readScopes false (Text.words rest) = .ok scopes ∧
        ¬ (scopes.expected = [] ∧ scopes.excluded = []) ∧
        (∀ m ∈ mark.spans target.text.toList, m.1.stop < target.text.length) ∧
        as = (mark.spans target.text.toList).map (assertionOf target index scopes) := by
  unfold readAssertions
  rw [bind_eq_ok]
  constructor
  · rintro ⟨⟨mark, rest⟩, hmark, h⟩
    obtain ⟨scopes, hscopes, h⟩ := bind_eq_ok.mp h
    split at h
    · cases h
    next hsome =>
      obtain ⟨hstop, rfl⟩ := (mapM_eq_ok_iff_map assertionAt_eq_ok_iff).mp h
      exact ⟨mark, rest, scopes, hmark, hscopes, by simpa using hsome, hstop, rfl⟩
  · rintro ⟨mark, rest, scopes, hmark, hscopes, hsome, hstop, rfl⟩
    refine ⟨(mark, rest), hmark, bind_eq_ok.mpr ⟨scopes, hscopes, ?_⟩⟩
    rw [if_neg (by simpa using hsome)]
    exact (mapM_eq_ok_iff_map assertionAt_eq_ok_iff).mpr ⟨hstop, rfl⟩

/-- The assertion comes from the annotation line `index` and is about columns of the line `target`. -/
structure Concerns (target : SourceLine) (index : Nat) (a : ScopeAssertion) : Prop where
  sourceLine : a.sourceLine = target.index
  annotationLine : a.annotationLine = index
  stop_lt : a.span.stop < target.text.length

theorem readAssertions_concerns {column : Nat} {text : List Char}
    (h : readAssertions target index column text = .ok as) : ∀ a ∈ as, Concerns target index a := by
  obtain ⟨mark, rest, scopes, _, _, _, hstop, rfl⟩ := readAssertions_eq_ok_iff.mp h
  rintro _ ha
  obtain ⟨m, hm, rfl⟩ := List.mem_map.mp ha
  exact ⟨rfl, rfl, hstop m hm⟩

/-- The source lines are the lines that are no annotations, each with its index. -/
theorem Organizes.sources_eq {last? : Option SourceLine}
    (h : Organizes token last? index lines as sources) :
    sources.map (fun s => (s.text.toList, s.index)) =
      (lines.zipIdx index).filter fun p => (markText? token p.1).isNone := by
  induction h with
  | nil => rfl
  | source plain rest ih =>
      rw [List.zipIdx_cons, List.filter_cons_of_pos (by simp [plain]), List.map_cons, ih,
        String.toList_ofList]
  | marks marked read rest ih =>
      rw [List.zipIdx_cons, List.filter_cons_of_neg (by simp [marked]), ih]

theorem Organizes.mem_zipIdx {last? : Option SourceLine}
    (h : Organizes token last? index lines as sources) {s : SourceLine} (hs : s ∈ sources) :
    (s.text.toList, s.index) ∈ lines.zipIdx index := by
  have hmem := List.mem_map_of_mem (f := fun s : SourceLine => (s.text.toList, s.index)) hs
  rw [h.sources_eq] at hmem
  exact (List.mem_filter.mp hmem).1

theorem Organizes.concerns {last? : Option SourceLine}
    (h : Organizes token last? index lines as sources) :
    (∀ last ∈ last?, ∀ a ∈ as, ∃ i, Concerns last i a) ∧
      ∀ s ∈ sources, ∀ a ∈ s.assertions, ∃ i, Concerns s i a := by
  induction h with
  | nil => simp
  | source plain rest ih =>
      obtain ⟨has, hsources⟩ := ih
      refine ⟨by simp, List.forall_mem_cons.mpr ⟨fun a ha => ?_, hsources⟩⟩
      obtain ⟨i, hi⟩ := has _ rfl a ha
      exact ⟨i, hi.sourceLine, hi.annotationLine, hi.stop_lt⟩
  | marks marked read rest ih =>
      obtain ⟨hbs, hsources⟩ := ih
      refine ⟨?_, hsources⟩
      intro last hlast a ha
      obtain rfl := Option.mem_some_iff.mp hlast
      rcases List.mem_append.mp ha with ha | ha
      · exact ⟨_, readAssertions_concerns read a ha⟩
      · exact hbs _ rfl a ha

structure Located (all : List (List Char)) (s : SourceLine) : Prop where
  line : all[s.index]? = some s.text.toList
  assertions : ∀ a ∈ s.assertions, ∃ index, Concerns s index a

theorem read?_located {text : String} {f : Fixture} (h : read? text = .ok f) :
    f.text = text ∧ ∀ s ∈ f.lines, Located (Text.lines text.toList) s := by
  obtain ⟨_, htext, horganizes⟩ := read?_eq_ok_iff.mp h
  refine ⟨htext, fun s hs => ⟨?_, horganizes.concerns.2 s hs⟩⟩
  exact List.mem_zipIdx_iff_getElem?.mp (horganizes.mem_zipIdx hs)

end Fixture

end Scopemark
