import Scopemark.Proofs.Fixture.Rows

namespace Scopemark.Fixture

open Text

variable {token target : List Char} {index : Nat} {lines : List (List Char)} {sources : List SourceLine}

theorem organizes_noted (htoken : Solid token) {target : SourceLine} {notes : List Note}
    (hfits : ∀ n ∈ notes, n.Fits token target.text.toList)
    (rest : Organizes token (some target) (index + notes.length) lines [] sources) :
    Organizes token (some target) index (notes.map (Note.row token) ++ lines)
      (noted target index notes) sources := by
  induction notes generalizing index with
  | nil => exact rest
  | cons n notes ih =>
      obtain ⟨hn, hnotes⟩ := List.forall_mem_cons.mp hfits
      obtain ⟨text, hmark, hread⟩ := hn.reads htoken index
      rw [List.length_cons, Nat.add_comm notes.length, ← Nat.add_assoc] at rest
      exact .marks hmark hread (ih hnotes rest)

theorem organizes_source {last? : Option SourceLine} {text : String} {as : List ScopeAssertion}
    (hplain : markText? token text.toList = none)
    (rest : Organizes token (some ⟨index, text, []⟩) (index + 1) lines as sources) :
    Organizes token last? index (text.toList :: lines) [] (⟨index, text, as⟩ :: sources) := by
  have hsource : Organizes token last? index (text.toList :: lines) []
      (⟨index, .ofList text.toList, as⟩ :: sources) :=
    .source hplain (by rwa [String.ofList_toList])
  rwa [String.ofList_toList] at hsource

theorem organizes_sourcesFrom (htoken : Solid token) {lines : List DraftLine}
    (hfits : ∀ l ∈ lines, l.Fits token) (last? : Option SourceLine) (index : Nat) :
    Organizes token last? index (lines.flatMap (DraftLine.rows token)) [] (sourcesFrom index lines) := by
  induction lines generalizing last? index with
  | nil => exact .nil
  | cons l lines ih =>
      obtain ⟨hl, hlines⟩ := List.forall_mem_cons.mp hfits
      have hplain : markText? token l.text.toList = none := by
        rw [← Option.not_isSome_iff_eq_none, ← annotates_iff htoken]
        exact hl.plain
      exact organizes_source hplain (organizes_noted htoken hl.notes (ih hlines _ _))

theorem Draft.Fits.noFeed_token {d : Draft} (h : d.Fits) : '\n' ∉ d.token := by
  unfold Draft.token tokenOf
  cases hheader : d.header with
  | none => decide
  | some header => exact (h.header header hheader).noFeed

theorem Draft.Fits.oneLine {d : Draft} (h : d.Fits) : ∀ row ∈ d.rows, OneLine row := by
  intro row hrow
  obtain ⟨l, hl, hrow⟩ := List.mem_flatMap.mp hrow
  rcases List.mem_cons.mp hrow with rfl | hrow
  · exact (h.lines l hl).oneLine
  · obtain ⟨n, hn, rfl⟩ := List.mem_map.mp hrow
    exact ((h.lines l hl).notes n hn).oneLine h.noFeed_token

theorem Draft.Fits.header?_rows {d : Draft} (h : d.Fits) (hopens : Opens d.header d.rows) :
    header? d.rows = d.header := by
  change (firstText? d.rows).bind readHeader? = d.header
  unfold Opens at hopens
  cases hheader : d.header with
  | none =>
      rw [hheader] at hopens
      exact Option.bind_eq_none_iff.mpr hopens
  | some header =>
      rw [hheader] at hopens
      rw [hopens]
      exact readHeader?_headerLine (h.header header hheader)

theorem read?_write {d : Draft} (h : d.Fits) (hopens : Opens d.header d.rows) :
    read? d.write = .ok d.fixture := by
  have hlines : Text.lines d.write.toList = d.rows := by
    rw [Draft.write, String.toList_ofList, lines_flatMap h.oneLine]
  have hheader := h.header?_rows hopens
  have htoken : Solid d.token := by
    rw [Draft.token, ← hheader]
    exact solid_tokenOf d.rows
  refine read?_eq_ok_iff.mpr ⟨?_, rfl, ?_⟩
  · rw [hlines, hheader]
    rfl
  · rw [hlines]
    exact organizes_sourcesFrom htoken h.lines none 0

def plainNote (mark : Mark) (expected excluded : List Scope) : Note :=
  ⟨mark, expected, excluded, 1, fun _ => ' ', fun _ => [' ']⟩

theorem plainNote_fits {mark : Mark} {expected excluded : List Scope}
    (hplaced : mark.Placed token.length)
    (hwithin : ∀ m ∈ mark.spans target, m.1.stop < target.length)
    (hscopes : ¬ (expected = [] ∧ excluded = []))
    (hhyphen : ∀ s ∈ expected ++ excluded, s.name ≠ "-")
    (hcaret : ∀ s ∈ expected.head?, ¬ ['^'] <+: s.name.toList) :
    (plainNote mark expected excluded).Fits token target := by
  have hspace : Space ' ' := ⟨by decide, by decide⟩
  have hgap : ∀ c ∈ [' '], Space c := by
    intro c hc
    rw [List.mem_singleton.mp hc]
    exact hspace
  exact ⟨fun _ => hspace, fun _ => ⟨List.cons_ne_nil _ _, hgap⟩, hplaced, hwithin, hscopes, hhyphen,
    fun _ _ => hcaret⟩

theorem draftLine_fits {l : DraftLine} (htoken : Solid token) (hfeed : '\n' ∉ l.text.toList)
    (hreturn : l.text.toList.getLast? ≠ some '\r') (hplain : markText? token l.text.toList = none)
    (hnotes : ∀ n ∈ l.notes, n.Fits token l.text.toList) : l.Fits token := by
  refine ⟨⟨hfeed, hreturn⟩, ?_, hnotes⟩
  rw [annotates_iff htoken, Option.not_isSome_iff_eq_none]
  exact hplain

def dotted : Scope := ⟨"a.b", by decide, by decide⟩

def careted : Scope := ⟨"^c", by decide, by decide⟩

def caretDraft : Draft where
  header := some ⟨"^ #", "s", "é"⟩
  lines := [⟨"", []⟩, ⟨"^ # SYNTAX TEST \x22s\x22 \x22é\x22", []⟩,
    ⟨"  λ = x", [plainNote (.carets [⟨4, 4, by decide⟩, ⟨6, 6, by decide⟩]) [dotted] [careted],
      plainNote (.arrow 1 1) [] [dotted, careted]]⟩]

theorem caretDraft_fits : caretDraft.Fits := by
  have htoken : Solid caretDraft.token := ⟨'^', _, rfl, by decide⟩
  constructor
  · rintro h ⟨⟩
    exact ⟨by decide, by decide, by decide, by decide, by decide, by decide⟩
  · simp only [caretDraft, List.forall_mem_cons, List.not_mem_nil, false_imp_iff, implies_true, and_true]
    refine ⟨draftLine_fits htoken (by decide) (by decide) (by decide) (by simp),
      draftLine_fits htoken (by decide) (by decide) (by decide) (by simp),
      draftLine_fits htoken (by decide) (by decide) (by decide) ?_⟩
    simp only [List.forall_mem_cons, List.not_mem_nil, false_imp_iff, implies_true, and_true]
    constructor
    · exact plainNote_fits ⟨by decide, by decide, by decide, trivial⟩ (by decide) (by decide)
        (by decide) (by decide)
    · exact plainNote_fits trivial (by decide) (by decide) (by decide) (by decide)

theorem read?_write_caretDraft : caretDraft.Fits ∧ Opens caretDraft.header caretDraft.rows ∧
    read? caretDraft.write = .ok caretDraft.fixture ∧ caretDraft.fixture.assertionCount = 3 := by
  have hopens : Opens caretDraft.header caretDraft.rows := rfl
  exact ⟨caretDraft_fits, hopens, read?_write caretDraft_fits hopens, by decide⟩

def earlyDraft : Draft where
  header := some ⟨"#", "s", "t"⟩
  lines := [⟨"     ", [plainNote (.carets [⟨3, 3, by decide⟩]) [dotted] []]⟩,
    ⟨"# SYNTAX TEST \x22s\x22 \x22t\x22", []⟩]

theorem earlyDraft_fits : earlyDraft.Fits := by
  have htoken : Solid earlyDraft.token := ⟨'#', _, rfl, by decide⟩
  constructor
  · rintro h ⟨⟩
    exact ⟨by decide, by decide, by decide, by decide, by decide, by decide⟩
  · simp only [earlyDraft, List.forall_mem_cons, List.not_mem_nil, false_imp_iff, implies_true, and_true]
    refine ⟨draftLine_fits htoken (by decide) (by decide) (by decide) ?_,
      draftLine_fits htoken (by decide) (by decide) (by decide) (by simp)⟩
    simp only [List.forall_mem_cons, List.not_mem_nil, false_imp_iff, implies_true, and_true]
    exact plainNote_fits ⟨by decide, by decide, trivial⟩ (by decide) (by decide) (by decide)
      (by decide)

/-- It is not enough that the header is the first source line that is not blank. -/
theorem read?_write_earlyDraft_ne : earlyDraft.Fits ∧
    Opens earlyDraft.header (earlyDraft.lines.map fun l => l.text.toList) ∧
    read? earlyDraft.write ≠ .ok earlyDraft.fixture := by
  refine ⟨earlyDraft_fits, rfl, ?_⟩
  have hread : read? earlyDraft.write = .ok ⟨none, earlyDraft.write,
      [⟨0, "     ", []⟩, ⟨1, "#  ^ a.b", []⟩, ⟨2, "# SYNTAX TEST \x22s\x22 \x22t\x22", []⟩]⟩ := by
    cbv
  rw [hread]
  simp [Draft.fixture, earlyDraft]

end Scopemark.Fixture
