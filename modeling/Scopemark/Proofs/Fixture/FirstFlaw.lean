import Scopemark.Proofs.Fixture.Flaws
import Scopemark.Proofs.Text.Lines

namespace Scopemark.Fixture

open Text

variable {token line : List Char} {lines above rest : List (List Char)} {sources before : List SourceLine}
  {target target' : Option SourceLine} {fault fault' : FixtureFault} {e : FixtureError} {text : String}
  {index : Nat}

inductive TargetOf (token : List Char) : (above : List (List Char)) → Option SourceLine → Prop
  | nil : TargetOf token [] none
  | source {above : List (List Char)} {line : List Char} (plain : ¬ Annotates token line) :
      TargetOf token (above ++ [line]) (some ⟨above.length, .ofList line, []⟩)
  | mark {above : List (List Char)} {line : List Char} {target : Option SourceLine}
      (annotates : Annotates token line) (rest : TargetOf token above target) :
      TargetOf token (above ++ [line]) target

inductive Malformed (token : List Char) (above : List (List Char)) (line : List Char) :
    FixtureFault → Prop
  | noTargetLine (annotates : Annotates token line) (alone : TargetOf token above none) :
      Malformed token above line .noTargetLine
  | flawed {indent gap text : List Char} {target : SourceLine} {fault : FixtureFault}
      (row : line = indent ++ (token ++ (gap ++ text))) (indent_blanks : Blanks indent)
      (gap_blanks : Blanks gap) (opens : OpensMark text) (below : TargetOf token above (some target))
      (flaw : Flawed target (indent.length + token.length + gap.length) text fault) :
      Malformed token above line fault

/-- What is reported of a line, if nothing is reported of one in front of it. -/
def MalformedAt (token : List Char) (lines : List (List Char)) (index : Nat) (fault : FixtureFault) :
    Prop :=
  ∃ line, lines[index]? = some line ∧ Malformed token (lines.take index) line fault

structure FirstFlaw (token : List Char) (lines : List (List Char)) (index : Nat) (fault : FixtureFault) :
    Prop where
  malformed : MalformedAt token lines index fault
  before : ∀ i < index, ∀ fault, ¬ MalformedAt token lines i fault

theorem targetOf_nil_iff : TargetOf token [] target ↔ target = none := by
  constructor
  · generalize habove : ([] : List (List Char)) = above
    intro h
    cases h with
    | nil => rfl
    | source | mark => simp at habove
  · rintro rfl
    exact .nil

theorem targetOf_concat_iff : TargetOf token (above ++ [line]) target ↔
    (¬ Annotates token line ∧ target = some ⟨above.length, .ofList line, []⟩) ∨
      (Annotates token line ∧ TargetOf token above target) := by
  constructor
  · generalize hlines : above ++ [line] = lines
    intro h
    cases h with
    | nil => simp at hlines
    | source plain =>
        obtain ⟨rfl, hline⟩ := List.append_inj' hlines rfl
        cases hline
        exact .inl ⟨plain, rfl⟩
    | mark annotates rest =>
        obtain ⟨rfl, hline⟩ := List.append_inj' hlines rfl
        cases hline
        exact .inr ⟨annotates, rest⟩
  · rintro (⟨hplain, rfl⟩ | ⟨hannotates, hrest⟩)
    · exact .source hplain
    · exact .mark hannotates hrest

theorem TargetOf.unique (h : TargetOf token above target) (h' : TargetOf token above target') :
    target = target' := by
  induction h with
  | nil => exact (targetOf_nil_iff.mp h').symm
  | source plain =>
      rcases targetOf_concat_iff.mp h' with ⟨_, rfl⟩ | ⟨hannotates, _⟩
      · rfl
      · exact absurd hannotates plain
  | mark annotates rest ih =>
      rcases targetOf_concat_iff.mp h' with ⟨hplain, _⟩ | ⟨_, hrest⟩
      · exact absurd annotates hplain
      · exact ih hrest

theorem Malformed.annotates (h : Malformed token above line fault) : Annotates token line := by
  cases h with
  | noTargetLine annotates => exact annotates
  | flawed row indent_blanks gap_blanks opens =>
      exact ⟨_, _, _, indent_blanks, gap_blanks, opens, row⟩

theorem readLines_append (xs ys : List (List Char)) (index : Nat) :
    readLines token before index (xs ++ ys) = readLines token before index xs >>= fun sources =>
      readLines token sources.reverse (index + xs.length) ys := by
  induction xs generalizing before index with
  | nil => rw [readLines, ok_bind, List.reverse_reverse]; rfl
  | cons line xs ih =>
      rw [List.cons_append, readLines, readLines]
      cases addLine token before index line with
      | error fault => rfl
      | ok next =>
          dsimp only
          rw [ih, List.length_cons, Nat.add_right_comm, Nat.add_assoc]

theorem readLines_concat (lines : List (List Char)) (line : List Char) :
    readLines token [] 0 (lines ++ [line]) = readLines token [] 0 lines >>= fun sources =>
      match addLine token sources.reverse lines.length line with
      | .error fault => .error ⟨lines.length + 1, fault⟩
      | .ok next => .ok next.reverse := by
  rw [readLines_append, Nat.zero_add]
  rfl

theorem readLines_targetOf (htoken : Solid token) (h : readLines token [] 0 above = .ok sources) :
    TargetOf token above (sources.reverse.head?.map SourceLine.bare) := by
  induction above using List.reverseRecOn generalizing sources with
  | nil =>
      cases Except.ok.inj h
      exact .nil
  | append_singleton above line ih =>
      rw [readLines_append] at h
      obtain ⟨sources', hsources', h⟩ := bind_eq_ok.mp h
      obtain ⟨next, hnext, h⟩ := readLines_cons_eq_ok_iff.mp h
      obtain rfl : next.reverse = sources := Except.ok.inj h
      rw [List.reverse_reverse]
      rcases addLine_eq_ok_iff.mp hnext with ⟨hplain, rfl⟩ | ⟨text, _, as, hmark, -, -, rfl⟩
      · have hsource : ¬ Annotates token line := by simp [annotates_iff htoken, hplain]
        rw [Nat.zero_add]
        exact .source hsource
      · rw [bare_head?_addTo]
        exact .mark ((annotates_iff htoken).mpr (by simp [hmark])) (ih hsources')

theorem addLine_of_opensMark (htoken : Solid token) {indent gap text : List Char}
    (hindent : Blanks indent) (hgap : Blanks gap) (hopens : OpensMark text) (index : Nat) :
    addLine token before index (indent ++ (token ++ (gap ++ text))) =
      match before with
      | [] => .error .noTargetLine
      | target :: others =>
        (readAssertions target index (indent.length + token.length + gap.length) text).map
          fun assertions => { target with assertions := target.assertions ++ assertions } :: others := by
  have hcolumn : (indent ++ (token ++ (gap ++ text))).length - text.length =
      indent.length + token.length + gap.length := by
    simp only [List.length_append]
    omega
  cases before with
  | nil => simp only [addLine, markText?_of_opensMark htoken hindent hgap hopens]
  | cons target others =>
      simp only [addLine, markText?_of_opensMark htoken hindent hgap hopens, hcolumn]

theorem addLine_eq_error_iff (htoken : Solid token) (index : Nat)
    (htarget : TargetOf token above (before.head?.map SourceLine.bare)) :
    addLine token before index line = .error fault ↔ Malformed token above line fault := by
  constructor
  · intro h
    cases hmark : markText? token line with
    | none => simp [addLine, hmark] at h
    | some text =>
        obtain ⟨hopens, indent, gap, hindent, hgap, rfl⟩ := exists_of_markText?_eq_some hmark
        rw [addLine_of_opensMark htoken hindent hgap hopens] at h
        cases before with
        | nil =>
            cases h
            exact .noTargetLine ⟨indent, gap, text, hindent, hgap, hopens, rfl⟩ htarget
        | cons last others =>
            have hread : readAssertions last.bare index (indent.length + token.length + gap.length)
                text = .error fault := map_eq_error.mp h
            exact .flawed rfl hindent hgap hopens htarget (hopens.readAssertions_eq_error_iff.mp hread)
  · intro h
    cases h with
    | noTargetLine annotates alone =>
        obtain ⟨indent, gap, text, hindent, hgap, hopens, rfl⟩ := annotates
        have hnone := htarget.unique alone
        rw [Option.map_eq_none_iff, List.head?_eq_none_iff] at hnone
        rw [addLine_of_opensMark htoken hindent hgap hopens, hnone]
    | flawed row indent_blanks gap_blanks opens below flaw =>
        obtain ⟨last, hlast, rfl⟩ := Option.map_eq_some_iff.mp (htarget.unique below)
        obtain ⟨others, rfl⟩ := List.head?_eq_some_iff.mp hlast
        rw [row, addLine_of_opensMark htoken indent_blanks gap_blanks opens]
        exact map_eq_error.mpr flaw.readAssertions

theorem TargetOf.exists_head? (h : TargetOf token above target) :
    ∃ before : List SourceLine, before.head?.map SourceLine.bare = target := by
  induction h with
  | nil => exact ⟨[], rfl⟩
  | @source above line plain => exact ⟨[⟨above.length, .ofList line, []⟩], rfl⟩
  | mark _ _ ih => exact ih

theorem Malformed.unique (htoken : Solid token) (h : Malformed token above line fault)
    (h' : Malformed token above line fault') : fault = fault' := by
  have htarget : ∃ target, TargetOf token above target := by
    cases h with
    | noTargetLine annotates alone => exact ⟨_, alone⟩
    | flawed row indent_blanks gap_blanks opens below flaw => exact ⟨_, below⟩
  obtain ⟨target, htarget⟩ := htarget
  obtain ⟨before, rfl⟩ := htarget.exists_head?
  have hline := (addLine_eq_error_iff htoken 0 htarget).mpr h
  rw [(addLine_eq_error_iff htoken 0 htarget).mpr h'] at hline
  cases hline
  rfl

theorem malformedAt_concat_iff : MalformedAt token (lines ++ [line]) index fault ↔
    MalformedAt token lines index fault ∨ index = lines.length ∧ Malformed token lines line fault := by
  unfold MalformedAt
  rcases Nat.lt_trichotomy index lines.length with hlt | rfl | hlt
  · rw [List.getElem?_append_left hlt, List.take_append_of_le_length hlt.le]
    simp [hlt.ne]
  · simp
  · have hnone : (lines ++ [line])[index]? = none := by
      rw [List.getElem?_eq_none_iff, List.length_append]
      exact hlt
    simp [hnone, hlt.le, hlt.ne']

theorem MalformedAt.lt_length (h : MalformedAt token lines index fault) : index < lines.length := by
  obtain ⟨line, hline, -⟩ := h
  exact (List.getElem?_eq_some_iff.mp hline).1

theorem malformedAt_take_iff {n : Nat} (h : index < n) :
    MalformedAt token (lines.take n) index fault ↔ MalformedAt token lines index fault := by
  unfold MalformedAt
  rw [List.getElem?_take_of_lt h, List.take_take, Nat.min_eq_left h.le]

theorem FirstFlaw.of_take_eq {others : List (List Char)} (h : FirstFlaw token lines index fault)
    (htake : others.take (index + 1) = lines.take (index + 1)) :
    FirstFlaw token others index fault := by
  have hiff {i : Nat} {fault : FixtureFault} (hi : i < index + 1) :
      MalformedAt token others i fault ↔ MalformedAt token lines i fault := by
    rw [← malformedAt_take_iff hi, htake, malformedAt_take_iff hi]
  refine ⟨(hiff (Nat.lt_succ_self index)).mpr h.malformed, fun i hi fault hflaw => ?_⟩
  exact h.before i hi fault ((hiff (Nat.lt_succ_of_lt hi)).mp hflaw)

theorem FirstFlaw.unique (htoken : Solid token) {index' : Nat} (h : FirstFlaw token lines index fault)
    (h' : FirstFlaw token lines index' fault') : index = index' ∧ fault = fault' := by
  rcases Nat.lt_trichotomy index index' with hlt | rfl | hlt
  · exact absurd h.malformed (h'.before index hlt fault)
  · obtain ⟨line, hline, hflaw⟩ := h.malformed
    obtain ⟨line', hline', hflaw'⟩ := h'.malformed
    obtain rfl : line = line' := Option.some.inj (hline.symm.trans hline')
    exact ⟨rfl, hflaw.unique htoken hflaw'⟩
  · exact absurd h'.malformed (h.before index' hlt fault')

/-- Lines are read if nothing is wrong with any of them, and else reading them ends at the first flaw. -/
theorem reads_or_firstFlaw (htoken : Solid token) (lines : List (List Char)) :
    ((∃ sources, readLines token [] 0 lines = .ok sources) ∧
        ∀ index fault, ¬ MalformedAt token lines index fault) ∨
      ∃ index fault, readLines token [] 0 lines = .error ⟨index + 1, fault⟩ ∧
        FirstFlaw token lines index fault := by
  -- From the last line, which is read against the source lines that all others gave.
  induction lines using List.reverseRecOn with
  | nil => exact .inl ⟨⟨[], rfl⟩, fun index fault hflaw => Nat.not_lt_zero _ hflaw.lt_length⟩
  | append_singleton lines line ih =>
      rw [readLines_concat]
      rcases ih with ⟨⟨sources, hsources⟩, hsound⟩ | ⟨index, fault, herror, hfirst⟩
      · have hline (fault : FixtureFault) : addLine token sources.reverse lines.length line =
            .error fault ↔ Malformed token lines line fault :=
          addLine_eq_error_iff htoken _ (readLines_targetOf htoken hsources)
        rw [hsources, ok_bind]
        cases hadd : addLine token sources.reverse lines.length line with
        | ok next =>
            refine .inl ⟨⟨_, rfl⟩, fun index fault hflaw => ?_⟩
            rcases malformedAt_concat_iff.mp hflaw with hflaw | ⟨-, hflaw⟩
            · exact hsound index fault hflaw
            · rw [(hline fault).mpr hflaw] at hadd
              cases hadd
        | error fault =>
            have hflaw := (hline fault).mp hadd
            refine .inr ⟨_, fault, rfl, malformedAt_concat_iff.mpr (.inr ⟨rfl, hflaw⟩), ?_⟩
            intro i hi fault hflaw
            rcases malformedAt_concat_iff.mp hflaw with hflaw | ⟨rfl, -⟩
            · exact hsound i fault hflaw
            · exact Nat.lt_irrefl _ hi
      · rw [herror, error_bind]
        have hlt : index + 1 ≤ lines.length := hfirst.malformed.lt_length
        exact .inr ⟨index, fault, rfl, hfirst.of_take_eq (List.take_append_of_le_length hlt)⟩

theorem exists_readLines_iff (htoken : Solid token) :
    (∃ sources, readLines token [] 0 lines = .ok sources) ↔
      ∀ index fault, ¬ MalformedAt token lines index fault := by
  rcases reads_or_firstFlaw htoken lines with ⟨hreads, hsound⟩ | ⟨index, fault, herror, hfirst⟩
  · exact iff_of_true hreads hsound
  · refine iff_of_false ?_ fun hsound => hsound index fault hfirst.malformed
    rw [herror]
    nofun

theorem readLines_eq_error_iff (htoken : Solid token) : readLines token [] 0 lines = .error e ↔
    ∃ index fault, e = ⟨index + 1, fault⟩ ∧ FirstFlaw token lines index fault := by
  rcases reads_or_firstFlaw htoken lines with ⟨⟨sources, hsources⟩, hsound⟩ | ⟨i, f, herror, hfirst⟩
  · rw [hsources]
    refine iff_of_false nofun ?_
    rintro ⟨index, fault, -, hfirst⟩
    exact hsound index fault hfirst.malformed
  · rw [herror, Except.error.injEq]
    constructor
    · rintro rfl
      exact ⟨i, f, rfl, hfirst⟩
    · rintro ⟨index, fault, rfl, hfirst'⟩
      obtain ⟨rfl, rfl⟩ := hfirst.unique htoken hfirst'
      rfl

theorem header?_take {n : Nat} (h : ∃ l ∈ lines.take n, allBlank l = false) :
    header? (lines.take n) = header? lines := by
  have hfind : ((lines.take n).find? fun l => !allBlank l).isSome = true := by
    rw [List.find?_isSome]
    exact h.imp fun l hl => by simpa using hl
  obtain ⟨line, hline⟩ := Option.isSome_iff_exists.mp hfind
  conv_rhs => rw [← List.take_append_drop n lines]
  rw [header?, header?, List.find?_append, hline, Option.some_or]

theorem Annotates.not_allBlank (htoken : Solid token) (h : Annotates token line) :
    allBlank line = false := by
  obtain ⟨indent, gap, text, -, -, -, rfl⟩ := h
  obtain ⟨c, rest, rfl, hc⟩ := htoken
  simp [allBlank, hc]

theorem MalformedAt.exists_not_allBlank (htoken : Solid token)
    (h : MalformedAt token lines index fault) : ∃ l ∈ lines.take (index + 1), allBlank l = false := by
  obtain ⟨line, hline, hflaw⟩ := h
  refine ⟨line, ?_, hflaw.annotates.not_allBlank htoken⟩
  rw [List.take_add_one, hline]
  simp

theorem read?_eq_error_iff : read? text = .error e ↔ ∃ index fault, e = ⟨index + 1, fault⟩ ∧
    FirstFlaw (tokenOf (header? (Text.lines text.toList))) (Text.lines text.toList) index fault := by
  rw [← readLines_eq_error_iff (solid_tokenOf _)]
  exact map_eq_error

theorem exists_read?_iff : (∃ f, read? text = .ok f) ↔ ∀ index fault, ¬ MalformedAt
    (tokenOf (header? (Text.lines text.toList))) (Text.lines text.toList) index fault := by
  rw [← exists_readLines_iff (solid_tokenOf _)]
  simp only [read?, map_eq_ok]
  exact ⟨fun ⟨_, sources, h, _⟩ => ⟨sources, h⟩, fun ⟨sources, h⟩ => ⟨_, sources, h, rfl⟩⟩

theorem read?_eq_error_of_take {other : String} (h : read? text = .error e)
    (htake : (Text.lines other.toList).take e.line = (Text.lines text.toList).take e.line) :
    read? other = .error e := by
  obtain ⟨index, fault, rfl, hfirst⟩ := read?_eq_error_iff.mp h
  have hsome := hfirst.malformed.exists_not_allBlank (solid_tokenOf _)
  have hheader : header? (Text.lines other.toList) = header? (Text.lines text.toList) := by
    rw [← header?_take hsome, ← htake, header?_take (htake ▸ hsome)]
  refine read?_eq_error_iff.mpr ⟨index, fault, rfl, ?_⟩
  rw [hheader]
  exact hfirst.of_take_eq htake

/-- A flaw in front of the first one would be one with the header of the whole text, too. -/
theorem exists_read?_of_take {front : String} (h : read? text = .error e)
    (hfront : Text.lines front.toList = (Text.lines text.toList).take (e.line - 1)) :
    ∃ f, read? front = .ok f := by
  obtain ⟨index, fault, rfl, hfirst⟩ := read?_eq_error_iff.mp h
  rw [Nat.add_sub_cancel] at hfront
  rw [exists_read?_iff, hfront]
  intro i fault' hflaw
  obtain ⟨line, hline, hblank⟩ := hflaw.exists_not_allBlank (solid_tokenOf _)
  have hlt : i < index := hflaw.lt_length.trans_le (List.length_take_le _ _)
  rw [header?_take ⟨line, List.mem_of_mem_take hline, hblank⟩, malformedAt_take_iff hlt] at hflaw
  exact hfirst.before i hlt fault' hflaw

theorem exists_cut_text (text : String) {n : Nat} (hn : n ≤ (Text.lines text.toList).length) :
    ∃ front behind : String, text = front ++ behind ∧
      Text.lines front.toList = (Text.lines text.toList).take n ∧
      Text.lines behind.toList = (Text.lines text.toList).drop n := by
  obtain ⟨front, behind, htext, hfront, hbehind⟩ := Text.exists_cut text.toList hn
  refine ⟨.ofList front, .ofList behind, ?_, by rwa [String.toList_ofList], by rwa [String.toList_ofList]⟩
  rw [← String.ofList_append, ← htext, String.ofList_toList]

/-- Reading fails if and only if a line is malformed, and then it reports the first such line. The lines
up to this one decide it, and the text in front of it can be read. -/
theorem read?_first_flaw (text : String) :
    let lines := Text.lines text.toList
    let token := tokenOf (header? lines)
    ((∃ e, read? text = .error e) ↔ ∃ index fault, MalformedAt token lines index fault) ∧
    (∀ e, read? text = .error e ↔
      ∃ index fault, e = ⟨index + 1, fault⟩ ∧ FirstFlaw token lines index fault) ∧
    ∀ e, read? text = .error e →
      (∀ other : String, (Text.lines other.toList).take e.line = lines.take e.line →
        read? other = .error e) ∧
      ∃ front behind : String, text = front ++ behind ∧
        Text.lines front.toList = lines.take (e.line - 1) ∧
        Text.lines behind.toList = lines.drop (e.line - 1) ∧ ∃ f, read? front = .ok f := by
  refine ⟨?_, fun e => read?_eq_error_iff, fun e he => ⟨fun other => read?_eq_error_of_take he, ?_⟩⟩
  · rw [← not_iff_not]
    push Not
    rw [← exists_read?_iff]
    cases read? text with
    | ok f => simp
    | error e => simp
  · obtain ⟨index, fault, rfl, hfirst⟩ := read?_eq_error_iff.mp he
    have hlt := hfirst.malformed.lt_length
    obtain ⟨front, behind, htext, hfront, hbehind⟩ := exists_cut_text text hlt.le
    exact ⟨front, behind, htext, hfront, hbehind, exists_read?_of_take he hfront⟩

def flawedText : String := "echo\n// ^ a..b .c\n// <~ d"

theorem read?_first_flaw_flawedText :
    let e : FixtureError := ⟨2, .invalidScope (.emptySegment "a..b")⟩
    read? flawedText = .error e ∧ read? "echo\r\n// ^ a..b .c" = .error e ∧
      ∃ front behind : String, flawedText = front ++ behind ∧
        Text.lines front.toList = ["echo".toList] ∧ ∃ f, read? front = .ok f := by
  intro e
  have he : read? flawedText = .error e := by cbv
  obtain ⟨hsame, front, behind, htext, hfront, -, hread⟩ := (read?_first_flaw flawedText).2.2 e he
  have hlines : (Text.lines flawedText.toList).take 1 = ["echo".toList] := by cbv
  exact ⟨he, hsame _ (by cbv), front, behind, htext, hfront.trans hlines, hread⟩

end Scopemark.Fixture
