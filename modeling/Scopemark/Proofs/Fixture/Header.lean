import Scopemark.Fixture.Header
import Scopemark.Fixture.Mark
import Scopemark.Proofs.Text.Blank

namespace Scopemark.Fixture

open Text

variable {token line text : List Char}

def OpensMark (text : List Char) : Prop :=
  ['^'] <+: text ∨ ['<', '~'] <+: text ∨ ['<', '-'] <+: text

def Annotates (token line : List Char) : Prop :=
  ∃ indent gap text, Blanks indent ∧ Blanks gap ∧ OpensMark text ∧
    line = indent ++ (token ++ (gap ++ text))

theorem OpensMark.solid (h : OpensMark text) : Solid text := by
  rcases h with ⟨rest, rfl⟩ | ⟨rest, rfl⟩ | ⟨rest, rfl⟩ <;> exact ⟨_, _, rfl, by decide⟩

theorem markText?_of_opensMark (htoken : Solid token) {indent gap : List Char} (hindent : Blanks indent)
    (hgap : Blanks gap) (h : OpensMark text) :
    markText? token (indent ++ (token ++ (gap ++ text))) = some text := by
  unfold markText?
  rw [trimStart_append hindent, (htoken.append _).trimStart]
  dsimp only
  rw [if_pos (List.isPrefixOf_iff_prefix.mpr (List.prefix_append _ _)), List.drop_left,
    trimStart_append hgap, h.solid.trimStart]
  rcases h with ⟨rest, rfl⟩ | ⟨rest, rfl⟩ | ⟨rest, rfl⟩ <;> rfl

theorem exists_of_markText?_eq_some (h : markText? token line = some text) :
    OpensMark text ∧ ∃ indent gap, Blanks indent ∧ Blanks gap ∧
      line = indent ++ (token ++ (gap ++ text)) := by
  unfold markText? at h
  dsimp only at h
  split at h
  next hprefix =>
    obtain ⟨behind, hbehind⟩ := List.isPrefixOf_iff_prefix.mp hprefix
    rw [← hbehind, List.drop_left] at h
    obtain ⟨indent, hindent, hline⟩ := exists_trimStart line
    obtain ⟨gap, hgap, hbehind'⟩ := exists_trimStart behind
    have hopens : OpensMark text ∧ trimStart behind = text := by
      split at h
      next rest hrest => cases h; exact ⟨.inl ⟨rest, rfl⟩, hrest⟩
      next rest hrest => cases h; exact ⟨.inr (.inl ⟨rest, rfl⟩), hrest⟩
      next rest hrest => cases h; exact ⟨.inr (.inr ⟨rest, rfl⟩), hrest⟩
      next => cases h
    refine ⟨hopens.1, indent, gap, hindent, hgap, ?_⟩
    rw [← hopens.2, ← hbehind', hbehind]
    exact hline
  next => cases h

theorem annotates_iff (htoken : Solid token) :
    Annotates token line ↔ (markText? token line).isSome = true := by
  rw [Option.isSome_iff_exists]
  constructor
  · rintro ⟨indent, gap, text, hindent, hgap, hopens, rfl⟩
    exact ⟨text, markText?_of_opensMark htoken hindent hgap hopens⟩
  · rintro ⟨text, h⟩
    obtain ⟨hopens, indent, gap, hindent, hgap, rfl⟩ := exists_of_markText?_eq_some h
    exact ⟨indent, gap, text, hindent, hgap, hopens, rfl⟩

theorem eq_append_of_cutAround {mark cs before behind : List Char}
    (h : cutAround mark cs = some (before, behind)) : cs = before ++ (mark ++ behind) := by
  induction cs generalizing before with
  | nil =>
      unfold cutAround at h
      split at h
      next hmark =>
        cases h
        rw [List.isEmpty_iff.mp hmark]
        rfl
      next => cases h
  | cons c rest ih =>
      unfold cutAround at h
      split at h
      next hmark =>
        obtain ⟨after, hafter⟩ := List.isPrefixOf_iff_prefix.mp hmark
        rw [← hafter, List.drop_left] at h
        cases h
        exact hafter.symm
      next =>
        obtain ⟨⟨before', behind'⟩, hcut, he⟩ := Option.map_eq_some_iff.mp h
        cases he
        exact congrArg (c :: ·) (ih hcut)

/-- The cut is at the first place where `mark` stands. -/
theorem cutAround_append {mark before behind : List Char} 
    (hfirst : ∀ b, b <:+ before → b ≠ [] → ¬ mark <+: b ++ (mark ++ behind)) :
    cutAround mark (before ++ (mark ++ behind)) = some (before, behind) := by
  induction before with
  | nil =>
      cases hmark : mark ++ behind with
      | nil =>
          obtain ⟨rfl, rfl⟩ := List.append_eq_nil_iff.mp hmark
          rfl
      | cons c rest =>
          rw [List.nil_append, cutAround, if_pos, ← hmark, List.drop_left]
          exact List.isPrefixOf_iff_prefix.mpr ⟨behind, hmark⟩
  | cons c before ih =>
      have hnot : ¬ mark <+: c :: (before ++ (mark ++ behind)) :=
        hfirst (c :: before) (List.suffix_refl _) (List.cons_ne_nil _ _)
      rw [List.cons_append, cutAround, if_neg (mt List.isPrefixOf_iff_prefix.mp hnot),
        ih fun b hb => hfirst b (hb.trans (List.suffix_cons c before))]
      rfl

theorem readHeader?_eq_some {h : FixtureHeader} (hread : readHeader? line = some h) :
    ∃ before behind, trim line = before ++ (headerMark ++ behind) ∧
      h.commentToken.toList = trimEnd before ∧ trimEnd before ≠ [] := by
  unfold readHeader? at hread
  obtain ⟨⟨before, behind⟩, hcut, hread⟩ := Option.bind_eq_some_iff.mp hread
  dsimp only at hread
  split at hread
  · cases hread
  next htoken =>
    obtain ⟨⟨scopeName, rest⟩, _, hread⟩ := Option.bind_eq_some_iff.mp hread
    obtain ⟨⟨suite, rest⟩, _, hread⟩ := Option.bind_eq_some_iff.mp hread
    cases hread
    refine ⟨before, behind, eq_append_of_cutAround hcut, String.toList_ofList, ?_⟩
    simpa using htoken

theorem solid_of_readHeader? {h : FixtureHeader} (hread : readHeader? line = some h) :
    Solid h.commentToken.toList := by
  obtain ⟨before, behind, htrim, htoken, hne⟩ := readHeader?_eq_some hread
  obtain ⟨g, _, hbefore⟩ := exists_trimEnd before
  have hsolid : Solid (trim line) := by
    refine solid_trim fun hnil => hne ?_
    rw [hnil] at htrim
    rw [(List.append_eq_nil_iff.mp htrim.symm).1]
    rfl
  rw [htoken]
  rw [htrim, hbefore, List.append_assoc] at hsolid
  exact hsolid.of_append hne

theorem solid_tokenOf (lines : List (List Char)) : Solid (tokenOf (header? lines)) := by
  unfold tokenOf
  cases h : header? lines with
  | none => exact ⟨_, _, rfl, by decide⟩
  | some header =>
      obtain ⟨line, _, hread⟩ := Option.bind_eq_some_iff.mp h
      exact solid_of_readHeader? hread

theorem markText?_of_readHeader? {h : FixtureHeader} (hread : readHeader? line = some h) :
    markText? h.commentToken.toList line = none := by
  have htoken := solid_of_readHeader? hread
  obtain ⟨before, behind, htrim, htrimEnd, -⟩ := readHeader?_eq_some hread
  obtain ⟨indent, tail, hindent, -, hline⟩ := exists_trim line
  obtain ⟨gap, hgap, hbefore⟩ := exists_trimEnd before
  have hmark : Solid (headerMark ++ (behind ++ tail)) := ⟨'S', _, rfl, by decide⟩
  have hform : line =
      indent ++ (h.commentToken.toList ++ (gap ++ (headerMark ++ (behind ++ tail)))) := by
    rw [htrimEnd, ← List.append_assoc _ gap, ← hbefore, ← List.append_assoc headerMark,
      ← List.append_assoc before, ← htrim]
    exact hline
  rw [hform, markText?, trimStart_append hindent, (htoken.append _).trimStart]
  rw [if_pos (List.isPrefixOf_iff_prefix.mpr (List.prefix_append _ _)), List.drop_left,
    trimStart_append hgap, hmark.trimStart]
  rfl

def quote (text : String) : List Char := '\x22' :: (text.toList ++ ['\x22'])

def headerLine (h : FixtureHeader) : List Char :=
  h.commentToken.toList ++ ' ' :: (headerMark ++ ' ' :: (quote h.scopeName ++ ' ' :: quote h.suite))

structure Proper (h : FixtureHeader) : Prop where
  ne_empty : h.commentToken ≠ ""
  trimmed : trim h.commentToken.toList = h.commentToken.toList
  noFeed : '\n' ∉ h.commentToken.toList
  noMark : ¬ headerMark <:+: h.commentToken.toList
  scopeName : '\x22' ∉ h.scopeName.toList
  suite : '\x22' ∉ h.suite.toList

theorem Proper.ne_nil {h : FixtureHeader} (hproper : Proper h) : h.commentToken.toList ≠ [] :=
  fun hnil => hproper.ne_empty (String.toList_eq_nil_iff.mp hnil)

theorem Proper.solid {h : FixtureHeader} (hproper : Proper h) : Solid h.commentToken.toList := by
  rw [← hproper.trimmed]
  apply solid_trim
  rw [hproper.trimmed]
  exact hproper.ne_nil

theorem Proper.closed {h : FixtureHeader} (hproper : Proper h) : Closed h.commentToken.toList := by
  have htrim : trimEnd h.commentToken.toList = h.commentToken.toList := by
    have htrim := hproper.trimmed
    rwa [trim, hproper.solid.trimStart] at htrim
  rw [← htrim]
  apply closed_trimEnd
  rw [htrim]
  exact hproper.ne_nil

theorem cutAround_quote {rest : List Char} {text : String} (h : '\x22' ∉ text.toList) :
    cutAround ['\x22'] (text.toList ++ '\x22' :: rest) = some (text.toList, rest) := by
  have hfirst : ∀ b, b <:+ text.toList → b ≠ [] → ¬ ['\x22'] <+: b ++ (['\x22'] ++ rest) := by
    intro b hb hne hprefix
    cases b with
    | nil => exact hne rfl
    | cons c b =>
        obtain ⟨rfl, -⟩ := List.cons_prefix_cons.mp hprefix
        exact h (hb.subset List.mem_cons_self)
  exact cutAround_append hfirst

theorem quoted?_quote {text : String} {rest : List Char} (h : '\x22' ∉ text.toList) :
    quoted? (' ' :: (quote text ++ rest)) = some (text.toList, rest) := by
  have htrim : trimStart (' ' :: (quote text ++ rest)) =
      '\x22' :: (text.toList ++ '\x22' :: rest) := by
    rw [quote, List.cons_append, List.append_assoc]
    rfl
  rw [quoted?, htrim]
  exact cutAround_quote h

/-- What is behind the one blank in the mark begins unlike the mark, so that no mark reaches from in
front of a blank and a mark into that mark. -/
theorem headerMark_prefix_of_append {b rest : List Char}
    (h : headerMark <+: b ++ ' ' :: (headerMark ++ rest)) : headerMark <+: b := by
  rcases List.prefix_or_prefix_of_prefix h (List.prefix_append _ _) with hb | ⟨t, hmark⟩
  · exact hb
  have ht : t <+: ' ' :: (headerMark ++ rest) :=
    (List.prefix_append_right_inj b).mp (by rwa [hmark])
  cases t with
  | nil => exact ⟨[], by rw [← hmark, List.append_nil, List.append_nil]⟩
  | cons c t =>
      obtain ⟨rfl, ht'⟩ := List.cons_prefix_cons.mp ht
      have hdrop : headerMark.drop b.length = ' ' :: t := by rw [← hmark, List.drop_left]
      have hlength : b.length < 11 := by
        have hlength := congrArg List.length hmark
        rw [List.length_append, List.length_cons, show headerMark.length = 11 from rfl] at hlength
        omega
      have hblank : ∀ i < 11, (headerMark.drop i).head? = some ' ' →
          (headerMark.drop i).tail.head? = some 'T' := by decide
      have hT := hblank b.length hlength (by rw [hdrop]; rfl)
      rw [hdrop, List.tail_cons] at hT
      obtain ⟨t, rfl⟩ := List.head?_eq_some_iff.mp hT
      obtain ⟨hTS, -⟩ := List.cons_prefix_cons.mp ht'
      exact absurd hTS (by decide)

theorem cutAround_headerMark {token rest : List Char} (h : ¬ headerMark <:+: token) :
    cutAround headerMark (token ++ ' ' :: (headerMark ++ rest)) = some (token ++ [' '], rest) := by
  have hfirst : ∀ b, b <:+ token ++ [' '] → b ≠ [] → ¬ headerMark <+: b ++ (headerMark ++ rest) := by
    intro b hb hne hprefix
    rcases List.suffix_concat_iff.mp hb with rfl | ⟨b, rfl, hb'⟩
    · exact hne rfl
    · rw [List.append_assoc] at hprefix
      exact h ((headerMark_prefix_of_append hprefix).isInfix.trans hb'.isInfix)
  have hcut := cutAround_append hfirst
  rwa [List.append_assoc] at hcut

theorem readHeader?_headerLine {h : FixtureHeader} (hproper : Proper h) :
    readHeader? (headerLine h) = some h := by
  have hclosed : Closed (headerLine h) := by
    have hquote : Closed ['\x22'] := ⟨_, _, rfl, by decide⟩
    have hline := hquote.prepend (h.commentToken.toList ++ ' ' :: (headerMark ++ ' ' ::
      (quote h.scopeName ++ ' ' :: '\x22' :: h.suite.toList)))
    simpa [headerLine, quote] using hline
  have htrim : trim (headerLine h) = headerLine h := by
    rw [trim, headerLine, (hproper.solid.append _).trimStart]
    exact hclosed.trimEnd
  have htoken : trimEnd (h.commentToken.toList ++ [' ']) = h.commentToken.toList :=
    hproper.closed.trimEnd_append (by simp [Blanks]; decide)
  have hsuite : quoted? (' ' :: (quote h.suite ++ [])) = some (h.suite.toList, []) :=
    quoted?_quote hproper.suite
  rw [List.append_nil] at hsuite
  rw [readHeader?, htrim, headerLine, cutAround_headerMark hproper.noMark]
  simp [htoken, hproper.ne_nil, quoted?_quote hproper.scopeName, hsuite, String.ofList_toList]

end Scopemark.Fixture
