import Scopemark.Proofs.Fixture.Draft
import Scopemark.Proofs.Scope.Basic

namespace Scopemark.Fixture

open Text

variable {token target tail : List Char} {blank : Nat → Char} {gap : Nat → List Char} {n : Note}
  {run : ColumnSpan} {runs : List ColumnSpan} {column start stop : Nat}

theorem word_name (s : Scope) : Word s.name.toList := by
  refine ⟨s.toList_name_ne_nil, fun c hc => ?_⟩
  exact eq_false_of_ne_true (List.any_eq_false.mp s.noBlank c hc)

theorem word_of_mem_words {word : List Char} (h : word ∈ n.words) : Word word := by
  have hhyphen : Word ['-'] := ⟨List.cons_ne_nil _ _, List.forall_mem_singleton.mpr rfl⟩
  unfold Note.words at h
  rcases List.mem_append.mp h with h | h
  · obtain ⟨s, -, rfl⟩ := List.mem_map.mp h
    exact word_name s
  · split at h
    · cases h
    rcases List.mem_cons.mp h with rfl | h
    · exact hhyphen
    · obtain ⟨s, -, rfl⟩ := List.mem_map.mp h
      exact word_name s

theorem words_ne_nil (h : ¬ (n.expected = [] ∧ n.excluded = [])) : n.words ≠ [] := by
  unfold Note.words
  split
  next hnil => simpa [hnil] using h
  next => simp

theorem head?_spaced (hgap : Gaps gap) {words : List (List Char)}
    {i : Nat} : ∀ c ∈ (spaced gap i words).head?, isBlank c = true := by
  intro c hc
  cases words with
  | nil => cases hc
  | cons word words =>
      obtain ⟨hne, hspace⟩ := hgap i
      rw [spaced, List.head?_append_of_ne_nil _ hne] at hc
      exact (hspace c (List.mem_of_mem_head? hc)).1

theorem words_spaced (hgap : Gaps gap) {words : List (List Char)}
    (hwords : ∀ word ∈ words, Word word) (i : Nat) : Text.words (spaced gap i words) = words := by
  induction words generalizing i with
  | nil => rfl
  | cons word words ih =>
      obtain ⟨hword, hwords⟩ := List.forall_mem_cons.mp hwords
      have hblanks : Blanks (gap i) := fun c hc => ((hgap i).2 c hc).1
      rw [spaced, words_append_blanks hblanks, hword.words_append (head?_spaced hgap), ih hwords]

theorem readScopes_name {s : Scope} (hs : s.name ≠ "-") {excluding : Bool} {rest : List (List Char)} :
    readScopes excluding (s.name.toList :: rest) = (readScopes excluding rest).map fun lists =>
      if excluding then { lists with excluded := s :: lists.excluded }
      else { lists with expected := s :: lists.expected } := by
  have hne : s.name.toList ≠ ['-'] := fun h => hs (String.toList_inj.mp h)
  rw [readScopes, if_neg hne, String.ofList_toList, Scope.ofString?_name]

theorem readScopes_excluded {excluded : List Scope} (h : ∀ s ∈ excluded, s.name ≠ "-") :
    readScopes true (excluded.map fun s => s.name.toList) = .ok ⟨[], excluded⟩ := by
  induction excluded with
  | nil => rfl
  | cons s excluded ih =>
      obtain ⟨hs, hrest⟩ := List.forall_mem_cons.mp h
      rw [List.map_cons, readScopes_name hs, ih hrest]
      rfl

theorem readScopes_words (h : ∀ s ∈ n.expected ++ n.excluded, s.name ≠ "-") :
    readScopes false n.words = .ok ⟨n.expected, n.excluded⟩ := by
  have hexcluded : ∀ s ∈ n.excluded, s.name ≠ "-" := fun s hs => h s (List.mem_append_right _ hs)
  obtain ⟨mark, expected, excluded, indent, blank, gap⟩ := n
  unfold Note.words
  dsimp only at h hexcluded ⊢
  induction expected with
  | nil =>
      split
      next hnil => rw [hnil]; rfl
      next =>
        rw [List.map_nil, List.nil_append, readScopes, if_pos rfl, readScopes_excluded hexcluded]
  | cons s expected ih =>
      obtain ⟨hs, hrest⟩ := List.forall_mem_cons.mp h
      rw [List.map_cons, List.cons_append, readScopes_name hs, ih hrest]
      rfl

theorem blanks_fill (h : ∀ i, Space (blank i)) : Blanks (fill blank start stop) := by
  intro c hc
  obtain ⟨i, -, rfl⟩ := List.mem_map.mp hc
  exact (h i).1

theorem length_fill : (fill blank start stop).length = stop - start := by
  rw [fill, List.length_map, List.length_range']

theorem head?_fill (h : ∀ i, Space (blank i)) (hlt : start < stop) {cs : List Char} :
    ∀ c ∈ (fill blank start stop ++ cs).head?, isBlank c = true := by
  have hfill : fill blank start stop = blank start :: fill blank (start + 1) stop := by
    unfold fill
    rw [show stop - start = stop - (start + 1) + 1 by omega, List.range'_succ, List.map_cons]
  rw [hfill]
  rintro _ ⟨⟩
  exact (h start).1

theorem beq_of_mem_replicate {c d : Char} {k : Nat} (h : d ∈ List.replicate k c) : (d == c) = true := by
  rw [List.eq_of_mem_replicate h]
  exact beq_self_eq_true c

theorem ne_of_blank {c d : Char} (hd : isBlank d = false) (hc : isBlank c = true) : (c == d) = false := by
  rw [beq_eq_false_iff_ne]
  rintro rfl
  rw [hd] at hc
  cases hc

theorem readCarets_of_head? {cs : List Char} (h : ∀ c ∈ cs.head?, (c == '^') = false) :
    readCarets column cs = ([], cs) := by
  have hnil : ([] ++ cs).takeWhile (· == '^') = [] := takeWhile_append_of_stop (by simp) h
  rw [readCarets]
  split
  next => rfl
  next hcons =>
    rw [← List.nil_append cs, hnil] at hcons
    cases hcons

theorem readCarets_run {rest : List Char} (h : ∀ c ∈ rest.head?, (c == '^') = false) :
    readCarets run.start (List.replicate run.width '^' ++ rest) =
      (run :: (readCarets (run.stop + 1 + (rest.takeWhile isBlank).length) (trimStart rest)).1,
        (readCarets (run.stop + 1 + (rest.takeWhile isBlank).length) (trimStart rest)).2) := by
  have hcarets : ∀ c ∈ List.replicate run.width '^', (c == '^') = true :=
    fun _ => beq_of_mem_replicate
  have htake := takeWhile_append_of_stop hcarets h
  have hdrop := dropWhile_append_of_stop hcarets h
  obtain ⟨start, stop, hle⟩ := run
  rw [readCarets]
  split
  next hnil =>
    rw [htake] at hnil
    cases hnil
  next c more hcons =>
    have hlength := congrArg List.length (htake.symm.trans hcons)
    rw [List.length_replicate, List.length_cons, ColumnSpan.width] at hlength
    have hstop : start + more.length = stop := by
      dsimp only at hlength
      omega
    simp only [hdrop, hstop, trimStart]

theorem readCarets_carets (hblank : ∀ i, Space (blank i))
    (htail : ∀ c ∈ tail.head?, (c == '^') = false)
    (htrim : ∀ c ∈ (trimStart tail).head?, (c == '^') = false) (hspread : Spread (run.stop + 2) runs) :
    readCarets run.start (List.replicate run.width '^' ++ (carets blank (run.stop + 1) runs ++ tail)) =
      (run :: runs, trimStart tail) := by
  induction runs generalizing run with
  | nil => rw [carets, List.nil_append, readCarets_run htail, readCarets_of_head? htrim]
  | cons next runs ih =>
      obtain ⟨hstart, hspread⟩ := hspread
      have hsolid : Solid (List.replicate next.width '^' ++ (carets blank (next.stop + 1) runs ++ tail)) :=
        ⟨_, _, rfl, by decide⟩
      have hfill : Blanks (fill blank (run.stop + 1) next.start) := blanks_fill hblank
      -- `Spread` leaves a column for a blank between two runs, so the first run ends there.
      have hstop : ∀ c ∈ (fill blank (run.stop + 1) next.start ++
          (List.replicate next.width '^' ++ (carets blank (next.stop + 1) runs ++ tail))).head?,
          (c == '^') = false :=
        fun c hc => ne_of_blank (by decide) (head?_fill hblank (Nat.lt_of_succ_le hstart) c hc)
      rw [carets, List.append_assoc, List.append_assoc, readCarets_run hstop, trimStart_append hfill,
        hsolid.trimStart, takeWhile_append_of_stop hfill hsolid.head?, length_fill,
        Nat.add_sub_cancel' (Nat.le_of_lt hstart), ih hspread]

theorem readMark_of_readCarets {cs : List Char} (h : readCarets column ('^' :: cs) = (runs, tail)) :
    readMark column ('^' :: cs) = .ok (.carets runs, tail) := by
  rw [readMark, h]
  rintro rest ⟨⟩

theorem readArrow_arrow {offset more : Nat} (h : ∀ c ∈ tail.head?, (c == '-') = false) :
    readArrow (List.replicate offset '~' ++ (List.replicate (more + 1) '-' ++ tail)) =
      some (.arrow offset more, tail) := by
  have htildes : ∀ c ∈ List.replicate offset '~', (c == '~') = true := fun _ => beq_of_mem_replicate
  have hdashes : ∀ c ∈ List.replicate (more + 1) '-', (c == '-') = true :=
    fun _ => beq_of_mem_replicate
  have hstop : ∀ c ∈ (List.replicate (more + 1) '-' ++ tail).head?, (c == '~') = false := by
    rintro _ ⟨⟩
    rfl
  rw [readArrow, dropWhile_append_of_stop htildes hstop, takeWhile_append_of_stop htildes hstop,
    dropWhile_append_of_stop hdashes h, takeWhile_append_of_stop hdashes h, List.replicate_succ]
  simp only [List.length_replicate]

structure RowReads (token : List Char) (n : Note) (white text behind : List Char) : Prop where
  row : n.row token = token ++ (white ++ text)
  blanks : Blanks white
  opens : OpensMark text
  mark : readMark (token.length + white.length) text = .ok (n.mark, behind)
  words : Text.words behind = n.words

theorem trimStart_spaced (hgap : Gaps gap) {word : List Char}
    {words : List (List Char)} {i : Nat} (hword : Word word) :
    trimStart (spaced gap i (word :: words)) = word ++ spaced gap (i + 1) words := by
  rw [spaced, trimStart_append fun c hc => ((hgap i).2 c hc).1, (hword.solid.append _).trimStart]

/-- What is behind carets does not go on with them. -/
theorem Note.Fits.head?_trimStart (hfits : n.Fits token target) (hmark : n.mark = .carets runs) :
    ∀ c ∈ (trimStart (spaced n.gap 0 n.words)).head?, (c == '^') = false := by
  have hcaret : ∀ word ∈ n.words.head?, ¬ ['^'] <+: word := by
    intro word hword
    unfold Note.words at hword
    cases hexpected : n.expected with
    | nil =>
        rw [hexpected, List.map_nil, List.nil_append] at hword
        split at hword
        · cases hword
        · cases hword
          decide
    | cons s expected =>
        rw [hexpected] at hword
        cases hword
        exact hfits.caret runs hmark s (by rw [hexpected]; rfl)
  have hwords : ∀ word ∈ n.words, Word word := fun _ => word_of_mem_words
  cases hlist : n.words with
  | nil => exact absurd hlist (words_ne_nil hfits.scopes)
  | cons word words =>
      have hword := hwords word (by rw [hlist]; exact List.mem_cons_self)
      rw [trimStart_spaced hfits.gap hword, List.head?_append_of_ne_nil _ hword.ne_nil]
      intro c hc
      rw [beq_eq_false_iff_ne]
      rintro rfl
      obtain ⟨rest, rfl⟩ := List.head?_eq_some_iff.mp hc
      exact hcaret _ (by rw [hlist]; rfl) ⟨rest, rfl⟩

theorem Note.Fits.words_spaced (hfits : n.Fits token target) :
    Text.words (spaced n.gap 0 n.words) = n.words :=
  Fixture.words_spaced hfits.gap (fun _ => word_of_mem_words) 0

theorem Note.Fits.rowReads_arrow (hfits : n.Fits token target) {offset more : Nat}
    (hmark : n.mark = .arrow offset more) :
    RowReads token n (fill n.blank token.length (token.length + n.indent))
      (arrow offset more ++ spaced n.gap 0 n.words) (spaced n.gap 0 n.words) where
  row := by rw [Note.row, Note.markFrom, hmark, List.append_assoc]
  blanks := blanks_fill hfits.blank
  opens := by
    cases offset with
    | zero => exact .inr (.inr ⟨_, rfl⟩)
    | succ offset => exact .inr (.inl ⟨_, rfl⟩)
  mark := by
    have hdash : ∀ c ∈ (spaced n.gap 0 n.words).head?, (c == '-') = false :=
      fun c hc => ne_of_blank (by decide) (head?_spaced hfits.gap c hc)
    rw [arrow, List.cons_append, List.append_assoc, readMark, readArrow_arrow hdash, hmark]
  words := hfits.words_spaced

theorem Note.Fits.rowReads_carets (hfits : n.Fits token target) (hmark : n.mark = .carets (run :: runs)) :
    RowReads token n (fill n.blank token.length run.start)
      (List.replicate run.width '^' ++ (carets n.blank (run.stop + 1) runs ++ spaced n.gap 0 n.words))
      (trimStart (spaced n.gap 0 n.words)) where
  row := by
    rw [Note.row, Note.markFrom, hmark]
    dsimp only
    rw [carets, List.append_assoc, List.append_assoc]
  blanks := blanks_fill hfits.blank
  opens := .inl ⟨_, rfl⟩
  mark := by
    have hplaced := hfits.placed
    rw [hmark] at hplaced
    obtain ⟨-, hstart, hspread⟩ := hplaced
    have hcaret : ∀ c ∈ (spaced n.gap 0 n.words).head?, (c == '^') = false :=
      fun c hc => ne_of_blank (by decide) (head?_spaced hfits.gap c hc)
    have hread := readCarets_carets hfits.blank hcaret (hfits.head?_trimStart hmark) hspread
    rw [length_fill, Nat.add_sub_cancel' hstart, hmark]
    exact readMark_of_readCarets hread
  words := by rw [words_trimStart, hfits.words_spaced]

theorem Note.Fits.exists_rowReads (hfits : n.Fits token target) :
    ∃ white text behind, RowReads token n white text behind := by
  cases hmark : n.mark with
  | arrow offset more => exact ⟨_, _, _, hfits.rowReads_arrow hmark⟩
  | carets runs =>
      cases runs with
      | nil =>
          have hplaced := hfits.placed
          rw [hmark] at hplaced
          exact absurd rfl hplaced.1
      | cons run runs => exact ⟨_, _, _, hfits.rowReads_carets hmark⟩

theorem Note.Fits.reads (htoken : Solid token) {target : SourceLine}
    (hfits : n.Fits token target.text.toList) (index : Nat) :
    ∃ text, markText? token (n.row token) = some text ∧
      readAssertions target index ((n.row token).length - text.length) text =
        .ok (n.assertions target index) := by
  obtain ⟨white, text, behind, hrow, hblanks, hopens, hmark, hwords⟩ := hfits.exists_rowReads
  have hcolumn : (n.row token).length - text.length = token.length + white.length := by
    rw [hrow, List.length_append, List.length_append]
    omega
  refine ⟨text, ?_, readAssertions_eq_ok_iff.mpr ⟨n.mark, behind, ⟨n.expected, n.excluded⟩, ?_, ?_, ?_⟩⟩
  · rw [hrow]
    have hindent : Blanks [] := fun _ hc => absurd hc List.not_mem_nil
    exact markText?_of_opensMark htoken hindent hblanks hopens
  · rw [hcolumn, hmark]
  · rw [hwords, readScopes_words hfits.hyphen]
  · exact ⟨hfits.scopes, hfits.within, rfl⟩

theorem noFeed_spaced (hgap : Gaps gap) {words : List (List Char)}
    (hwords : ∀ word ∈ words, Word word) (i : Nat) : '\n' ∉ spaced gap i words := by
  induction words generalizing i with
  | nil => exact List.not_mem_nil
  | cons word words ih =>
      obtain ⟨hword, hwords⟩ := List.forall_mem_cons.mp hwords
      rw [spaced, List.mem_append, List.mem_append]
      rintro (hmem | hmem | hmem)
      · exact ((hgap i).2 _ hmem).2 rfl
      · exact hword.noFeed hmem
      · exact ih hwords (i + 1) hmem

theorem closed_spaced {words : List (List Char)} (hwords : ∀ word ∈ words, Word word)
    (hne : words ≠ []) (i : Nat) : Closed (spaced gap i words) := by
  induction words generalizing i with
  | nil => exact absurd rfl hne
  | cons word words ih =>
      obtain ⟨hword, hwords⟩ := List.forall_mem_cons.mp hwords
      rw [spaced]
      apply Closed.prepend
      cases words with
      | nil => rw [spaced, List.append_nil]; exact hword.closed
      | cons other words => exact (ih hwords (List.cons_ne_nil _ _) (i + 1)).prepend word

theorem noFeed_fill (h : ∀ i, Space (blank i)) : '\n' ∉ fill blank start stop := by
  intro hmem
  obtain ⟨i, -, hi⟩ := List.mem_map.mp hmem
  exact (h i).2 hi

theorem noFeed_carets (h : ∀ i, Space (blank i)) (column : Nat) : '\n' ∉ carets blank column runs := by
  induction runs generalizing column with
  | nil => exact List.not_mem_nil
  | cons run runs ih =>
      rw [carets, List.mem_append, List.mem_append]
      rintro (hmem | hmem | hmem)
      · exact noFeed_fill h hmem
      · exact absurd (List.eq_of_mem_replicate hmem) (by decide)
      · exact ih _ hmem

theorem Note.Fits.noFeed_markFrom (hfits : n.Fits token target) : '\n' ∉ n.markFrom column := by
  unfold Note.markFrom
  split
  · exact noFeed_carets hfits.blank column
  · rw [List.mem_append]
    rintro (hmem | hmem)
    · exact noFeed_fill hfits.blank hmem
    · simp [arrow] at hmem

theorem Note.Fits.oneLine (hfits : n.Fits token target) (htoken : '\n' ∉ token) :
    OneLine (n.row token) := by
  have hwords : ∀ word ∈ n.words, Word word := fun _ => word_of_mem_words
  constructor
  · rw [Note.row, List.mem_append, List.mem_append]
    rintro (hmem | hmem | hmem)
    · exact htoken hmem
    · exact hfits.noFeed_markFrom hmem
    · exact noFeed_spaced hfits.gap hwords 0 hmem
  · have hclosed : Closed (n.row token) :=
      ((closed_spaced hwords (words_ne_nil hfits.scopes) 0).prepend _).prepend _
    obtain ⟨c, rest, hrow, hc⟩ := hclosed
    rw [← List.head?_reverse, hrow]
    rintro ⟨⟩
    exact absurd hc (by decide)

end Scopemark.Fixture
