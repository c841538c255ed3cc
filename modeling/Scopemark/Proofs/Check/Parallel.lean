import Mathlib
import Scopemark.Proofs.Check.Counts
import Scopemark.Proofs.Check.Related
import Scopemark.Proofs.Oracle.Sections
import Scopemark.Proofs.Oracle.Sharing

namespace Scopemark

namespace Sections

variable {α β : Type} {g : Grammar} {text : String} {rest : Sections α}

/-- Until `rest` is left, the computation asks for the tokens of the text, which no section drops. -/
inductive Reads (g : Grammar) (text : String) (rest : Sections α) : Sections α → Prop
  | rest : Reads g text rest rest
  | lookUp {next : Option TokenizedText → Sections α}
      (h : ∀ found, (∀ tokens, found = some tokens → tokens = g.tokenize text) →
        Reads g text rest (next found)) : Reads g text rest (.lookUp text next)
  | keep {next : Sections α} (h : Reads g text rest next) :
      Reads g text rest (.keep text (g.tokenize text) next)

def Gives (g : Grammar) (text : String) (α : Type) (x : Sections α) (a : Id α) : Prop :=
  Reads g text (.done a) x

theorem Gives.bind_reads {x : Sections α} {a : α} {f : α → Sections β} {rest : Sections β}
    (hx : Gives g text α x a) (hf : Reads g text rest (f a)) : Reads g text rest (x >>= f) := by
  unfold Gives at hx
  induction hx with
  | rest => exact hf
  | lookUp _ ih => exact .lookUp ih
  | keep _ ih => exact .keep ih

theorem gives_congruent (g : Grammar) (text : String) : Congruent (Gives g text) where
  pure _ := .rest
  bind hx hf := hx.bind_reads (hf _)

theorem documentInSections_gives :
    Gives g text _ (g.documentInSections text) (g.tokenize text) := by
  refine .lookUp fun found hfound => ?_
  cases found with
  | none => exact .keep .rest
  | some tokens => exact hfound tokens rfl ▸ .rest

theorem oracleInSections_relatedOn :
    g.oracleInSections.RelatedOn (Gives g text) (.ofFunction g.scopesIn) text :=
  fun _ _ => documentInSections_gives.bind_reads .rest

theorem alone_congruent (key : String → UInt64) :
    Congruent fun α (x : Sections α) (y : StateM Cache α) => x.alone key = y where
  pure _ := rfl
  bind hx hf := by rw [alone_bind, hx, funext hf]

end Sections

namespace Check

variable {g : Grammar} {key : String → UInt64} {mode : MatchMode} {fs : Files} {path : FilePath} {text : String}

/-- The sections of a check are those that the oracle of the grammar goes through. -/
theorem alone_checkFile (g : Grammar) (key : String → UInt64) (mode : MatchMode) (fs : Files)
    (path : FilePath) : (checkFile g.oracleInSections mode fs path).alone key =
      checkFile (g.oracle key) mode fs path :=
  checkFile_related (Sections.alone_congruent key)
    ⟨fun _ => Grammar.alone_scopesAt, fun _ => Grammar.alone_release⟩ path

/-- What is left of the check of a file: nothing, or questions about the text of the file, and after
them to release the text. -/
inductive Remains (g : Grammar) (fs : Files) (path : FilePath) (summary : FileSummary) :
    Sections FileSummary → Prop
  | done : Remains g fs path summary (.done summary)
  | reads {text : String} {p : Sections FileSummary} (read : fs.readText path = .ok text)
      (h : Sections.Reads g text (.evict text (.done summary)) p) : Remains g fs path summary p

def summaryOf (g : Grammar) (mode : MatchMode) (fs : Files) (path : FilePath) : FileSummary :=
  checkFile (.ofFunction g.scopesIn) mode fs path

theorem checkFile_remains (g : Grammar) (mode : MatchMode) (fs : Files) (path : FilePath) :
    Remains g fs path (summaryOf g mode fs path) (checkFile g.oracleInSections mode fs path) := by
  unfold summaryOf checkFile
  cases hread : fs.readText path with
  | error e => exact .done
  | ok text =>
      dsimp only
      unfold checkSource
      cases hparse : Fixture.read? text with
      | error e => exact .done
      | ok fixture =>
          obtain ⟨rfl, _⟩ := Fixture.read?_located hparse
          have hgives : Sections.Gives g fixture.text _
              (checkAssertions g.oracleInSections mode fixture.text _ fixture.assertions)
              (checkAssertions (.ofFunction g.scopesIn) mode fixture.text _ fixture.assertions) :=
            checkAssertions_related (Sections.gives_congruent g fixture.text)
              Sections.oracleInSections_relatedOn { path, suite := fixture.suiteName } _
          exact .reads hread (hgives.bind_reads .rest)

/-- Whoever holds a text asks for it again or releases it, so there is something left to be done. -/
theorem Remains.reads_ne_done {summary : FileSummary} {p : Sections FileSummary}
    (h : Sections.Reads g text (.evict text (.done summary)) p) : ∀ value, p ≠ .done value := by
  rintro value rfl
  cases h

theorem Remains.section {summary : FileSummary} {c c' : Cache} {p q : Sections FileSummary}
    (h : Remains g fs path summary p) (hc : c.Sound g key) (hs : Sections.Section key c p c' q) :
    c'.Sound g key ∧ Remains g fs path summary q ∧ ∃ text, fs.readText path = .ok text ∧
      (text ∈ c'.texts → ∀ value, q ≠ .done value) ∧ ∀ t ∈ c'.texts, t ≠ text → t ∈ c.texts := by
  cases h with
  | done => cases hs
  | @reads text _ hread h =>
      cases h with
      | rest =>
          cases hs
          refine ⟨hc.evict, .done, text, hread, fun ht => ?_, fun t ht _ => ?_⟩
          · exact absurd rfl (hc.mem_texts_evict.mp ht).2
          · exact (hc.mem_texts_evict.mp ht).1
      | lookUp h =>
          cases hs
          have hnext := h (c.find? (key text) text) fun tokens => hc.tokens_eq
          exact ⟨hc, .reads hread hnext, text, hread, fun _ => reads_ne_done hnext, fun _ ht _ => ht⟩
      | keep h =>
          cases hs
          refine ⟨hc.insert, .reads hread h, text, hread, fun _ => reads_ne_done h, fun t ht hne => ?_⟩
          exact (Cache.mem_texts_of_insert ht).resolve_left hne

variable {ι : Type} {paths : ι → FilePath} {s s' : Workers ι FileSummary}

def start (g : Grammar) (mode : MatchMode) (fs : Files) (paths : ι → FilePath) :
    Workers ι FileSummary :=
  ⟨.empty, fun i => checkFile g.oracleInSections mode fs (paths i)⟩

def Holds (fs : Files) (t : String) (path : FilePath) (p : Sections FileSummary) : Prop :=
  fs.readText path = .ok t ∧ ∀ summary, p ≠ .done summary

/-- What is kept is kept for a check that has yet to release it. -/
structure Sound (g : Grammar) (key : String → UInt64) (mode : MatchMode) (fs : Files)
    (paths : ι → FilePath) (s : Workers ι FileSummary) : Prop where
  cache : s.cache.Sound g key
  remains : ∀ i, Remains g fs (paths i) (summaryOf g mode fs (paths i)) (s.programs i)
  held : ∀ t ∈ s.cache.texts, ∃ i, Holds fs t (paths i) (s.programs i)

theorem start_sound : Sound g key mode fs paths (start g mode fs paths) where
  cache := Cache.sound_empty
  remains i := checkFile_remains g mode fs (paths i)
  held _ ht := absurd ht List.not_mem_nil

theorem Sound.step [DecidableEq ι] (hs : Sound g key mode fs paths s) (h : Workers.Step key s s') :
    Sound g key mode fs paths s' := by
  obtain ⟨i, h⟩ := h
  obtain ⟨hcache, hremains, text, hread, htext, hothers⟩ := (hs.remains i).section hs.cache h
  refine ⟨hcache, (Function.forall_update_iff _ _).mpr ⟨hremains, fun j _ => hs.remains j⟩, ?_⟩
  intro t ht
  refine (Function.exists_update_iff _ fun j => Holds fs t (paths j)).mpr ?_
  by_cases heq : t = text
  · subst heq
    exact .inl ⟨hread, htext ht⟩
  · obtain ⟨j, hj⟩ := hs.held t (hothers t ht heq)
    refine .inr ⟨j, ?_, hj⟩
    rintro rfl
    cases hread.symm.trans hj.1
    exact heq rfl

theorem Sound.of_reachable [DecidableEq ι]
    (h : Relation.ReflTransGen (Workers.Step key) (start g mode fs paths) s) :
    Sound g key mode fs paths s := by
  induction h with
  | refl => exact start_sound
  | tail _ next ih => exact ih.step next

theorem Sound.eq_summaryOf (hs : Sound g key mode fs paths s) {i : ι} {summary : FileSummary}
    (h : s.programs i = .done summary) : summary = summaryOf g mode fs (paths i) := by
  have hremains := hs.remains i
  rw [h] at hremains
  cases hremains with
  | done => rfl
  | reads _ h => exact absurd rfl (Remains.reads_ne_done h summary)

theorem Sound.cache_eq_empty (hs : Sound g key mode fs paths s) {summaries : ι → FileSummary}
    (h : s.Finished summaries) : s.cache = .empty := by
  have htexts : s.cache.texts = [] := by
    refine List.eq_nil_iff_forall_not_mem.mpr fun t ht => ?_
    obtain ⟨i, hi⟩ := hs.held t ht
    exact hi.2 (summaries i) (h i)
  exact congrArg Cache.mk (List.map_eq_nil_iff.mp htexts)

/-- Files that are checked at the same time are checked as each of them is for itself, whatever the
order in which the checks get their turns and whatever keys the texts have. It comes to an end, nothing
is kept then, and the summary of the run is that of checking one file after the other. -/
theorem parallel_eq_sequential (g : Grammar) (key : String → UInt64) (mode : MatchMode) (fs : Files)
    (paths : List FilePath) :
    (∀ path, (checkFile g.oracleInSections mode fs path).alone key =
      checkFile (g.oracle key) mode fs path) ∧
    WellFounded (fun s' s : Workers (Fin paths.length) FileSummary => Workers.Step key s s') ∧
    ∀ s, Relation.ReflTransGen (Workers.Step key) (start g mode fs paths.get) s →
      ((∃ summaries, s.Finished summaries) ∨ ∃ s', Workers.Step key s s') ∧
      (∀ i summary, s.programs i = .done summary →
        summary = ((checkFile (g.oracle key) mode fs (paths.get i)).run .empty).1) ∧
      ∀ summaries, s.Finished summaries → s.cache = .empty ∧
        (List.ofFn summaries).foldl CheckSummary.addFile {} =
          ((checkFiles (g.oracle key) mode fs {} paths).run .empty).1 := by
  refine ⟨alone_checkFile g key mode fs, Workers.wellFounded_step key, fun s h => ?_⟩
  have hs := Sound.of_reachable h
  refine ⟨s.finished_or_step key, fun i summary hi => ?_, fun summaries hfinished => ?_⟩
  · rw [checkFile_oracle]
    exact hs.eq_summaryOf hi
  · refine ⟨hs.cache_eq_empty hfinished, ?_⟩
    have hsummaries : List.ofFn summaries = paths.map (summaryOf g mode fs) := calc
      List.ofFn summaries = List.ofFn (summaryOf g mode fs ∘ paths.get) :=
        congrArg _ (funext fun i => hs.eq_summaryOf (hfinished i))
      _ = (List.ofFn paths.get).map (summaryOf g mode fs) := List.map_ofFn.symm
      _ = paths.map (summaryOf g mode fs) := by rw [List.ofFn_get]
    rw [checkFiles_oracle, checkFiles_eq_foldl, hsummaries, List.foldl_map]
    rfl

open Grammar Grammar.Shared

theorem firstMismatch_one {m : Type → Type} [Monad m] (oracle : Oracle m) (mode : MatchMode)
    (text : String) (a : ScopeAssertion) (column : Nat) : firstMismatch oracle mode text a 1 column =
      oracle.scopesAt text a.sourceLine column >>= fun actual => pure (compare mode a column actual) := by
  refine congrArg _ (funext fun actual => ?_)
  cases compare mode a column actual <;> rfl

def abc : String := "abc\n//^ d"

def xyz : String := "xyz\n//^ d"

def pair : Files :=
  ⟨.dir [("a.cs", .file abc.toUTF8), ("b.cs", .file xyz.toUTF8)], []⟩

def lastColumn : ScopeAssertion :=
  ⟨0, 1, ⟨2, 2, Nat.le.refl⟩, .caret, [⟨"d", by decide, by decide⟩], []⟩

def outcome (path : FilePath) (tokens : TokenizedText) : FileSummary :=
  FileSummary.addResult { path }
    (.of lastColumn (compare .superset lastColumn 2 (tokens.scopesAt 0 2)))

def oneColumn (path : FilePath) (text : String) : Sections FileSummary :=
  .lookUp text fun
    | some tokens => .evict text (.done (outcome path tokens))
    | none =>
      .keep text (plain.tokenize text) (.evict text (.done (outcome path (plain.tokenize text))))

theorem checkFile_of_lastColumn (path : FilePath) (line text : String) (hread : pair.readText path = .ok text)
    (hparse : Fixture.read? text = .ok ⟨none, text, [⟨0, line, [lastColumn]⟩]⟩) :
    checkFile plain.oracleInSections .superset pair path = oneColumn path text := by
  have hone : checkAssertion plain.oracleInSections .superset text lastColumn = _ :=
    congrArg (· >>= _) (firstMismatch_one plain.oracleInSections .superset text lastColumn 2)
  simp only [checkFile, hread, checkSource, hparse, Fixture.assertions, List.flatMap_singleton,
    checkAssertions, hone]
  refine congrArg (Sections.lookUp text) (funext fun found => ?_)
  cases found <;> rfl

def both : Workers (Fin 2) FileSummary := start plain .superset pair (["a.cs", "b.cs"] : List FilePath).get

theorem both_eq : both = ⟨.empty, [oneColumn "a.cs" abc, oneColumn "b.cs" xyz].get⟩ := by
  have habc : checkFile plain.oracleInSections .superset pair "a.cs" = oneColumn "a.cs" abc :=
    checkFile_of_lastColumn _ "abc" _ (by cbv) (by cbv)
  have hxyz : checkFile plain.oracleInSections .superset pair "b.cs" = oneColumn "b.cs" xyz :=
    checkFile_of_lastColumn _ "xyz" _ (by cbv) (by cbv)
  exact congrArg (Workers.mk _) (funext (Fin.forall_fin_two.mpr ⟨habc, hxyz⟩))

theorem exists_interleaved : ∃ (s : Workers (Fin 2) FileSummary) (summaries : Fin 2 → FileSummary),
    Relation.ReflTransGen (Workers.Step lengthKey) both s ∧ s.Finished summaries := by
  rw [both_eq]
  have h : Relation.ReflTransGen (Workers.Step lengthKey) _ _ :=
    .refl (a := ⟨.empty, [oneColumn "a.cs" abc, oneColumn "b.cs" xyz].get⟩)
  have h := h.tail (.turn 0 (.lookUp abc _))
  have h := h.tail (.turn 1 (.lookUp xyz _))
  have h := h.tail (.turn 0 (.keep abc _ _))
  have h := h.tail (.turn 1 (.keep xyz _ _))
  have h := h.tail (.turn 0 (.evict abc _))
  have h := h.tail (.turn 1 (.evict xyz _))
  exact ⟨_, [_, _].get, h, Fin.forall_fin_two.mpr ⟨rfl, rfl⟩⟩

/-- The second text takes the place of the first one, which then is released while it is not kept. -/
theorem parallel_eq_sequential_interleaved : lengthKey abc = lengthKey xyz ∧
    ∃ (s : Workers (Fin 2) FileSummary) (summaries : Fin 2 → FileSummary),
      Relation.ReflTransGen (Workers.Step lengthKey) both s ∧ s.Finished summaries ∧
      s.cache = .empty ∧ (List.ofFn summaries).foldl CheckSummary.addFile {} =
        ((checkFiles (plain.oracle lengthKey) .superset pair {} ["a.cs", "b.cs"]).run .empty).1 := by
  obtain ⟨s, summaries, h, hfinished⟩ := exists_interleaved
  obtain ⟨_, _, hsound⟩ :=
    parallel_eq_sequential plain lengthKey .superset pair ["a.cs", "b.cs"]
  obtain ⟨_, _, hend⟩ := hsound s h
  obtain ⟨hcache, hsummary⟩ := hend summaries hfinished
  exact ⟨by decide, s, summaries, h, hfinished, hcache, hsummary⟩

end Check

end Scopemark
