import Scopemark.Command.Basic
import Scopemark.Proofs.Check.Counts

namespace Scopemark.Check

variable {fs : Files} {config : Config} {path grammar : String} {file : FilePath} {g : Grammar}
  {scopes : String → Nat → Nat → ScopeSet}

theorem hasInfix_iff {part cs : List Char} : hasInfix part cs = true ↔ part <:+: cs := by
  induction cs with
  | nil => rw [hasInfix, List.isEmpty_iff, List.infix_nil]
  | cons c rest ih =>
      rw [hasInfix, Bool.or_eq_true, List.isPrefixOf_iff_prefix, ih, List.infix_cons_iff]

structure Selected (fs : Files) (config : Config) (path file : FilePath) : Prop where
  discovered : file ∈ discoverAt fs config.extensions path
  filtered : ∀ part, config.filter = some part → part.toList <:+: file.display.toList

theorem mem_selected : file ∈ selected fs config path ↔ Selected fs config path file := by
  have hkeeps : config.keeps file = true ↔
      ∀ part, config.filter = some part → part.toList <:+: file.display.toList := by
    unfold Config.keeps
    cases config.filter with
    | none => exact iff_of_true rfl nofun
    | some part =>
        refine hasInfix_iff.trans ⟨fun h part' hpart => ?_, fun h => h part rfl⟩
        cases hpart
        exact h
  rw [selected, List.mem_filter, hkeeps]
  exact ⟨fun ⟨h, h'⟩ => ⟨h, h'⟩, fun h => ⟨h.discovered, h.filtered⟩⟩

/-- The path leads somewhere, the grammar can be loaded, and every fixture can be read. -/
structure Readable (fs : Files) (config : Config) (path grammar : String) (g : Grammar) : Prop where
  there : ∃ tree, fs.find path = .ok tree
  loads : Grammar.load? fs grammar = .ok g
  parses : ∀ file, Selected fs config path file → ∃ fixture, Parses fs file fixture

def Asserted (fs : Files) (config : Config) (path text : String) (a : ScopeAssertion) : Prop :=
  ∃ file fixture, Selected fs config path file ∧ Parses fs file fixture ∧ fixture.text = text ∧
    a ∈ fixture.assertions

def Passes (fs : Files) (config : Config) (path grammar : String) : Prop :=
  ∃ g, Readable fs config path grammar g ∧ (∃ text a, Asserted fs config path text a) ∧
    ∀ text a, Asserted fs config path text a → a.Holds config.mode (g.scopesIn text)

def Vacuous (fs : Files) (config : Config) (path grammar : String) : Prop :=
  ∃ g, Readable fs config path grammar g ∧ ∀ text a, ¬ Asserted fs config path text a

theorem errorFiles_run_eq_zero_iff (oracle : Oracle Id) :
    (run oracle fs config path : CheckSummary).errorFiles = 0 ↔
      ∀ file, Selected fs config path file → ∃ fixture, Parses fs file fixture := by
  rw [run, checkFiles_eq_foldl]
  refine (foldl_eq_zero_iff fun s file => s.errorFiles_addFile _).trans ?_
  refine (and_iff_right rfl).trans (forall_congr' fun file => imp_congr mem_selected ?_)
  rw [← errors_checkFile_eq_nil_iff oracle config.mode]
  simp

theorem total_run_eq_zero_iff (oracle : Oracle Id)
    (h : ∀ file, Selected fs config path file → ∃ fixture, Parses fs file fixture) :
    (run oracle fs config path : CheckSummary).total = 0 ↔
      ∀ text a, ¬ Asserted fs config path text a := by
  rw [run, checkFiles_eq_foldl]
  refine (foldl_eq_zero_iff fun s file => s.total_addFile _).trans ?_
  refine (and_iff_right rfl).trans ⟨?_, ?_⟩
  · rintro htotal _ a ⟨file, fixture, hfile, hparses, rfl, ha⟩
    have hnone := (total_checkFile_eq_zero_iff oracle hparses).mp (htotal file (mem_selected.mpr hfile))
    rw [hnone] at ha
    exact List.not_mem_nil ha
  · intro hnone file hfile
    have hfile := mem_selected.mp hfile
    obtain ⟨fixture, hparses⟩ := h file hfile
    refine (total_checkFile_eq_zero_iff oracle hparses).mpr (List.eq_nil_iff_forall_not_mem.mpr ?_)
    exact fun a ha => hnone _ a ⟨file, fixture, hfile, hparses, rfl, ha⟩

theorem failed_run_eq_zero_iff
    (h : ∀ file, Selected fs config path file → ∃ fixture, Parses fs file fixture) :
    (run (.ofFunction scopes) fs config path : CheckSummary).failed = 0 ↔
      ∀ text a, Asserted fs config path text a → a.Holds config.mode (scopes text) := by
  rw [run, checkFiles_eq_foldl]
  refine (foldl_eq_zero_iff fun s file => s.failed_addFile _).trans ?_
  refine (and_iff_right rfl).trans ⟨?_, ?_⟩
  · rintro hfailed _ a ⟨file, fixture, hfile, hparses, rfl, ha⟩
    exact (failed_checkFile_eq_zero_iff hparses).mp (hfailed file (mem_selected.mpr hfile)) a ha
  · intro hholds file hfile
    have hfile := mem_selected.mp hfile
    obtain ⟨fixture, hparses⟩ := h file hfile
    refine (failed_checkFile_eq_zero_iff hparses).mpr fun a ha => ?_
    exact hholds _ a ⟨file, fixture, hfile, hparses, rfl, ha⟩

theorem isThere_iff : fs.isThere path = true ↔ ∃ tree, fs.find path = .ok tree := by
  unfold Files.isThere
  cases fs.find path <;> simp [Except.isOk, Except.toBool]

theorem code_runTest_of_readable (hpath : ∃ tree, fs.find path = .ok tree)
    (hgrammar : Grammar.load? fs grammar = .ok g) :
    (Command.runTest fs path grammar config).code =
      (run (.ofFunction g.scopesIn) fs config path : CheckSummary).exitCode := by
  have hrun : ((run (g.oracle hash) fs config path).run Cache.empty).1 =
      run (.ofFunction g.scopesIn) fs config path :=
    checkFiles_oracle g hash _ _
  rw [← hrun]
  simp [Command.runTest, Command.loadGrammar, isThere_iff.mpr hpath, hgrammar, Outcome.attempt,
    Except.mapError]

theorem code_runTest_of_not_readable
    (h : ¬ ∃ g, (∃ tree, fs.find path = .ok tree) ∧ Grammar.load? fs grammar = .ok g) :
    (Command.runTest fs path grammar config).code = 1 := by
  cases hfind : fs.find path with
  | error e => simp [Command.runTest, Files.isThere, hfind, Except.isOk, Except.toBool, Outcome.failure]
  | ok tree =>
      cases hload : Grammar.load? fs grammar with
      | error e =>
          simp [Command.runTest, Command.loadGrammar, isThere_iff.mpr ⟨tree, hfind⟩, hload,
            Outcome.attempt, Outcome.error, Outcome.failure, Except.mapError]
      | ok g => exact absurd ⟨g, ⟨tree, hfind⟩, hload⟩ h

theorem passes_iff (hpath : ∃ tree, fs.find path = .ok tree)
    (hgrammar : Grammar.load? fs grammar = .ok g) :
    (run (.ofFunction g.scopesIn) fs config path : CheckSummary).exitCode = 0 ↔
      Passes fs config path grammar := by
  rw [CheckSummary.exitCode_eq_zero_iff, errorFiles_run_eq_zero_iff]
  constructor
  · rintro ⟨hparses, htotal, hfailed⟩
    rw [ne_eq, total_run_eq_zero_iff _ hparses] at htotal
    rw [failed_run_eq_zero_iff hparses] at hfailed
    refine ⟨g, ⟨hpath, hgrammar, hparses⟩, ?_, hfailed⟩
    simpa only [not_forall, not_not] using htotal
  · rintro ⟨g', hreadable, ⟨text, a, ha⟩, hholds⟩
    cases hgrammar.symm.trans hreadable.loads
    refine ⟨hreadable.parses, fun htotal => ?_, (failed_run_eq_zero_iff hreadable.parses).mpr hholds⟩
    exact (total_run_eq_zero_iff _ hreadable.parses).mp htotal text a ha

theorem vacuous_iff (hpath : ∃ tree, fs.find path = .ok tree)
    (hgrammar : Grammar.load? fs grammar = .ok g) :
    (run (.ofFunction g.scopesIn) fs config path : CheckSummary).exitCode = 2 ↔
      Vacuous fs config path grammar := by
  rw [CheckSummary.exitCode_eq_two_iff, errorFiles_run_eq_zero_iff]
  constructor
  · rintro ⟨hparses, htotal⟩
    exact ⟨g, ⟨hpath, hgrammar, hparses⟩, (total_run_eq_zero_iff _ hparses).mp htotal⟩
  · rintro ⟨g', hreadable, hnone⟩
    exact ⟨hreadable.parses, (total_run_eq_zero_iff _ hreadable.parses).mpr hnone⟩

/-- Of the three codes 0 is only for runs that check something and find nothing to be wrong. -/
theorem code_runTest (fs : Files) (path grammar : String) (config : Config) :
    ((Command.runTest fs path grammar config).code = 0 ↔ Passes fs config path grammar) ∧
    ((Command.runTest fs path grammar config).code = 2 ↔ Vacuous fs config path grammar) ∧
    ((Command.runTest fs path grammar config).code = 1 ↔
      ¬ Passes fs config path grammar ∧ ¬ Vacuous fs config path grammar) := by
  by_cases h : ∃ g, (∃ tree, fs.find path = .ok tree) ∧ Grammar.load? fs grammar = .ok g
  · obtain ⟨g, hpath, hgrammar⟩ := h
    rw [code_runTest_of_readable hpath hgrammar, ← passes_iff hpath hgrammar,
      ← vacuous_iff hpath hgrammar]
    exact ⟨Iff.rfl, Iff.rfl, CheckSummary.exitCode_eq_one_iff⟩
  · have hpasses : ¬ Passes fs config path grammar :=
      fun ⟨g, hreadable, _⟩ => h ⟨g, hreadable.there, hreadable.loads⟩
    have hvacuous : ¬ Vacuous fs config path grammar :=
      fun ⟨g, hreadable, _⟩ => h ⟨g, hreadable.there, hreadable.loads⟩
    rw [code_runTest_of_not_readable h]
    exact ⟨iff_of_false (by decide) hpasses, iff_of_false (by decide) hvacuous,
      iff_of_true rfl ⟨hpasses, hvacuous⟩⟩

end Scopemark.Check
