import Scopemark.Proofs.Highlight.Resolve
import Scopemark.Proofs.Scope.Basic
import Scopemark.Proofs.Unicode.Case

namespace Scopemark

variable {lang : String} {g : Grammar}

namespace Language

theorem sameName_iff {s t : String} : sameName s t = true ↔ lowerAscii s = lowerAscii t := beq_iff_eq

theorem sameName_refl (s : String) : sameName s s = true := sameName_iff.mpr rfl

theorem sameName_lower_iff {s : String} : sameName (Unicode.lower s) s = true ↔
    ∀ c ∈ s.toList, 128 ≤ c.toNat → Unicode.IsLowered c := by
  rw [sameName_iff, lowerAscii, lowerAscii, Unicode.lower, String.toList_ofList]
  exact Unicode.map_toLower_lowerFrom

theorem goesBy_iff {l : Language} : l.goesBy lang = true ↔
    sameName l.id lang = true ∨ l.scopeName = some lang ∨ ∃ a ∈ l.aliases, sameName a lang = true := by
  rw [goesBy, Bool.or_eq_true, Bool.or_eq_true, or_assoc, beq_iff_eq, List.any_eq_true]

def NamesPlain (lang : String) : Prop := ∃ name ∈ ["plaintext", "text", "txt"], sameName name lang = true

theorem plain_goesBy_iff : plain.goesBy lang = true ↔ NamesPlain lang := by
  rw [goesBy_iff, NamesPlain, List.exists_mem_cons_iff]
  refine or_congr_right (or_iff_right ?_)
  exact nofun

instance : DecidablePred NamesPlain := fun _ => decidable_of_iff _ plain_goesBy_iff

end Language

def Grammar.GoesBy (g : Grammar) (lang : String) : Prop :=
  Language.sameName (Unicode.lower g.name) lang = true ∨ g.scopeName.name = lang ∨
    ∃ t ∈ g.fileTypes, Language.sameName t lang = true

theorem Language.ofGrammar_goesBy_iff : (ofGrammar g).goesBy lang = true ↔ g.GoesBy lang := by
  rw [goesBy_iff, ofGrammar, Option.some.injEq]
  exact Iff.rfl

theorem Grammar.names_of_compile? {doc : GrammarText} (h : compile? doc = .ok g) :
    g.name = doc.name ∧ g.scopeName.name = .ofList (Text.trim doc.scopeName.toList) ∧
      g.fileTypes = doc.fileTypes := by
  unfold compile? at h
  obtain ⟨scopeName, hscope, h⟩ := bind_eq_ok.mp h
  obtain ⟨_, _, h⟩ := bind_eq_ok.mp h
  cases h
  exact ⟨rfl, Scope.name_of_ofString? (mapError_eq_ok.mp hscope), rfl⟩

namespace CodeBlock

theorem text_ne_empty {code : String} {spans : List Span} {s : Span} (hspans : spans ∈ grammarLines g code)
    (hs : s ∈ spans) : s.text ≠ "" := by
  obtain ⟨⟨line, tokens⟩, hmem, rfl⟩ := List.mem_map.mp hspans
  obtain ⟨t, ht, rfl⟩ := List.mem_map.mp hs
  have hshows := cutLine_shows (tiles_of_mem_zip hmem)
  rw [cutLine, List.forall₂_map_right_iff, List.forall₂_same] at hshows
  exact (hshows t ht).nonempty

/-- A grammar has no span for an empty line, unlike plain text. -/
theorem not_isPlain_grammarLines (g : Grammar) (name : String) (isInline : Bool) :
    ¬ IsPlain "\n" ⟨name, isInline, grammarLines g "\n"⟩ := by
  rintro ⟨_, hplain⟩
  have hlines : Text.lines "\n".toList = [[]] := by decide
  rw [hlines, List.forall₂_cons_left_iff] at hplain
  obtain ⟨spans, rest, hspans, _, hall⟩ := hplain
  have hcons : grammarLines g "\n" = spans :: rest := hall
  have hmem : spans ∈ grammarLines g "\n" := by
    rw [hcons]
    exact List.mem_cons_self
  exact text_ne_empty hmem (hspans ▸ List.mem_cons_self) rfl

end CodeBlock

namespace Highlighting

variable {fs : Files} {base name : String} {o : HighlightOptions} {h : Highlighting}

theorem highlight_of_grammarFor? (code : String) (request : Option String) (isInline : Bool)
    (hg : h.grammarFor? (request.getD (h.defaultLang.forCode isInline)) = some g) :
    CodeBlock.highlight h code request isInline =
      ⟨(Language.ofGrammar g).id, isInline, CodeBlock.grammarLines g code⟩ := by
  rw [CodeBlock.highlight, hg]
  rfl

theorem exists_grammar_of_document {α : Type} {doc : GrammarText} {f : Grammar → α} {a : α}
    (hsource : o.grammar = .document doc) (h : (Grammar.compile? doc).toOption.map f = some a) :
    ∃ g, (resolve fs o base).grammar = some g ∧ f g = a := by
  obtain ⟨g, hcompile, hg⟩ := Option.map_eq_some_iff.mp h
  refine ⟨g, ?_, hg⟩
  rw [resolve, grammar_ofGrammar, hsource, GrammarSource.load?_document]
  exact map_eq_ok.mpr ⟨g, eq_ok_of_toOption hcompile, rfl⟩

/-- Plain text is kept as a default language under each of its names. Code in it is shown as plain text
just if the grammar does not go by this name as well. -/
theorem shows_plain_iff (fs : Files) (o : HighlightOptions) (base : String)
    (hname : Language.NamesPlain name) :
    (∀ isInline, o.defaultLang.forCode isInline = name →
      (resolve fs o base).defaultLang.forCode isInline = name) ∧
    ((∀ code request isInline, request.getD ((resolve fs o base).defaultLang.forCode isInline) = name →
        (CodeBlock.highlight (resolve fs o base) code request isInline).IsPlain code) ↔
      ∀ g, (resolve fs o base).grammar = some g → ¬ g.GoesBy name) := by
  refine ⟨?_, ?_, ?_⟩
  · rintro isInline rfl
    rw [forCode_resolve]
    exact if_pos (supports_resolve.mpr (.inl (Language.plain_goesBy_iff.mpr hname)))
  · intro hplain g hg hgoes
    have hfor : (resolve fs o base).grammarFor? name = some g :=
      grammarFor?_resolve.mpr ⟨hg, Language.ofGrammar_goesBy_iff.mpr hgoes⟩
    -- A line feed tells the two apart, as its line is empty.
    have hblock := hplain "\n" (some name) false rfl
    rw [highlight_of_grammarFor? "\n" (some name) false hfor] at hblock
    exact CodeBlock.not_isPlain_grammarLines g _ _ hblock
  · rintro hnot code request isInline rfl
    apply isPlain_highlight
    rw [Option.eq_none_iff_forall_ne_some]
    intro g hfor
    obtain ⟨hg, hgoes⟩ := grammarFor?_resolve.mp hfor
    exact hnot g hg (Language.ofGrammar_goesBy_iff.mp hgoes)

def siteWith (doc : GrammarText) : HighlightOptions :=
  { HighlightOptions.site with grammar := .document doc }

def nestedSite : HighlightOptions :=
  { siteWith Grammar.nestedText with defaultLang := .split "TXT" "nested" }

theorem shows_plain_iff_nestedSite : Language.NamesPlain "TXT" ∧
    (resolve (stored "") nestedSite "").defaultLang.forCode false = "TXT" ∧
    ∀ code, (CodeBlock.highlight (resolve (stored "") nestedSite "") code none false).IsPlain code := by
  have hname : Language.NamesPlain "TXT" := by decide
  have hnames : (Grammar.compile? Grammar.nestedText).toOption.map (fun g =>
      (Language.ofGrammar g).goesBy "TXT") = some false := by
    decide +kernel
  obtain ⟨g, hg, hother⟩ : ∃ g, (resolve (stored "") nestedSite "").grammar = some g ∧
      (Language.ofGrammar g).goesBy "TXT" = false := exists_grammar_of_document rfl hnames
  obtain ⟨hdefault, hplain⟩ := shows_plain_iff (stored "") nestedSite "" hname
  have hkept := hdefault false rfl
  refine ⟨hname, hkept, fun code => hplain.mpr ?_ code none false hkept⟩
  intro g' hg'
  cases hg.symm.trans hg'
  rw [← Language.ofGrammar_goesBy_iff, hother]
  exact nofun

def notesText : GrammarText where
  name := "Notes"
  scopeName := "source.notes"
  fileTypes := ["txt"]

/-- A name of plain text selects the grammar. -/
theorem text_shown_by_notesText : Language.NamesPlain "TXT" ∧
    CodeBlock.highlight (resolve (stored "") (siteWith notesText) "") "a" (some "TXT") false =
      ⟨"notes", false, [[⟨"a", ["source.notes"]⟩]]⟩ := by
  exact ⟨by decide, by decide +kernel⟩

/-- The name is one that is offered, that stays a default language, and for which code is shown by the
grammar. -/
structure Selects (fs : Files) (base : String) (o : HighlightOptions) (g : Grammar) (name : String) :
    Prop where
  supports : (resolve fs o base).supports name = true
  defaultLang : ∀ d isInline, DefaultLang.forCode d isInline = name →
    (resolve fs { o with defaultLang := d } base).defaultLang.forCode isInline = name
  highlight : ∀ code request isInline,
    request.getD ((resolve fs o base).defaultLang.forCode isInline) = name →
      CodeBlock.highlight (resolve fs o base) code request isInline =
        ⟨(Language.ofGrammar g).id, isInline, CodeBlock.grammarLines g code⟩

theorem selects_iff (hg : (resolve fs o base).grammar = some g) (hname : ¬ Language.NamesPlain name) :
    Selects fs base o g name ↔ g.GoesBy name := by
  have hsupports : (resolve fs o base).supports name = true ↔ g.GoesBy name := by
    rw [supports_resolve, Language.plain_goesBy_iff, or_iff_right hname, hg]
    simp [Language.ofGrammar_goesBy_iff]
  refine ⟨fun h => hsupports.mp h.supports, fun hgoes => ⟨hsupports.mpr hgoes, ?_, ?_⟩⟩
  · rintro d isInline rfl
    rw [forCode_resolve]
    exact if_pos (hsupports.mpr hgoes)
  · rintro code request isInline rfl
    apply highlight_of_grammarFor?
    exact grammarFor?_resolve.mpr ⟨hg, Language.ofGrammar_goesBy_iff.mpr hgoes⟩

/-- A grammar is selected by its identifier, its scope and its file types. The name in its document selects
it as well if the letters of this but the ASCII ones are small, or if it is one of the other names. -/
theorem selects_names (hg : (resolve fs o base).grammar = some g) : ∃ doc, o.grammar.Names fs base doc ∧
    Grammar.compile? doc = .ok g ∧
    (∀ name, ¬ Language.NamesPlain name → name = (Language.ofGrammar g).id ∨
      name = .ofList (Text.trim doc.scopeName.toList) ∨ name ∈ doc.fileTypes →
        Selects fs base o g name) ∧
    (¬ Language.NamesPlain doc.name → (Selects fs base o g doc.name ↔
      (∀ c ∈ doc.name.toList, 128 ≤ c.toNat → Unicode.IsLowered c) ∨
        .ofList (Text.trim doc.scopeName.toList) = doc.name ∨
        ∃ t ∈ doc.fileTypes, Language.sameName t doc.name = true)) := by
  obtain ⟨doc, hnames, hcompile⟩ := GrammarSource.load?_eq_ok.mp (grammar_ofGrammar.mp hg)
  obtain ⟨hdocName, hscope, htypes⟩ := Grammar.names_of_compile? hcompile
  refine ⟨doc, hnames, hcompile, ?_, ?_⟩
  · intro name hplain hname
    rw [selects_iff hg hplain]
    rcases hname with rfl | rfl | hmem
    · exact .inl (Language.sameName_refl _)
    · exact .inr (.inl hscope)
    · exact .inr (.inr ⟨name, htypes ▸ hmem, Language.sameName_refl name⟩)
  · intro hplain
    rw [selects_iff hg hplain, Grammar.GoesBy, hscope, htypes, hdocName, Language.sameName_lower_iff]

theorem selects_names_nestedSite : ∃ g, (resolve (stored "") nestedSite "").grammar = some g ∧
    Selects (stored "") "" nestedSite g "Nested" ∧ Selects (stored "") "" nestedSite g "text.nested" := by
  have hname : (Grammar.compile? Grammar.nestedText).toOption.map Grammar.name = some "Nested" := by
    decide +kernel
  obtain ⟨g, hg, _⟩ : ∃ g, (resolve (stored "") nestedSite "").grammar = some g ∧ g.name = "Nested" :=
    exists_grammar_of_document rfl hname
  obtain ⟨doc, hnames, _, hselects, hselectsName⟩ := selects_names hg
  obtain rfl : doc = Grammar.nestedText := by
    cases hnames
    rfl
  have hascii : Grammar.nestedText.name.toList.all (fun c => c.toNat < 128) = true := by decide
  refine ⟨g, hg, (hselectsName (by decide)).mpr (.inl fun c hc hle => ?_),
    hselects "text.nested" (by decide) ?_⟩
  · have hlt : c.toNat < 128 := of_decide_eq_true (List.all_eq_true.mp hascii c hc)
    exact absurd hlt (Nat.not_lt.mpr hle)
  · exact .inr (.inl (by decide +kernel))

def dottedText : GrammarText where
  name := "İ"
  scopeName := "source.i"

/-- The name in the document is not known, and code in it is shown as plain text. -/
theorem not_selects_dottedText : ∃ g, (resolve (stored "") (siteWith dottedText) "").grammar = some g ∧
    g.name = "İ" ∧ ¬ Language.NamesPlain "İ" ∧
    (resolve (stored "") (siteWith dottedText) "").supports "İ" = false ∧
    CodeBlock.highlight (resolve (stored "") (siteWith dottedText) "") "a" (some "İ") false =
      ⟨plaintext, false, [[⟨"a", []⟩]]⟩ := by
  have hname : (Grammar.compile? dottedText).toOption.map Grammar.name = some "İ" := by decide +kernel
  obtain ⟨g, hg, hname⟩ : ∃ g, (resolve (stored "") (siteWith dottedText) "").grammar = some g ∧
      g.name = "İ" := exists_grammar_of_document rfl hname
  exact ⟨g, hg, hname, by decide, by decide +kernel, by decide +kernel⟩

end Highlighting

end Scopemark
