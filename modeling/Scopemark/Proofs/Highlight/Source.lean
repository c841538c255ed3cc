import Scopemark.Highlight.Resolve
import Scopemark.Proofs.Grammar.Documents

namespace Scopemark

variable {fs : Files} {base path text : String} {doc : GrammarText} {g : Grammar} {e : GrammarError}

namespace GrammarSource

variable {s : GrammarSource}

inductive Names (fs : Files) (base : String) : GrammarSource → GrammarText → Prop
  | document (doc : GrammarText) : Names fs base (.document doc) doc
  | file {path text : String} {doc : GrammarText}
      (hread : fs.readText (Path.join base path) = .ok text) (hdoc : GrammarText.read? text = .ok doc) :
      Names fs base (.file path) doc

inductive Fails (fs : Files) (base : String) : GrammarSource → GrammarError → Prop
  | unreadable {path : String} {fault : FileFault}
      (hread : fs.readText (Path.join base path) = .error fault) :
      Fails fs base (.file path) (.unreadable (Path.join base path) fault)
  | unparsable {path text : String} {e : GrammarError}
      (hread : fs.readText (Path.join base path) = .ok text) (hdoc : GrammarText.read? text = .error e) :
      Fails fs base (.file path) e
  | uncompilable {s : GrammarSource} {doc : GrammarText} {e : GrammarError} (hnames : s.Names fs base doc)
      (hcompile : Grammar.compile? doc = .error e) : Fails fs base s e

theorem load?_document (fs : Files) (base : String) (doc : GrammarText) :
    (document doc).load? fs base = (Grammar.compile? doc).map some := rfl

theorem load?_file (fs : Files) (base path : String) : (file path).load? fs base =
    ((fs.readText (Path.join base path)).mapError (.unreadable (Path.join base path)) >>= fun text =>
      GrammarText.read? text >>= Grammar.compile?).map some := rfl

theorem load?_eq_ok : s.load? fs base = .ok (some g) ↔
    ∃ doc, s.Names fs base doc ∧ Grammar.compile? doc = .ok g := by
  constructor
  · intro h
    cases s with
    | none => cases h
    | file path =>
        rw [load?_file] at h
        obtain ⟨g', h, hsome⟩ := map_eq_ok.mp h
        cases hsome
        obtain ⟨text, hread, h⟩ := bind_eq_ok.mp h
        obtain ⟨doc, hdoc, hcompile⟩ := bind_eq_ok.mp h
        exact ⟨doc, .file (mapError_eq_ok.mp hread) hdoc, hcompile⟩
    | document doc =>
        rw [load?_document] at h
        obtain ⟨g', hcompile, hsome⟩ := map_eq_ok.mp h
        cases hsome
        exact ⟨doc, .document doc, hcompile⟩
  · rintro ⟨doc, hnames, hcompile⟩
    cases hnames with
    | document =>
        rw [load?_document]
        exact map_eq_ok.mpr ⟨g, hcompile, rfl⟩
    | file hread hdoc =>
        rw [load?_file]
        refine map_eq_ok.mpr ⟨g, bind_eq_ok.mpr ⟨_, mapError_eq_ok.mpr hread, ?_⟩, rfl⟩
        exact bind_eq_ok.mpr ⟨doc, hdoc, hcompile⟩

theorem load?_eq_error : s.load? fs base = .error e ↔ s.Fails fs base e := by
  constructor
  · intro h
    cases s with
    | none => cases h
    | file path =>
        rw [load?_file] at h
        rcases bind_eq_error.mp (map_eq_error.mp h) with h | ⟨text, hread, h⟩
        · obtain ⟨fault, hread, rfl⟩ := mapError_eq_error.mp h
          exact .unreadable hread
        · rw [mapError_eq_ok] at hread
          rcases bind_eq_error.mp h with hdoc | ⟨doc, hdoc, hcompile⟩
          · exact .unparsable hread hdoc
          · exact .uncompilable (.file hread hdoc) hcompile
    | document doc =>
        rw [load?_document] at h
        exact .uncompilable (.document doc) (map_eq_error.mp h)
  · intro h
    cases h with
    | unreadable hread =>
        rw [load?_file]
        refine map_eq_error.mpr (bind_eq_error.mpr (.inl ?_))
        exact mapError_eq_error.mpr ⟨_, hread, rfl⟩
    | unparsable hread hdoc =>
        rw [load?_file]
        refine map_eq_error.mpr (bind_eq_error.mpr (.inr ⟨_, mapError_eq_ok.mpr hread, ?_⟩))
        exact bind_eq_error.mpr (.inl hdoc)
    | uncompilable hnames hcompile =>
        cases hnames with
        | document =>
            rw [load?_document]
            exact map_eq_error.mpr hcompile
        | file hread hdoc =>
            rw [load?_file]
            refine map_eq_error.mpr (bind_eq_error.mpr (.inr ⟨_, mapError_eq_ok.mpr hread, ?_⟩))
            exact bind_eq_error.mpr (.inr ⟨_, hdoc, hcompile⟩)

end GrammarSource

namespace GrammarText

def HasText (doc : GrammarText) (text : String) : Prop :=
  Json.decode (ofJson Json.depthLimit) text = .ok doc

theorem Fits.hasText (h : doc.Fits (Json.depthLimit - 2)) (indent : Option Nat) :
    doc.HasText (.ofList (Json.write indent doc.toJson)) :=
  (h.plain.decode_write indent).trans h.ofJson_toJson

theorem HasText.read?_eq (h : doc.HasText text) : read? text =
    if Text.allBlank doc.name.toList then .error (.emptyField "name")
    else if Text.allBlank doc.scopeName.toList then .error (.emptyField "scopeName")
    else .ok doc := by
  rw [read?, h]
  rfl

end GrammarText

theorem Grammar.compile?_of_blank_scope (h : Text.allBlank doc.scopeName.toList = true) :
    compile? doc = .error (.badScope .empty) := by
  have htrim : Text.trim doc.scopeName.toList = [] := by
    rw [Text.trim, Text.trimStart, List.dropWhile_eq_nil_iff.mpr (List.all_eq_true.mp h)]
    rfl
  have hscope : Scope.ofString? (.ofList []) = .error .empty := rfl
  rw [compile?, htrim, hscope]
  exact bind_eq_error.mpr (.inl rfl)

/-- A document in a file is loaded as it is elsewhere, once its name and its scope have been looked at. -/
theorem GrammarSource.load?_file_of_hasText (htext : doc.HasText text)
    (hread : fs.readText (Path.join base path) = .ok text) : (file path).load? fs base =
      if Text.allBlank doc.name.toList then .error (.emptyField "name")
      else if Text.allBlank doc.scopeName.toList then .error (.emptyField "scopeName")
      else (document doc).load? fs base := by
  rw [load?_file, hread, Except.mapError, ok_bind, htext.read?_eq]
  split
  · rw [error_bind, Except.map]
  · split
    · rw [error_bind, Except.map]
    · rw [ok_bind, load?_document]

namespace Highlighting

/-- The configurations differ in the wording of the reason for which they are degraded at most. -/
structure Alike (h h' : Highlighting) : Prop where
  theme : h.theme = h'.theme
  keepBackground : h.keepBackground = h'.keepBackground
  defaultLang : h.defaultLang = h'.defaultLang
  languages : h.languages = h'.languages
  traceVisits : h.traceVisits = h'.traceVisits
  isDegraded : h.isDegraded = h'.isDegraded
  grammar : h.grammar = h'.grammar

theorem alike_ofGrammar_iff (o : HighlightOptions) (x y : Except GrammarError (Option Grammar)) :
    (ofGrammar o x).Alike (ofGrammar o y) ↔ x.toOption = y.toOption := by
  cases x with
  | error e =>
      cases y with
      | error e' => exact ⟨fun _ => rfl, fun _ => ⟨rfl, rfl, rfl, rfl, rfl, rfl, rfl⟩⟩
      | ok g' => exact ⟨fun h => (nomatch h.isDegraded), nofun⟩
  | ok g =>
      cases y with
      | error e' => exact ⟨fun h => (nomatch h.isDegraded), nofun⟩
      | ok g' =>
          constructor
          · intro h
            exact congrArg some h.grammar
          · intro h
            cases h
            exact ⟨rfl, rfl, rfl, rfl, rfl, rfl, rfl⟩

theorem ofGrammar_of_grammar (o : HighlightOptions) (s : GrammarSource)
    (loaded : Except GrammarError (Option Grammar)) :
    ofGrammar { o with grammar := s } loaded = ofGrammar o loaded := rfl

theorem resolve_of_grammar (fs : Files) (base : String) (o : HighlightOptions) (s : GrammarSource) :
    resolve fs { o with grammar := s } base = ofGrammar o (s.load? fs base) := by
  rw [resolve, ofGrammar_of_grammar]

/-- A document in the options and the same one in a file make the same configuration just if it has a name,
or cannot be compiled: with a blank name, it is no document for a file. -/
theorem resolve_alike_iff (htext : doc.HasText text)
    (hread : fs.readText (Path.join base path) = .ok text) (o : HighlightOptions) :
    (resolve fs { o with grammar := .document doc } base).Alike
        (resolve fs { o with grammar := .file path } base) ↔
      (Text.allBlank doc.name.toList = true → ∃ e, Grammar.compile? doc = .error e) := by
  rw [resolve_of_grammar, resolve_of_grammar, alike_ofGrammar_iff,
    GrammarSource.load?_file_of_hasText htext hread]
  by_cases hname : Text.allBlank doc.name.toList = true
  · rw [if_pos hname, GrammarSource.load?_document]
    refine toOption_eq_none.trans (Iff.trans ?_ (forall_prop_of_true hname).symm)
    exact exists_congr fun e => map_eq_error
  · rw [if_neg hname]
    refine iff_of_true ?_ fun h => absurd h hname
    -- A blank scope is no scope either, so that both are degraded.
    by_cases hscope : Text.allBlank doc.scopeName.toList = true
    · rw [if_pos hscope, GrammarSource.load?_document, Grammar.compile?_of_blank_scope hscope]
      rfl
    · rw [if_neg hscope]

def stored (text : String) : Files := ⟨.dir [("g.json", .file text.toUTF8)], []⟩

theorem readText_stored (text : String) : (stored text).readText (Path.join "" "g.json") = .ok text := by
  have hpath : Path.join "" "g.json" = "g.json" := by decide +kernel
  have hfind : (stored text).find "g.json" = .ok (.file text.toUTF8) := rfl
  have htext : String.fromUTF8? text.toUTF8 = some text := dif_pos text.isValidUTF8
  rw [hpath, Files.readText, hfind, ok_bind]
  simp only [htext]
  rfl

def accented : GrammarText where
  name := "É"
  scopeName := " a.b "

def accentedText : String := "[\x22\\u00c9\x22,\x22 a.b \x22]"

theorem resolve_alike_iff_accentedText : accented.HasText accentedText ∧
    (stored accentedText).readText (Path.join "" "g.json") = .ok accentedText ∧
    (resolve (stored accentedText) { HighlightOptions.site with grammar := .document accented } "").Alike
      (resolve (stored accentedText) { HighlightOptions.site with grammar := .file "g.json" } "") := by
  have htext : accented.HasText accentedText := by cbv
  have hread := readText_stored accentedText
  have hname : Text.allBlank accented.name.toList = false := by decide
  refine ⟨htext, hread, (resolve_alike_iff htext hread .site).mpr fun hblank => ?_⟩
  cases hname.symm.trans hblank

def unnamed : GrammarText where
  name := " "
  scopeName := "source.a"

def unnamedText : String := "\x7b\x22name\x22:\x22 \x22,\x22scopeName\x22:\x22source.a\x22\x7d"

/-- Only the file is asked for a name. -/
theorem not_alike_unnamedText : unnamed.HasText unnamedText ∧
    (stored unnamedText).readText (Path.join "" "g.json") = .ok unnamedText ∧
    ¬ (resolve (stored unnamedText) { HighlightOptions.site with grammar := .document unnamed } "").Alike
      (resolve (stored unnamedText) { HighlightOptions.site with grammar := .file "g.json" } "") := by
  have htext : unnamed.HasText unnamedText := by cbv
  have hread := readText_stored unnamedText
  have hname : Text.allBlank unnamed.name.toList = true := by decide
  have hsome : (Grammar.compile? unnamed).toOption.isSome = true := by decide +kernel
  refine ⟨htext, hread, fun h => ?_⟩
  have hload : ((GrammarSource.document unnamed).load? (stored unnamedText) "").toOption = none := by
    rwa [resolve_of_grammar, resolve_of_grammar, alike_ofGrammar_iff,
      GrammarSource.load?_file_of_hasText htext hread, if_pos hname] at h
  obtain ⟨e, he⟩ := toOption_eq_none.mp hload
  rw [GrammarSource.load?_document] at he
  rw [toOption_eq_none.mpr ⟨e, map_eq_error.mp he⟩] at hsome
  cases hsome

end Highlighting

end Scopemark
