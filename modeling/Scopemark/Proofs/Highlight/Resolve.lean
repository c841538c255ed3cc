import Scopemark.Proofs.Highlight.Block
import Scopemark.Proofs.Highlight.Source

namespace Scopemark

theorem DefaultLang.forCode_retainOr {isInline : Bool} (keep : String → Bool) (fallback : String)
    (d : DefaultLang) :
    (d.retainOr keep fallback).forCode isInline =
      if keep (d.forCode isInline) then d.forCode isInline else fallback := by
  cases d with
  | single lang => cases isInline <;> rfl
  | split b i =>
      rw [retainOr]
      split
      next heq =>
        cases isInline with
        | false => rfl
        | true => exact heq
      next => cases isInline <;> rfl

structure CodeBlock.IsPlain (code : String) (b : CodeBlock) : Prop where
  lang : b.lang = plaintext
  lines : List.Forall₂ (fun line spans => spans = [⟨.ofList line, []⟩]) (Text.lines code.toList) b.lines

theorem CodeBlock.isPlain_plainLines (code : String) (isInline : Bool) :
    IsPlain code ⟨plaintext, isInline, plainLines (Text.lines code.toList)⟩ := by
  refine ⟨rfl, ?_⟩
  rw [plainLines, List.forall₂_map_right_iff, List.forall₂_same]
  intro line _
  rfl

namespace Highlighting

variable {fs : Files} {base lang reason : String} {o : HighlightOptions} {g : Grammar} {h : Highlighting}
  {loaded : Except GrammarError (Option Grammar)}

theorem grammar_ofGrammar : (ofGrammar o loaded).grammar = some g ↔ loaded = .ok (some g) := by
  cases loaded with
  | error e => exact ⟨nofun, nofun⟩
  | ok found => exact ⟨congrArg Except.ok, Except.ok.inj⟩

theorem degraded_ofGrammar : (ofGrammar o loaded).degraded = some reason ↔
    ∃ e, loaded = .error e ∧ e.message = reason := by
  cases loaded with
  | error e =>
      constructor
      · intro hreason
        exact ⟨e, rfl, Option.some.inj hreason⟩
      · rintro ⟨_, ⟨⟩, hreason⟩
        exact congrArg some hreason
  | ok found => exact ⟨nofun, nofun⟩

theorem grammar_eq_none (hdegraded : (resolve fs o base).isDegraded = true) :
    (resolve fs o base).grammar = none := by
  obtain ⟨reason, hreason⟩ := Option.isSome_iff_exists.mp hdegraded
  obtain ⟨e, he, _⟩ := degraded_ofGrammar.mp hreason
  rw [resolve, he]
  rfl

theorem languages_resolve (fs : Files) (o : HighlightOptions) (base : String) :
    (resolve fs o base).languages =
      Language.plain :: ((resolve fs o base).grammar.map Language.ofGrammar).toList := rfl

theorem supports_resolve : (resolve fs o base).supports lang = true ↔
    Language.plain.goesBy lang = true ∨
      ∃ g, (resolve fs o base).grammar = some g ∧ (Language.ofGrammar g).goesBy lang = true := by
  rw [supports, languages_resolve, List.any_cons, Bool.or_eq_true]
  cases (resolve fs o base).grammar with
  | none => simp
  | some g => simp

theorem supports_plaintext (fs : Files) (o : HighlightOptions) (base : String) :
    (resolve fs o base).supports plaintext = true :=
  supports_resolve.mpr (.inl (by decide))

theorem grammarFor?_resolve : (resolve fs o base).grammarFor? lang = some g ↔
    (resolve fs o base).grammar = some g ∧ (Language.ofGrammar g).goesBy lang = true := by
  rw [grammarFor?, languages_resolve]
  cases (resolve fs o base).grammar with
  | none => simp
  | some found =>
      rw [Option.ite_none_right_eq_some, Option.some.injEq]
      constructor
      · rintro ⟨hany, rfl⟩
        exact ⟨rfl, by simpa using hany⟩
      · rintro ⟨rfl, hgoes⟩
        exact ⟨by simpa using hgoes, rfl⟩

theorem forCode_resolve (fs : Files) (o : HighlightOptions) (base : String) (isInline : Bool) :
    (resolve fs o base).defaultLang.forCode isInline =
      if (resolve fs o base).supports (o.defaultLang.forCode isInline) then
        o.defaultLang.forCode isInline
      else plaintext :=
  DefaultLang.forCode_retainOr _ plaintext o.defaultLang

theorem supports_forCode (fs : Files) (o : HighlightOptions) (base : String) (isInline : Bool) :
    (resolve fs o base).supports ((resolve fs o base).defaultLang.forCode isInline) = true := by
  rw [forCode_resolve]
  split
  next hsupports => exact hsupports
  next => exact supports_plaintext fs o base

theorem isPlain_highlight {request : Option String} (code : String) (isInline : Bool)
    (hnone : h.grammarFor? (request.getD (h.defaultLang.forCode isInline)) = none) :
    (CodeBlock.highlight h code request isInline).IsPlain code := by
  rw [CodeBlock.highlight, hnone]
  exact CodeBlock.isPlain_plainLines code isInline

/-- What a configuration has to do with the options and the files that it was made from. -/
structure Resolves (fs : Files) (base : String) (o : HighlightOptions) (h : Highlighting) : Prop where
  plainFirst : h.languages.head? = some Language.plain
  theme : h.theme = o.theme
  keepBackground : h.keepBackground = o.keepBackground
  traceVisits : h.traceVisits = o.traceVisits
  degraded : ∀ reason, h.degraded = some reason ↔ ∃ e, o.grammar.Fails fs base e ∧ e.message = reason
  grammar : ∀ g, h.grammar = some g ↔ ∃ doc, o.grammar.Names fs base doc ∧ Grammar.compile? doc = .ok g
  twoLanguages : h.grammar.isSome = true ↔ h.languages.length = 2
  plainAlone : h.isDegraded = true → h.languages = [Language.plain]
  defaultLang : ∀ isInline, h.defaultLang.forCode isInline =
    if ∃ l ∈ h.languages, l.goesBy (o.defaultLang.forCode isInline) = true then
      o.defaultLang.forCode isInline
    else plaintext
  supportsDefault : ∀ isInline, h.supports (h.defaultLang.forCode isInline) = true
  plainCode : h.isDegraded = true →
    ∀ code request isInline, (CodeBlock.highlight h code request isInline).IsPlain code

/-- Whatever the options name and whatever is in the files, there is a configuration to work with. -/
theorem resolve_resolves (fs : Files) (o : HighlightOptions) (base : String) :
    Resolves fs base o (resolve fs o base) where
  plainFirst := rfl
  theme := rfl
  keepBackground := rfl
  traceVisits := rfl
  degraded reason := by
    simp only [← GrammarSource.load?_eq_error]
    exact degraded_ofGrammar
  grammar g := grammar_ofGrammar.trans GrammarSource.load?_eq_ok
  twoLanguages := by
    rw [languages_resolve]
    cases (resolve fs o base).grammar with
    | none => simp
    | some g => simp
  plainAlone hdegraded := by
    rw [languages_resolve, grammar_eq_none hdegraded]
    rfl
  defaultLang isInline := by
    rw [forCode_resolve]
    simp only [supports, List.any_eq_true]
  supportsDefault := supports_forCode fs o base
  plainCode hdegraded code request isInline := by
    apply isPlain_highlight
    rw [grammarFor?, grammar_eq_none hdegraded, ite_self]

end Highlighting

end Scopemark
