import Scopemark.Check.Report
import Scopemark.Highlight.Block
import Scopemark.Proofs.Grammar.Compile
import Scopemark.Proofs.Text.Offsets
import Scopemark.Proofs.Tokenizer.Scan

namespace Scopemark

variable {line : List Char} {tokens : LineTokens} {a b : Nat}

theorem Tiles.flatMap_lexeme (h : Tiles a b tokens) (line : List Char) :
    tokens.flatMap (Report.lexeme line) = (line.drop a).take (b - a) := by
  induction h with
  | nil a => rw [Nat.sub_self, List.take_zero, List.flatMap_nil]
  | @cons a b t tokens hstart hlt rest ih =>
      have hle := rest.le
      have hlength : b - a = (t.stop - a) + (b - t.stop) := by omega
      have hnext : a + (t.stop - a) = t.stop := by omega
      rw [List.flatMap_cons, ih, Report.lexeme, hstart, hlength, List.take_add, List.drop_drop, hnext]

namespace CodeBlock

theorem slice?_lexeme {t : Token} (h : t.start < t.stop) (line : List Char) :
    Text.slice? (Text.offsetOf line t.start) (Text.offsetOf line t.stop) line =
      some (Report.lexeme line t) :=
  Text.slice?_offsetOf line (Nat.le_of_lt h)

theorem tokenText_eq_lexeme {t : Token} (h : t.start < t.stop) (line : List Char) :
    tokenText line t = Report.lexeme line t := by
  rw [tokenText, slice?_lexeme h, Option.getD_some]

/-- The span has the scopes of the token in their order, and as its text the bytes of the token, which
are the characters that a report quotes. -/
structure Shows (line : List Char) (t : Token) (s : Span) : Prop where
  scopes : s.scopes = t.scopes.map Scope.name
  nonempty : s.text ≠ ""
  bytes : Text.slice? (Text.offsetOf line t.start) (Text.offsetOf line t.stop) line =
    some s.text.toList
  lexeme : s.text = .ofList (Report.lexeme line t)

theorem cutLine_shows (h : Tiles 0 line.length tokens) :
    List.Forall₂ (Shows line) tokens (cutLine line tokens) := by
  rw [cutLine, List.forall₂_map_right_iff, List.forall₂_same]
  intro t ht
  obtain ⟨_, hlt, hle⟩ := h.bounds ht
  have htext := tokenText_eq_lexeme hlt line
  have hlength : (Report.lexeme line t).length = t.stop - t.start := by
    rw [Report.lexeme, List.length_take, List.length_drop]
    omega
  have hne : Report.lexeme line t ≠ [] := by
    apply List.ne_nil_of_length_pos
    omega
  refine ⟨rfl, ?_, ?_, congrArg String.ofList htext⟩
  · rwa [htext, ne_eq, ← String.toList_eq_nil_iff, String.toList_ofList]
  · rw [String.toList_ofList, htext, slice?_lexeme hlt]

theorem cutLine_text (h : Tiles 0 line.length tokens) :
    (cutLine line tokens).flatMap (fun s => s.text.toList) = line := by
  have hpiece : ∀ t ∈ tokens, (String.ofList (tokenText line t)).toList = Report.lexeme line t := by
    intro t ht
    rw [String.toList_ofList, tokenText_eq_lexeme (h.bounds ht).2.1]
  calc (cutLine line tokens).flatMap (fun s => s.text.toList)
      = tokens.flatMap (Report.lexeme line) := by
        rw [cutLine, List.flatMap_map]
        exact List.flatMap_congr hpiece
    _ = (line.drop 0).take (line.length - 0) := h.flatMap_lexeme line
    _ = line := by rw [List.drop_zero, Nat.sub_zero, List.take_length]

def Spells (line : List Char) (spans : List Span) : Prop :=
  spans.flatMap (fun s => s.text.toList) = line

theorem plainLines_spells (code : List (List Char)) : List.Forall₂ Spells code (plainLines code) := by
  rw [plainLines, List.forall₂_map_right_iff, List.forall₂_same]
  intro line _
  rw [Spells, List.flatMap_singleton, String.toList_ofList]

theorem tiles_of_mem_zip {g : Grammar} {code : String}
    (h : (line, tokens) ∈ (Text.lines code.toList).zip (g.tokenize code).lines) :
    Tiles 0 line.length tokens :=
  (List.forall₂_zip (g.tokenize_cuts code) h).1

theorem grammarLines_spells (g : Grammar) (code : String) :
    List.Forall₂ Spells (Text.lines code.toList) (grammarLines g code) := by
  have hlength : (Text.lines code.toList).length ≤ (g.tokenize code).lines.length :=
    (g.lineCount_tokenize code).ge
  rw [← List.map_fst_zip hlength, grammarLines, List.forall₂_map_left_iff,
    List.forall₂_map_right_iff, List.forall₂_same]
  rintro ⟨line, tokens⟩ h
  exact cutLine_text (tiles_of_mem_zip h)

theorem grammarLines_shows (g : Grammar) (code : String) :
    List.Forall₂ (fun row spans => List.Forall₂ (Shows row.1) row.2 spans)
      ((Text.lines code.toList).zip (g.tokenize code).lines) (grammarLines g code) := by
  rw [grammarLines, List.forall₂_map_right_iff, List.forall₂_same]
  rintro ⟨line, tokens⟩ h
  exact cutLine_shows (tiles_of_mem_zip h)

/-- A block has the lines of the code, with all of their characters in their places. Where there is a
grammar for the language, its spans are the tokens that the grammar cuts the code into. -/
theorem highlight_keeps (h : Highlighting) (code : String) (lang : Option String)
    (isInline : Bool) :
    List.Forall₂ Spells (Text.lines code.toList) (highlight h code lang isInline).lines ∧
    ∀ g, h.grammarFor? (lang.getD (h.defaultLang.forCode isInline)) = some g →
      (g.tokenize code).lineCount = (Text.lines code.toList).length ∧
      List.Forall₂ (fun row spans => List.Forall₂ (Shows row.1) row.2 spans)
        ((Text.lines code.toList).zip (g.tokenize code).lines)
        (highlight h code lang isInline).lines := by
  unfold highlight
  cases h.grammarFor? (lang.getD (h.defaultLang.forCode isInline)) with
  | none => exact ⟨plainLines_spells _, nofun⟩
  | some g =>
      refine ⟨grammarLines_spells g code, ?_⟩
      rintro g ⟨⟩
      exact ⟨g.lineCount_tokenize code, grammarLines_shows g code⟩

def accentText : String := "é<x\r\n"

theorem highlight_keeps_accentText : ∃ g, Grammar.compile? Grammar.nestedText = .ok g ∧
    ∃ b, highlight (.ofGrammar {} (.ok (some g))) accentText (some "Nested") true = b ∧
      List.Forall₂ Spells ["é<x".toList] b.lines ∧
      List.Forall₂ (fun row spans => List.Forall₂ (Shows row.1) row.2 spans)
        (["é<x".toList].zip (g.tokenize accentText).lines) b.lines := by
  have hnamed : (Grammar.compile? Grammar.nestedText).toOption.map (fun g =>
      (Language.ofGrammar g).goesBy "Nested") = some true := by
    decide +kernel
  obtain ⟨g, hcompile, hnamed⟩ := Option.map_eq_some_iff.mp hnamed
  have hgrammar : (Highlighting.ofGrammar {} (.ok (some g))).grammarFor? "Nested" = some g := by
    have hany : [Language.ofGrammar g].any (·.goesBy "Nested") = true := by
      rw [List.any_cons, hnamed, Bool.true_or]
    exact if_pos hany
  obtain ⟨hspells, hshows⟩ :=
    highlight_keeps (.ofGrammar {} (.ok (some g))) accentText (some "Nested") true
  have hlines : Text.lines accentText.toList = ["é<x".toList] := by decide
  rw [hlines] at hspells hshows
  exact ⟨g, eq_ok_of_toOption hcompile, _, rfl, hspells, (hshows g hgrammar).2⟩

end CodeBlock

end Scopemark
