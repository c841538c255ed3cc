import Scopemark.Proofs.Grammar.Documents
import Scopemark.Proofs.Highlight.Layers

namespace Scopemark

variable {depth : Nat} {value : Json}

namespace ThemePair

theorem plain (t : ThemePair) : t.toJson.Plain (depth + 1) := by
  apply Json.Plain.record
  simp [Json.Plain.text]

theorem ofJson_toJson (t : ThemePair) : ofJson (depth + 1) t.toJson = .ok t := by
  have hkeys : ([("light", Json.text t.light), ("dark", .text t.dark)].map Prod.fst).Sublist
      ["light", "dark"] := List.Sublist.refl _
  obtain ⟨all, hall, hlookup⟩ := Json.fieldsOf_record (by decide) hkeys
  simp only [Json.lookup_cons_eq_ite] at hlookup
  have hlight : Json.withDefault all "light" ({} : ThemePair).light Json.toText = .ok t.light :=
    Json.withDefault_of_lookup (Json.toText_text _) (by simp [hlookup "light" (by decide)])
  have hdark : Json.withDefault all "dark" ({} : ThemePair).dark Json.toText = .ok t.dark :=
    Json.withDefault_of_lookup (Json.toText_text _) (by simp [hlookup "dark" (by decide)])
  simp only [ofJson, toJson, Json.enter, hall, hlight, hdark, ok_bind]
  rfl

theorem toJson_ne_null (t : ThemePair) : t.toJson ≠ .null := nofun

end ThemePair

namespace DefaultLang

theorem plain (d : DefaultLang) : d.toJson.Plain (depth + 1) := by
  cases d with
  | single lang => exact .text lang
  | split b i =>
      apply Json.Plain.record
      simp [Json.Plain.text]

theorem ofJson_toJson (d : DefaultLang) : ofJson (depth + 1) d.toJson = .ok d := by
  have hwhole : d.toJson.isWhole (depth + 1) = true := d.plain.isWhole
  unfold ofJson
  rw [hwhole]
  cases d with
  | single lang => rfl
  | split b i =>
      have hkeys : ([("block", Json.text b), ("inline", .text i)].map Prod.fst).Sublist
          ["block", "inline"] := List.Sublist.refl _
      obtain ⟨all, hall, hlookup⟩ := Json.fieldsOf_record (by decide) hkeys
      simp only [Json.lookup_cons_eq_ite] at hlookup
      have hblock : Json.required all "block" Json.toText = .ok b :=
        Json.required_of_lookup (Json.toText_text b) (by simp [hlookup "block" (by decide)])
      have hinline : Json.required all "inline" Json.toText = .ok i :=
        Json.required_of_lookup (Json.toText_text i) (by simp [hlookup "inline" (by decide)])
      have hsplit : splitOfFields [(some "block", .text b), (some "inline", .text i)] =
          .ok (split b i) := by
        refine bind_eq_ok.mpr ⟨all, hall, ?_⟩
        rw [hblock, hinline]
        rfl
      exact hsplit

theorem toJson_ne_null (d : DefaultLang) : d.toJson ≠ .null := by
  cases d with
  | single lang => exact nofun
  | split b i => exact nofun

end DefaultLang

namespace GrammarSource

variable {s : GrammarSource}

def Fits (depth : Nat) (s : GrammarSource) : Prop := ∀ g, s = .document g → g.Fits depth

theorem fits_of_ofJson (h : ofJson (depth + 2) value = .ok s) : s.Fits depth := by
  rintro g rfl
  unfold ofJson at h
  split at h
  · cases h
  · split at h
    · cases h
    · cases h
    · obtain ⟨g', hread, he⟩ := map_eq_ok.mp h
      cases he
      exact GrammarText.fits_of_ofJson hread

theorem Fits.rebased (h : s.Fits depth) (base : String) : (s.rebased base).Fits depth := by
  cases s with
  | none => exact h
  | file path => exact nofun
  | document g => exact h

theorem Fits.plain (h : s.Fits depth) : s.toJson.Plain (depth + 2) := by
  cases s with
  | none => exact .null
  | file path => exact .text path
  | document g => exact (h g rfl).plain

theorem Fits.ofJson_toJson (h : s.Fits depth) : ofJson (depth + 2) s.toJson = .ok s := by
  have hwhole : s.toJson.isWhole (depth + 2) = true := h.plain.isWhole
  unfold ofJson
  rw [hwhole]
  cases s with
  | none => rfl
  | file path => rfl
  | document g =>
      have hread := (h g rfl).ofJson_toJson
      rw [GrammarText.toJson_eq] at hread
      rw [toJson, GrammarText.toJson_eq]
      exact map_eq_ok.mpr ⟨g, hread, rfl⟩

end GrammarSource

namespace HighlightOptions

variable {o o' : HighlightOptions} {text : String}

def Fits (o : HighlightOptions) : Prop := o.grammar.Fits (Json.depthLimit - 3)

def asUser (o : HighlightOptions) : UserOptions where
  theme := some o.theme
  keepBackground := some o.keepBackground
  defaultLang := some o.defaultLang
  grammar := some o.grammar
  traceVisits := some o.traceVisits

theorem merge_asUser (b o : HighlightOptions) : b.merge o.asUser = o := by
  cases o
  rfl

theorem fieldsOf_toJson (o : HighlightOptions) : ∃ all, Json.fieldsOf optionNames o.toJson = .ok all ∧
    all.lookup "theme" = some o.theme.toJson ∧
    all.lookup "keepBackground" = some (.bool o.keepBackground) ∧
    all.lookup "defaultLang" = some o.defaultLang.toJson ∧
    all.lookup "grammar" = some o.grammar.toJson ∧
    all.lookup "traceVisits" = some (.bool o.traceVisits) := by
  have hkeys : ([("theme", o.theme.toJson), ("keepBackground", .bool o.keepBackground),
      ("defaultLang", o.defaultLang.toJson), ("grammar", o.grammar.toJson),
      ("traceVisits", .bool o.traceVisits)].map Prod.fst).Sublist optionNames := List.Sublist.refl _
  obtain ⟨all, hall, hlookup⟩ := Json.fieldsOf_record (by decide) hkeys
  simp only [Json.lookup_cons_eq_ite] at hlookup
  simp only [optionNames, List.forall_mem_cons] at hlookup
  refine ⟨all, hall, ?_⟩
  simpa using hlookup

theorem Fits.ofJson_toJson (h : o.Fits) : ofJson Json.depthLimit o.toJson = .ok o := by
  obtain ⟨all, hall, htheme, hkeep, hlang, hgrammar, htrace⟩ := o.fieldsOf_toJson
  have htheme : Json.withDefault all "theme" {} (ThemePair.ofJson (Json.depthLimit - 1)) = .ok o.theme :=
    Json.withDefault_of_lookup (ThemePair.ofJson_toJson _) htheme
  have hkeep : Json.withDefault all "keepBackground" false Json.toBool = .ok o.keepBackground :=
    Json.withDefault_of_lookup (Json.toBool_bool _) hkeep
  have hlang : Json.withDefault all "defaultLang" (.single plaintext)
      (DefaultLang.ofJson (Json.depthLimit - 1)) = .ok o.defaultLang :=
    Json.withDefault_of_lookup (DefaultLang.ofJson_toJson _) hlang
  have hgrammar : Json.withDefault all "grammar" .none
      (GrammarSource.ofJson (Json.depthLimit - 1)) = .ok o.grammar :=
    Json.withDefault_of_lookup (GrammarSource.Fits.ofJson_toJson h) hgrammar
  have htrace : Json.withDefault all "traceVisits" false Json.toBool = .ok o.traceVisits :=
    Json.withDefault_of_lookup (Json.toBool_bool _) htrace
  have henter : Json.enter Json.depthLimit = .ok (Json.depthLimit - 1) := rfl
  simp only [ofJson, henter, hall, htheme, hkeep, hlang, hgrammar, htrace, ok_bind]
  rfl

theorem Fits.ofJson_user (h : o.Fits) : UserOptions.ofJson Json.depthLimit o.toJson = .ok o.asUser := by
  obtain ⟨all, hall, htheme, hkeep, hlang, hgrammar, htrace⟩ := o.fieldsOf_toJson
  refine UserOptions.ofJson_eq_ok.mpr ⟨all, hall, ?_, ?_, ?_, ?_, ?_⟩
  · refine Json.withDefault_of_lookup ?_ htheme
    exact Json.toOption_of_ne_null (ThemePair.ofJson_toJson _) o.theme.toJson_ne_null
  · refine Json.withDefault_of_lookup ?_ hkeep
    exact Json.toOption_of_ne_null (Json.toBool_bool _) nofun
  · refine Json.withDefault_of_lookup ?_ hlang
    exact Json.toOption_of_ne_null (DefaultLang.ofJson_toJson _) o.defaultLang.toJson_ne_null
  · refine Json.withDefault_of_lookup ?_ hgrammar
    exact map_eq_ok.mpr ⟨_, GrammarSource.Fits.ofJson_toJson h, rfl⟩
  · refine Json.withDefault_of_lookup ?_ htrace
    exact Json.toOption_of_ne_null (Json.toBool_bool _) nofun

theorem Fits.plain (h : o.Fits) : o.toJson.Plain Json.depthLimit := by
  have hgrammar : o.grammar.toJson.Plain (Json.depthLimit - 1) := GrammarSource.Fits.plain h
  have htheme : o.theme.toJson.Plain (Json.depthLimit - 1) := o.theme.plain
  have hlang : o.defaultLang.toJson.Plain (Json.depthLimit - 1) := o.defaultLang.plain
  have hrecord : o.toJson.Plain (Json.depthLimit - 1 + 1) := by
    apply Json.Plain.record
    simp [Json.Plain.bool, htheme, hlang, hgrammar]
  exact hrecord

theorem fits_of_ofJson (h : ofJson Json.depthLimit value = .ok o) : o.Fits := by
  obtain ⟨_, hdepth, h⟩ := bind_eq_ok.mp h
  cases hdepth
  obtain ⟨fields, _, h⟩ := bind_eq_ok.mp h
  obtain ⟨theme, _, h⟩ := bind_eq_ok.mp h
  obtain ⟨keepBackground, _, h⟩ := bind_eq_ok.mp h
  obtain ⟨defaultLang, _, h⟩ := bind_eq_ok.mp h
  obtain ⟨grammar, hgrammar, h⟩ := bind_eq_ok.mp h
  obtain ⟨traceVisits, _, h⟩ := bind_eq_ok.mp h
  cases h
  rcases Json.withDefault_eq_ok.mp hgrammar with ⟨_, rfl⟩ | ⟨v, _, hv⟩
  · exact nofun
  · exact GrammarSource.fits_of_ofJson hv

end HighlightOptions

namespace UserOptions

variable {user : UserOptions} {o : HighlightOptions} {text : String}

theorem fits_of_ofJson (h : ofJson Json.depthLimit value = .ok user) :
    ∀ s ∈ user.grammar, s.Fits (Json.depthLimit - 3) := by
  obtain ⟨fields, _, huser⟩ := ofJson_eq_ok.mp h
  intro s hs
  rcases Json.withDefault_eq_ok.mp huser.grammar with ⟨_, hnone⟩ | ⟨v, _, hv⟩
  · cases hnone.symm.trans hs
  · obtain ⟨s', hread, hsome⟩ := map_eq_ok.mp hv
    cases hsome.trans hs
    exact GrammarSource.fits_of_ofJson hread

theorem fits_of_read? (h : read? text = .ok user) : ∀ s ∈ user.grammar, s.Fits (Json.depthLimit - 3) := by
  obtain ⟨v, _, hv⟩ := Json.decode_eq_ok.mp (mapError_eq_ok.mp h)
  exact fits_of_ofJson hv

end UserOptions

namespace HighlightOptions

variable {o o' : HighlightOptions} {user : UserOptions} {text : String}

theorem fits_of_read? (h : read? text = .ok o) : o.Fits := by
  obtain ⟨v, _, hv⟩ := Json.decode_eq_ok.mp (mapError_eq_ok.mp h)
  exact fits_of_ofJson hv

theorem Fits.merge (h : o.Fits) (huser : ∀ s ∈ user.grammar, s.Fits (Json.depthLimit - 3)) :
    (o.merge user).Fits := by
  unfold Fits HighlightOptions.merge
  cases hgrammar : user.grammar with
  | none => exact h
  | some s => exact huser s hgrammar

theorem Fits.mergeText (h : o.Fits) (hmerge : o.mergeText text = .ok o') : o'.Fits := by
  obtain ⟨user, huser, rfl⟩ := map_eq_ok.mp hmerge
  exact h.merge (UserOptions.fits_of_read? huser)

theorem Fits.mergeFile {fs : Files} {path : String} (h : o.Fits) (hmerge : o.mergeFile fs path = .ok o') :
    o'.Fits := by
  obtain ⟨text, _, hmerge⟩ := bind_eq_ok.mp hmerge
  obtain ⟨user, huser, hmerge⟩ := bind_eq_ok.mp hmerge
  have hfits := UserOptions.fits_of_read? huser
  split at hmerge
  · cases hmerge
    refine h.merge fun s hs => ?_
    obtain ⟨s', hs', rfl⟩ := Option.map_eq_some_iff.mp hs
    exact (hfits s' hs').rebased _
  · cases hmerge
    exact h.merge hfits

/-- Options that layers have made out of those that are built in or read as a whole. -/
inductive Layered : HighlightOptions → Prop
  | default : Layered {}
  | site : Layered site
  | read {text : String} {o : HighlightOptions} (h : read? text = .ok o) : Layered o
  | mergeText {text : String} {o o' : HighlightOptions} (h : Layered o)
      (hmerge : o.mergeText text = .ok o') : Layered o'
  | mergeFile {fs : Files} {path : String} {o o' : HighlightOptions} (h : Layered o)
      (hmerge : o.mergeFile fs path = .ok o') : Layered o'

theorem Layered.fits (h : Layered o) : o.Fits := by
  induction h with
  | default => exact nofun
  | site => exact nofun
  | read h => exact fits_of_read? h
  | mergeText _ hmerge ih => exact ih.mergeText hmerge
  | mergeFile _ hmerge ih => exact ih.mergeFile hmerge

/-- Whatever the base has, the written options replace it. -/
theorem Layered.overrides (h : Layered o) (base : HighlightOptions) (indent : Option Nat) :
    read? (.ofList (Json.write indent o.toJson)) = .ok o ∧
      base.mergeText (.ofList (Json.write indent o.toJson)) = .ok o := by
  have hfits := h.fits
  constructor
  · exact mapError_eq_ok.mpr ((hfits.plain.decode_write indent).trans hfits.ofJson_toJson)
  · refine map_eq_ok.mpr ⟨o.asUser, ?_, merge_asUser base o⟩
    exact mapError_eq_ok.mpr ((hfits.plain.decode_write indent).trans hfits.ofJson_user)

def apartText : String :=
  "\x7b\x22defaultLang\x22:\x7b\x22inline\x22:\x22i\x22,\x22block\x22:\x22b\x22\x7d," ++
  "\x22grammar\x22:\x7b\x22name\x22:\x22P\x22,\x22scopeName\x22:\x22p\x22,\x22patterns\x22:[[\x22#q\x22]]\x7d\x7d"

def apart : HighlightOptions where
  defaultLang := .split "b" "i"
  grammar := .document { name := "P", scopeName := "p", rules := [{ includes := some "#q" }] }

theorem overrides_apart : mergeText {} apartText = .ok apart ∧
    read? (.ofList (Json.write none apart.toJson)) = .ok apart ∧
    site.mergeText (.ofList (Json.write none apart.toJson)) = .ok apart := by
  have hmerge : mergeText {} apartText = .ok apart := by cbv
  exact ⟨hmerge, (Layered.default.mergeText hmerge).overrides site none⟩

end HighlightOptions

end Scopemark
