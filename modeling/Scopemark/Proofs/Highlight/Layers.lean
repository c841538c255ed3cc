import Mathlib
import Scopemark.Highlight.Options
import Scopemark.Proofs.Json.Records

namespace Scopemark

structure UserOptions.ReadFrom (fields : Json.Fields) (user : UserOptions) : Prop where
  theme : Json.withDefault fields "theme" none
    (Json.toOption (ThemePair.ofJson (Json.depthLimit - 1))) = .ok user.theme
  keepBackground : Json.withDefault fields "keepBackground" none (Json.toOption Json.toBool) =
    .ok user.keepBackground
  defaultLang : Json.withDefault fields "defaultLang" none
    (Json.toOption (DefaultLang.ofJson (Json.depthLimit - 1))) = .ok user.defaultLang
  grammar : Json.withDefault fields "grammar" none
    (fun v => (GrammarSource.ofJson (Json.depthLimit - 1) v).map some) = .ok user.grammar
  traceVisits : Json.withDefault fields "traceVisits" none (Json.toOption Json.toBool) =
    .ok user.traceVisits

theorem UserOptions.ofJson_eq_ok {doc : Json} {user : UserOptions} :
    ofJson Json.depthLimit doc = .ok user ↔
      ∃ fields, Json.fieldsOf optionNames doc = .ok fields ∧ user.ReadFrom fields := by
  constructor
  · intro h
    obtain ⟨_, hdepth, h⟩ := bind_eq_ok.mp h
    cases hdepth
    obtain ⟨fields, hfields, h⟩ := bind_eq_ok.mp h
    obtain ⟨theme, htheme, h⟩ := bind_eq_ok.mp h
    obtain ⟨keepBackground, hkeep, h⟩ := bind_eq_ok.mp h
    obtain ⟨defaultLang, hlang, h⟩ := bind_eq_ok.mp h
    obtain ⟨grammar, hgrammar, h⟩ := bind_eq_ok.mp h
    obtain ⟨traceVisits, htrace, h⟩ := bind_eq_ok.mp h
    cases h
    exact ⟨fields, hfields, htheme, hkeep, hlang, hgrammar, htrace⟩
  · rintro ⟨fields, hfields, h⟩
    have henter : Json.enter Json.depthLimit = .ok (Json.depthLimit - 1) := rfl
    simp only [ofJson, henter, hfields, h.theme, h.keepBackground, h.defaultLang, h.grammar,
      h.traceVisits, ok_bind]
    rfl

inductive Setting
  | light
  | dark
  | keepBackground
  | defaultLang
  | grammar
  | traceVisits

namespace Setting

def Value : Setting → Type
  | light | dark => String
  | keepBackground | traceVisits => Bool
  | defaultLang => DefaultLang
  | grammar => GrammarSource

def of (o : HighlightOptions) : (s : Setting) → s.Value
  | light => o.theme.light
  | dark => o.theme.dark
  | keepBackground => o.keepBackground
  | defaultLang => o.defaultLang
  | grammar => o.grammar
  | traceVisits => o.traceVisits

/-- What a document says about a setting: the value it names, or that its theme leaves this half out. -/
inductive Said
  | named (value : Json)
  | leftOut

def present : Option Json → Option Json
  | some .null => none
  | value => value

def saidBy (theme : Json) (half : String) : Said :=
  match Json.field? ["light", "dark"] half theme with
  | some value => .named value
  | none => .leftOut

def said? (s : Setting) (doc : Json) : Option Said :=
  match s with
  | light => (present (Json.field? optionNames "theme" doc)).map (saidBy · "light")
  | dark => (present (Json.field? optionNames "theme" doc)).map (saidBy · "dark")
  | keepBackground => (present (Json.field? optionNames "keepBackground" doc)).map .named
  | defaultLang => (present (Json.field? optionNames "defaultLang" doc)).map .named
  | grammar => (Json.field? optionNames "grammar" doc).map .named
  | traceVisits => (present (Json.field? optionNames "traceVisits" doc)).map .named

def Reads (value : Json) : (s : Setting) → s.Value → Prop
  | light, name | dark, name => value = .text name
  | keepBackground, b | traceVisits, b => value = .bool b
  | defaultLang, .single lang => value = .text lang
  | defaultLang, .split b i => Json.field? ["block", "inline"] "block" value = some (.text b) ∧
      Json.field? ["block", "inline"] "inline" value = some (.text i)
  | grammar, .none => value = .null
  | grammar, .file path => value = .text path
  | grammar, .document g => GrammarText.ofJson (Json.depthLimit - 1) value = .ok g

def Becomes (s : Setting) (before after : s.Value) : Option Said → Prop
  | none => after = before
  | some (.named value) => s.Reads value after
  | some .leftOut => after = s.of {}

variable {α : Type} {depth : Nat} {names : List String} {name : String} {doc theme value : Json}
  {fields : Json.Fields}

theorem present_of_ne_null (h : value ≠ .null) : present (some value) = some value := by
  unfold present
  split
  next he => exact absurd (Option.some.inj he) h
  next => rfl

/-- A setting of the user is what is read where it is present. -/
theorem cases_of_toOption {read : Json → Except Json.Fault α} {x : Option α}
    (hfields : Json.fieldsOf names doc = .ok fields) (hname : name ∈ names)
    (h : Json.withDefault fields name none (Json.toOption read) = .ok x) :
    (present (Json.field? names name doc) = none ∧ x = none) ∨
      ∃ v a, present (Json.field? names name doc) = some v ∧ read v = .ok a ∧ x = some a := by
  rw [← Json.lookup_of_fieldsOf hfields hname]
  rcases Json.withDefault_eq_ok.mp h with ⟨hlookup, rfl⟩ | ⟨v, hlookup, hv⟩
  · rw [hlookup]
    exact .inl ⟨rfl, rfl⟩
  · rw [hlookup]
    by_cases hnull : v = .null
    · subst hnull
      cases hv
      exact .inl ⟨rfl, rfl⟩
    · rw [Json.toOption_eq_map hnull] at hv
      obtain ⟨a, ha, rfl⟩ := map_eq_ok.mp hv
      exact .inr ⟨v, a, present_of_ne_null hnull, ha, rfl⟩

theorem saidBy_cases {half built text : String} (hfields : Json.fieldsOf ["light", "dark"] theme = .ok fields)
    (hhalf : half ∈ ["light", "dark"]) (h : Json.withDefault fields half built Json.toText = .ok text) :
    saidBy theme half = .leftOut ∧ text = built ∨ saidBy theme half = .named (.text text) := by
  unfold saidBy
  rw [← Json.lookup_of_fieldsOf hfields hhalf]
  rcases Json.withDefault_eq_ok.mp h with ⟨hlookup, rfl⟩ | ⟨v, hlookup, hv⟩
  · rw [hlookup]
    exact .inl ⟨rfl, rfl⟩
  · rw [hlookup, Json.eq_text_of_toText hv]
    exact .inr rfl

theorem becomes_half {t : ThemePair} (h : ThemePair.ofJson depth theme = .ok t) (before : ThemePair) :
    light.Becomes before.light t.light (some (saidBy theme "light")) ∧
      dark.Becomes before.dark t.dark (some (saidBy theme "dark")) := by
  obtain ⟨_, _, h⟩ := bind_eq_ok.mp h
  obtain ⟨fields, hfields, h⟩ := bind_eq_ok.mp h
  obtain ⟨first, hlight, h⟩ := bind_eq_ok.mp h
  obtain ⟨second, hdark, h⟩ := bind_eq_ok.mp h
  cases h
  constructor
  · rcases saidBy_cases hfields (by decide) hlight with ⟨hsaid, rfl⟩ | hsaid
    · rw [hsaid]
      rfl
    · rw [hsaid]
      rfl
  · rcases saidBy_cases hfields (by decide) hdark with ⟨hsaid, rfl⟩ | hsaid
    · rw [hsaid]
      rfl
    · rw [hsaid]
      rfl

theorem reads_defaultLang {d : DefaultLang} (h : DefaultLang.ofJson depth value = .ok d) :
    defaultLang.Reads value d := by
  unfold DefaultLang.ofJson at h
  split at h
  · cases h
  · split at h
    · cases h
      rfl
    next entries _ =>
      obtain ⟨fields, hknown, h⟩ := bind_eq_ok.mp h
      have hfields : Json.fieldsOf ["block", "inline"] (.object entries) = .ok fields := hknown
      obtain ⟨b, hblock, h⟩ := bind_eq_ok.mp h
      obtain ⟨i, hinline, h⟩ := bind_eq_ok.mp h
      cases h
      obtain ⟨v, hfirst, hv⟩ := Json.required_eq_ok.mp hblock
      obtain ⟨w, hsecond, hw⟩ := Json.required_eq_ok.mp hinline
      rw [Json.lookup_of_fieldsOf hfields (by decide), Json.eq_text_of_toText hv] at hfirst
      rw [Json.lookup_of_fieldsOf hfields (by decide), Json.eq_text_of_toText hw] at hsecond
      exact ⟨hfirst, hsecond⟩
    · cases h

theorem reads_grammar {g : GrammarSource} (h : GrammarSource.ofJson (Json.depthLimit - 1) value = .ok g) :
    grammar.Reads value g := by
  unfold GrammarSource.ofJson at h
  split at h
  · cases h
  · split at h
    · cases h
      rfl
    · cases h
      rfl
    · obtain ⟨g', hread, rfl⟩ := map_eq_ok.mp h
      exact hread

/-- A setting that the user may leave out, or may write as null. -/
theorem becomes_getD {s : Setting} {read : Json → Except Json.Fault α} {x : Option α} {f : α → s.Value}
    {say : Json → Said} (before : α) (hfields : Json.fieldsOf names doc = .ok fields)
    (hname : name ∈ names) (hx : Json.withDefault fields name none (Json.toOption read) = .ok x)
    (hread : ∀ v a, read v = .ok a → s.Becomes (f before) (f a) (some (say v))) :
    s.Becomes (f before) (f (x.getD before)) ((present (Json.field? names name doc)).map say) := by
  rcases cases_of_toOption hfields hname hx with ⟨hnone, rfl⟩ | ⟨v, a, hsome, ha, rfl⟩
  · rw [hnone]
    rfl
  · rw [hsome]
    exact hread v a ha

theorem becomes_merge {user : UserOptions} (h : UserOptions.ofJson Json.depthLimit doc = .ok user)
    (base : HighlightOptions) (s : Setting) :
    s.Becomes (s.of base) (s.of (base.merge user)) (s.said? doc) := by
  obtain ⟨fields, hfields, huser⟩ := UserOptions.ofJson_eq_ok.mp h
  cases s with
  | light =>
      refine becomes_getD (s := .light) (f := ThemePair.light) base.theme hfields (by decide) huser.theme ?_
      exact fun v t ht => (becomes_half ht base.theme).1
  | dark =>
      refine becomes_getD (s := .dark) (f := ThemePair.dark) base.theme hfields (by decide) huser.theme ?_
      exact fun v t ht => (becomes_half ht base.theme).2
  | keepBackground =>
      refine becomes_getD (s := .keepBackground) (f := id) base.keepBackground hfields (by decide) huser.keepBackground ?_
      exact fun v b hb => Json.eq_bool_of_toBool hb
  | defaultLang =>
      refine becomes_getD (s := .defaultLang) (f := id) base.defaultLang hfields (by decide) huser.defaultLang ?_
      exact fun v d hd => reads_defaultLang hd
  | grammar =>
      -- null is a value here, so that it does not stand for nothing
      change grammar.Becomes base.grammar (user.grammar.getD base.grammar) _
      rw [said?, ← Json.lookup_of_fieldsOf hfields (by decide)]
      rcases Json.withDefault_eq_ok.mp huser.grammar with ⟨hlookup, hnone⟩ | ⟨v, hlookup, hv⟩
      · rw [hlookup, hnone]
        rfl
      · obtain ⟨g, hread, hsome⟩ := map_eq_ok.mp hv
        rw [hlookup, ← hsome]
        exact reads_grammar hread
  | traceVisits =>
      refine becomes_getD (s := .traceVisits) (f := id) base.traceVisits hfields (by decide) huser.traceVisits ?_
      exact fun v b hb => Json.eq_bool_of_toBool hb

theorem becomes_mergeText {base o : HighlightOptions} {text : String} (h : base.mergeText text = .ok o) :
    ∃ doc, Json.read? text.toList = some doc ∧
      ∀ s : Setting, s.Becomes (s.of base) (s.of o) (s.said? doc) := by
  obtain ⟨user, huser, rfl⟩ := map_eq_ok.mp h
  obtain ⟨doc, hdoc, hread⟩ := Json.decode_eq_ok.mp (mapError_eq_ok.mp huser)
  exact ⟨doc, hdoc, becomes_merge hread base⟩

theorem Becomes.trans {s : Setting} {first second third : s.Value} {said said' : Option Said}
    (h : s.Becomes first second said) (k : s.Becomes second third said') :
    s.Becomes first third (said'.or said) := by
  cases said' with
  | none =>
      have heq : third = second := k
      rw [heq]
      exact h
  | some said' =>
      cases said' with
      | named value => exact k
      | leftOut => exact k

end Setting

namespace HighlightOptions

/-- Each setting is decided by the last layer that says something about it. -/
theorem decided_by_last {base o : HighlightOptions} {texts : List String}
    (h : texts.foldlM mergeText base = .ok o) :
    ∃ docs, List.Forall₂ (fun text doc => Json.read? text.toList = some doc) texts docs ∧
      ∀ s : Setting, s.Becomes (s.of base) (s.of o) (docs.reverse.findSome? s.said?) := by
  induction texts generalizing base with
  | nil =>
      cases h
      refine ⟨[], .nil, fun s => ?_⟩
      cases s <;> rfl
  | cons text texts ih =>
      obtain ⟨next, hmerge, h⟩ := bind_eq_ok.mp h
      obtain ⟨doc, hdoc, hfirst⟩ := Setting.becomes_mergeText hmerge
      obtain ⟨docs, hdocs, hlater⟩ := ih h
      refine ⟨doc :: docs, .cons hdoc hdocs, fun s => ?_⟩
      rw [List.reverse_cons, List.findSome?_append, List.findSome?_singleton]
      exact (hfirst s).trans (hlater s)

def solarizedText : String := "\x7b\x22theme\x22:\x7b\x22light\x22:\x22solarized\x22\x7d\x7d"

def nordText : String := "\x7b\x22theme\x22:\x7b\x22dark\x22:\x22nord\x22\x7d\x7d"

def solarized : HighlightOptions where
  theme := { light := "solarized" }

def nord : HighlightOptions where
  theme := { dark := "nord" }

theorem mergeText_solarizedText : mergeText {} solarizedText = .ok solarized := by cbv

theorem mergeText_nordText : solarized.mergeText nordText = .ok nord := by cbv

theorem decided_by_last_nordText : [solarizedText, nordText].foldlM mergeText {} = .ok nord ∧
    ∃ docs, List.Forall₂ (fun text doc => Json.read? text.toList = some doc)
      [solarizedText, nordText] docs ∧
      ∀ s : Setting, s.Becomes (s.of {}) (s.of nord) (docs.reverse.findSome? s.said?) := by
  have hrun : [solarizedText, nordText].foldlM mergeText {} = .ok nord :=
    bind_eq_ok.mpr ⟨solarized, mergeText_solarizedText, bind_eq_ok.mpr ⟨nord, mergeText_nordText, rfl⟩⟩
  exact ⟨hrun, decided_by_last hrun⟩

/-- A theme that names only its dark half takes the light one of the layers below away. -/
theorem light_not_kept : ∃ doc, mergeText {} solarizedText = .ok solarized ∧
    solarized.mergeText nordText = .ok nord ∧ Json.read? nordText.toList = some doc ∧
    (∀ value, Setting.light.said? doc ≠ some (.named value)) ∧
    Setting.light.of solarized = "solarized" ∧ Setting.light.of nord = "github-light" := by
  refine ⟨.record [("theme", .record [("dark", .text "nord")])], mergeText_solarizedText,
    mergeText_nordText, by cbv, ?_, rfl, rfl⟩
  intro value h
  have hleft : Setting.light.said? (.record [("theme", .record [("dark", .text "nord")])]) =
      some .leftOut := rfl
  cases hleft.symm.trans h

end HighlightOptions

end Scopemark
