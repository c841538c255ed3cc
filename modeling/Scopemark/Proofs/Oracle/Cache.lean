import Mathlib.Data.Finset.Card
import Mathlib.Data.List.Nodup
import Scopemark.Grammar.Oracle

namespace Scopemark

variable {g : Grammar} {key : String → UInt64} {c : Cache} {k : UInt64} {t text : String}
  {tokens : TokenizedText} {e : UInt64 × String × TokenizedText}

namespace Cache

def keys (c : Cache) : List UInt64 := c.entries.map fun e => e.1

def texts (c : Cache) : List String := c.entries.map fun e => e.2.1

/-- Each key has one entry, which holds a text with this key and the tokens of this text. -/
structure Sound (g : Grammar) (key : String → UInt64) (c : Cache) : Prop where
  distinct : c.keys.Nodup
  own : ∀ k text tokens, (k, text, tokens) ∈ c.entries → key text = k ∧ tokens = g.tokenize text

theorem mem_texts : t ∈ c.texts ↔ ∃ k tokens, (k, t, tokens) ∈ c.entries := by
  simp [texts]

theorem mem_remove : e ∈ (c.remove k).entries ↔ e ∈ c.entries ∧ e.1 ≠ k := by
  simp [remove]

theorem mem_insert : e ∈ (c.insert k text tokens).entries ↔
    e = (k, text, tokens) ∨ e ∈ c.entries ∧ e.1 ≠ k := by
  rw [insert, List.mem_cons, mem_remove]

theorem mem_texts_of_insert (h : t ∈ (c.insert k text tokens).texts) : t = text ∨ t ∈ c.texts := by
  obtain ⟨k', tokens', h⟩ := mem_texts.mp h
  rcases mem_insert.mp h with he | ⟨h, _⟩
  · cases he
    exact .inl rfl
  · exact .inr (mem_texts.mpr ⟨k', tokens', h⟩)

theorem mem_of_find?_eq_some (h : c.find? k text = some tokens) : (k, text, tokens) ∈ c.entries := by
  unfold find? at h
  split at h
  next kept tokens' hlookup =>
    obtain ⟨before, after, hentries, _⟩ := List.lookup_eq_some_iff.mp hlookup
    split at h
    next hkept =>
      cases h
      rw [hentries, ← hkept]
      exact List.mem_append_right _ List.mem_cons_self
    next => cases h
  next => cases h

theorem sound_empty : Sound g key empty := ⟨List.nodup_nil, by simp [empty]⟩

namespace Sound

theorem eq_of_mem (hc : c.Sound g key) {e e' : UInt64 × String × TokenizedText} (he : e ∈ c.entries)
    (he' : e' ∈ c.entries) (h : e.1 = e'.1) : e = e' :=
  List.inj_on_of_nodup_map hc.distinct he he' h

theorem find?_eq_some_iff (hc : c.Sound g key) :
    c.find? k text = some tokens ↔ (k, text, tokens) ∈ c.entries := by
  refine ⟨mem_of_find?_eq_some, fun h => ?_⟩
  cases hlookup : c.entries.lookup k with
  | none => simpa using List.lookup_eq_none_iff.mp hlookup _ h
  | some kept =>
      obtain ⟨before, after, hentries, _⟩ := List.lookup_eq_some_iff.mp hlookup
      have hmem : (k, kept) ∈ c.entries := by
        rw [hentries]
        exact List.mem_append_right _ List.mem_cons_self
      cases hc.eq_of_mem h hmem rfl
      simp [find?, hlookup]

theorem tokens_eq (hc : c.Sound g key) (h : c.find? k text = some tokens) :
    tokens = g.tokenize text :=
  (hc.own _ _ _ (mem_of_find?_eq_some h)).2

theorem mem_texts_iff (hc : c.Sound g key) :
    text ∈ c.texts ↔ (c.find? (key text) text).isSome := by
  rw [mem_texts, Option.isSome_iff_exists]
  constructor
  · rintro ⟨k, tokens, h⟩
    obtain ⟨rfl, _⟩ := hc.own _ _ _ h
    exact ⟨tokens, hc.find?_eq_some_iff.mpr h⟩
  · rintro ⟨tokens, h⟩
    exact ⟨key text, tokens, mem_of_find?_eq_some h⟩

theorem remove (hc : c.Sound g key) : (c.remove k).Sound g key where
  distinct := hc.distinct.sublist (List.filter_sublist.map _)
  own _ _ _ h := hc.own _ _ _ (mem_remove.mp h).1

theorem insert (hc : c.Sound g key) : (c.insert (key text) text (g.tokenize text)).Sound g key where
  distinct := by
    refine List.nodup_cons.mpr ⟨fun h => ?_, hc.remove.distinct⟩
    obtain ⟨e, he, hk⟩ := List.mem_map.mp h
    exact (mem_remove.mp he).2 hk
  own k t tokens h := by
    rcases mem_insert.mp h with he | ⟨h, _⟩
    · cases he
      exact ⟨rfl, rfl⟩
    · exact hc.own _ _ _ h

theorem evict (hc : c.Sound g key) : (c.evict k text).Sound g key := by
  unfold Cache.evict
  split
  · exact hc.remove
  · exact hc

theorem mem_texts_insert (hc : c.Sound g key) (hkey : ∀ t ∈ c.texts, key t = key text → t = text) :
    t ∈ (c.insert (key text) text tokens).texts ↔ t = text ∨ t ∈ c.texts := by
  refine ⟨mem_texts_of_insert, ?_⟩
  simp only [mem_texts, mem_insert]
  rintro (rfl | ⟨k, tokens', h⟩)
  · exact ⟨key t, tokens, .inl rfl⟩
  · by_cases hk : k = key text
    · obtain ⟨rfl, _⟩ := hc.own _ _ _ h
      cases hkey t (mem_texts.mpr ⟨_, _, h⟩) hk
      exact ⟨key t, tokens, .inl rfl⟩
    · exact ⟨k, tokens', .inr ⟨h, hk⟩⟩

/-- The other texts stay, also those with the key of the text. -/
theorem mem_texts_evict (hc : c.Sound g key) :
    t ∈ (c.evict (key text) text).texts ↔ t ∈ c.texts ∧ t ≠ text := by
  unfold Cache.evict
  split
  next hmem =>
    obtain ⟨k, tokens, htext⟩ := mem_texts.mp (hc.mem_texts_iff.mpr hmem)
    obtain ⟨rfl, _⟩ := hc.own _ _ _ htext
    simp only [mem_texts, mem_remove]
    constructor
    · rintro ⟨k, tokens', h, hk⟩
      refine ⟨⟨k, tokens', h⟩, ?_⟩
      rintro rfl
      exact hk (hc.own _ _ _ h).1.symm
    · rintro ⟨⟨k, tokens', h⟩, hne⟩
      refine ⟨k, tokens', h, ?_⟩
      rintro rfl
      cases hc.eq_of_mem h htext rfl
      exact hne rfl
  next hmem =>
    refine ⟨fun h => ⟨h, ?_⟩, fun h => h.1⟩
    rintro rfl
    exact hmem (hc.mem_texts_iff.mp h)

theorem size_eq_card (hc : c.Sound g key) : c.size = c.texts.toFinset.card := by
  have hkeys : c.texts.map key = c.keys := by
    rw [texts, List.map_map]
    exact List.map_congr_left fun e he => (hc.own _ _ _ he).1
  have hnodup : c.texts.Nodup := List.Nodup.of_map key (hkeys ▸ hc.distinct)
  rw [List.toFinset_card_of_nodup hnodup, texts, List.length_map]
  rfl

end Sound

end Cache

namespace Grammar

theorem document_run_of_some (h : c.find? (key text) text = some tokens) :
    (g.document key text).run c = (tokens, c) := by
  simp only [document, lookUp, bind_assoc, StateT.run_bind, StateT.run_get, pure_bind, h,
    StateT.run_pure]
  rfl

theorem document_run_of_none (h : c.find? (key text) text = none) :
    (g.document key text).run c = (g.tokenize text, c.insert (key text) text (g.tokenize text)) := by
  simp only [document, lookUp, bind_assoc, StateT.run_bind, StateT.run_get, pure_bind, h,
    StateT.run_pure]
  rfl

end Grammar

end Scopemark
