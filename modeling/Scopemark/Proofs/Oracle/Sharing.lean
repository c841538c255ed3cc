import Scopemark.Proofs.Oracle.Request
import Scopemark.Proofs.Tokenizer.Positions

namespace Scopemark.Grammar

variable {g : Grammar} {key : String → UInt64} {text t : String}

structure Shared (Caller : Type) where
  cache : Cache
  /-- The calls that did not find the tokens of their text and have yet to keep them. -/
  pending : Caller → Option Request
  /-- The calls that have returned and what they returned, the last one first. -/
  returned : List (Request × Answer)

namespace Shared

variable {Caller : Type} {s s' : Shared Caller}

def start : Shared Caller := ⟨.empty, fun _ => none, []⟩

def calls (s : Shared Caller) : List Request := s.returned.map Prod.fst

structure Sound (g : Grammar) (key : String → UInt64) (s : Shared Caller) : Prop where
  cache : s.cache.Sound g key
  returned : ∀ call ∈ s.returned, call.2 = call.1.reply g
  pending : ∀ i r, s.pending i = some r → ∃ text, r.asks? = some text
  texts : Set.InjOn key (queried s.calls) → ∀ t, t ∈ s.cache.texts ↔ Kept s.calls t

theorem start_sound : (start : Shared Caller).Sound g key where
  cache := Cache.sound_empty
  returned := by simp [start]
  pending := by simp [start]
  texts _ _ := iff_of_false List.not_mem_nil not_kept_nil

variable [DecidableEq Caller]

inductive Step (g : Grammar) (key : String → UInt64) : Shared Caller → Shared Caller → Prop
  | hit {s : Shared Caller} {r : Request} {text : String} {tokens : TokenizedText} (i : Caller)
      (idle : s.pending i = none) (asks : r.asks? = some text)
      (found : ((lookUp key text).run s.cache).1 = some tokens) :
      Step g key s { s with returned := (r, r.answer tokens) :: s.returned }
  | miss {s : Shared Caller} {r : Request} {text : String} (i : Caller)
      (idle : s.pending i = none) (asks : r.asks? = some text)
      (found : ((lookUp key text).run s.cache).1 = none) :
      Step g key s { s with pending := Function.update s.pending i (some r) }
  | keep {s : Shared Caller} {r : Request} {text : String} (i : Caller)
      (waits : s.pending i = some r) (asks : r.asks? = some text) :
      Step g key s
        { cache := ((Grammar.keep key text (g.tokenize text)).run s.cache).2
          pending := Function.update s.pending i none
          returned := (r, r.answer (g.tokenize text)) :: s.returned }
  | drop {s : Shared Caller} {r : Request} (i : Caller) (idle : s.pending i = none)
      (asks : r.asks? = none) :
      Step g key s
        { s with
          cache := ((r.effect key).run s.cache).2
          returned := (r, .done) :: s.returned }

/-- What some sections lead to, in any order in which the callers may get their turns. -/
inductive Reachable (g : Grammar) (key : String → UInt64) : Shared Caller → Prop
  | start : Reachable g key start
  | step {s s' : Shared Caller} (before : Reachable g key s) (next : Step g key s s') :
      Reachable g key s'

theorem pending_update {P : Request → Prop} {pending : Caller → Option Request} {o : Option Request}
    (h : ∀ i r, pending i = some r → P r) (i : Caller) (ho : ∀ r, o = some r → P r) :
    ∀ j r, Function.update pending i o j = some r → P r := by
  intro j r hr
  by_cases hj : j = i
  · subst hj
    rw [Function.update_self] at hr
    exact ho r hr
  · rw [Function.update_of_ne hj] at hr
    exact h j r hr

theorem Step.sound (h : Step g key s s') (hs : s.Sound g key) : s'.Sound g key := by
  cases h with
  | @hit r text tokens i idle asks found =>
      have htokens : tokens = g.tokenize text := hs.cache.tokens_eq found
      have hreply : r.answer tokens = r.reply g := by
        rw [htokens, Request.answer_eq_reply asks]
      refine ⟨hs.cache, List.forall_mem_cons.mpr ⟨hreply, hs.returned⟩, hs.pending, fun hinj t => ?_⟩
      have hkept := hs.texts (injOn_earlier hinj)
      refine (hkept t).trans (Iff.trans ?_ kept_cons.symm)
      refine ⟨fun h => .inr ⟨Request.not_drops asks, h⟩, ?_⟩
      rintro (ht | ⟨_, h⟩)
      · cases asks.symm.trans ht
        exact (hkept _).mp (Cache.mem_texts.mpr ⟨_, _, Cache.mem_of_find?_eq_some found⟩)
      · exact h
  | @miss r text i idle asks found =>
      refine ⟨hs.cache, hs.returned, pending_update hs.pending i fun r' hr' => ?_, hs.texts⟩
      cases hr'
      exact ⟨text, asks⟩
  | @keep r text i waits asks =>
      refine ⟨hs.cache.insert,
        List.forall_mem_cons.mpr ⟨Request.answer_eq_reply asks, hs.returned⟩,
        pending_update hs.pending i (by simp), fun hinj t => ?_⟩
      have hkept := hs.texts (injOn_earlier hinj)
      have hkey : ∀ t ∈ s.cache.texts, key t = key text → t = text := by
        intro t ht hk
        obtain ⟨query, hquery, hasks⟩ := ((hkept t).mp ht).queried
        exact hinj ⟨query, List.mem_cons_of_mem _ hquery, hasks⟩ ⟨r, List.mem_cons_self, asks⟩ hk
      refine (hs.cache.mem_texts_insert hkey).trans (Iff.trans ?_ kept_cons.symm)
      rw [hkept, asks, Option.some_inj, eq_comm]
      exact or_congr_right (and_iff_right (Request.not_drops asks)).symm
  | @drop r i idle asks =>
      refine ⟨Request.effect_sound hs.cache,
        List.forall_mem_cons.mpr ⟨(Request.reply_eq_done asks).symm, hs.returned⟩, hs.pending,
        fun hinj t => ?_⟩
      refine (Request.mem_texts_effect hs.cache asks).trans (Iff.trans ?_ kept_cons.symm)
      rw [hs.texts (injOn_earlier hinj), asks]
      exact (or_iff_right (by simp)).symm

theorem Reachable.sound (h : Reachable g key s) : s.Sound g key := by
  induction h with
  | start => exact start_sound
  | step _ next ih => exact next.sound ih

/-- Whatever the others do, a call that has made its tokens can keep them and return. -/
theorem Sound.finish {i : Caller} {r : Request} (hs : s.Sound g key) (h : s.pending i = some r) :
    ∃ s', Step g key s s' ∧ s'.pending i = none ∧ s'.returned = (r, r.reply g) :: s.returned := by
  obtain ⟨text, asks⟩ := hs.pending i r h
  refine ⟨_, .keep i h asks, by simp, ?_⟩
  rw [Request.answer_eq_reply asks]

theorem Sound.begin {i : Caller} (hs : s.Sound g key) (h : s.pending i = none) (r : Request) :
    ∃ s', Step g key s s' ∧ (s'.pending i = some r ∨
      s'.pending i = none ∧ s'.returned = (r, r.reply g) :: s.returned) := by
  cases asks : r.asks? with
  | none => exact ⟨_, .drop i h asks, .inr ⟨h, by rw [Request.reply_eq_done asks]⟩⟩
  | some text =>
      cases found : ((lookUp key text).run s.cache).1 with
      | none => exact ⟨_, .miss i h asks found, .inl (by simp)⟩
      | some tokens =>
          refine ⟨_, .hit i h asks found, .inr ⟨h, ?_⟩⟩
          rw [hs.cache.tokens_eq found, Request.answer_eq_reply asks]

/-- A call during which nobody else uses the oracle is its sections one after the other. -/
theorem Reachable.call {i : Caller} (h : Reachable g key s) (idle : s.pending i = none) (r : Request) :
    ∃ s', Reachable g key s' ∧ s'.pending = s.pending ∧
      s'.cache = ((r.call g key).run s.cache).2 ∧
      s'.returned = (r, ((r.call g key).run s.cache).1) :: s.returned := by
  cases asks : r.asks? with
  | none =>
      rw [Request.call_run_of_none asks]
      exact ⟨_, h.step (.drop i idle asks), rfl, rfl, rfl⟩
  | some text =>
      cases found : ((lookUp key text).run s.cache).1 with
      | some tokens =>
          rw [Request.call_run asks, document_run_of_some found]
          exact ⟨_, h.step (.hit i idle asks found), rfl, rfl, rfl⟩
      | none =>
          rw [Request.call_run asks, document_run_of_none found]
          have hpending : Function.update s.pending i (some r) i = some r := Function.update_self i _ _
          refine ⟨_, (h.step (.miss i idle asks found)).step (.keep i hpending asks), ?_, rfl, rfl⟩
          rw [Function.update_idem, ← idle, Function.update_eq_self]

/-- However the sections of the callers are ordered, and whatever keys the texts have, the answers are
those of texts that are tokenized anew. Where the keys of the texts that were asked for differ, the
cache has as many entries as there are texts that were asked for and not dropped since. A call counts
from when it returns. -/
theorem cache_transparent {Caller : Type} [DecidableEq Caller] (g : Grammar) (key : String → UInt64)
    {s : Shared Caller} (h : Reachable g key s) :
    (∀ call ∈ s.returned, call.2 = call.1.reply g) ∧
    (∀ i r, s.pending i = some r → ∃ s', Step g key s s' ∧ s'.pending i = none ∧
      s'.returned = (r, r.reply g) :: s.returned) ∧
    (∀ i r, s.pending i = none → ∃ s', Step g key s s' ∧ (s'.pending i = some r ∨
      s'.pending i = none ∧ s'.returned = (r, r.reply g) :: s.returned)) ∧
    s.cache.Sound g key ∧
    (Set.InjOn key (queried s.calls) → ∃ texts : Finset String,
      (∀ t, t ∈ texts ↔ Kept s.calls t) ∧ s.cache.size = texts.card) := by
  have hs := h.sound
  refine ⟨hs.returned, fun i r => hs.finish, fun i r hi => hs.begin hi r, hs.cache, fun hinj => ?_⟩
  refine ⟨s.cache.texts.toFinset, fun t => ?_, hs.cache.size_eq_card⟩
  rw [List.mem_toFinset]
  exact hs.texts hinj t

def lengthKey (text : String) : UInt64 := .ofNat text.length

theorem exists_overlapping : ∃ s : Shared Bool,
    Reachable plain lengthKey s ∧ s.calls = [.evict "a", .document "a", .document "bc"] := by
  have h : Reachable plain lengthKey (start : Shared Bool) := .start
  have h := h.step (.miss true (r := .document "a") rfl rfl rfl)
  have h := h.step (.miss false (r := .document "bc") rfl rfl rfl)
  have h := h.step (.keep false (r := .document "bc") rfl rfl)
  have h := h.step (.keep true (r := .document "a") rfl rfl)
  exact ⟨_, h.step (.drop true (r := .evict "a") rfl rfl), rfl⟩

theorem cache_transparent_overlapping : ∃ s : Shared Bool,
    Reachable plain lengthKey s ∧ s.calls = [.evict "a", .document "a", .document "bc"] ∧
    (∀ call ∈ s.returned, call.2 = call.1.reply plain) ∧ s.cache.size = 1 := by
  obtain ⟨s, h, hcalls⟩ := exists_overlapping
  obtain ⟨hreturned, _, _, _, hsize⟩ := cache_transparent plain lengthKey h
  refine ⟨s, h, hcalls, hreturned, ?_⟩
  rw [hcalls] at hsize
  have hqueried : queried [.evict "a", .document "a", .document "bc"] = {"a", "bc"} := by
    ext t
    simp [queried, Request.asks?, eq_comm]
  have hinj : Set.InjOn lengthKey (queried [.evict "a", .document "a", .document "bc"]) := by
    rw [hqueried, Set.injOn_pair]
    exact fun h => absurd h (by decide)
  obtain ⟨texts, htexts, hsize⟩ := hsize hinj
  have hkept : texts = {"bc"} := by
    ext t
    rw [htexts, kept_cons, kept_cons, kept_cons, Finset.mem_singleton]
    simp only [Request.asks?, Request.Drops, not_kept_nil]
    grind
  rw [hsize, hkept]
  rfl

end Shared

end Scopemark.Grammar
