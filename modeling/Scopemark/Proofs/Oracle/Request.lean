import Mathlib.Data.Set.Function
import Scopemark.Proofs.Oracle.Cache

namespace Scopemark.Grammar

inductive Request
  | document (text : String)
  | scopesAt (text : String) (line column : Nat)
  | evict (text : String)
  | release (text : String)
  | clear
deriving DecidableEq

inductive Answer
  | document (tokens : TokenizedText)
  | scopes (scopes : ScopeSet)
  | done
deriving DecidableEq

variable {g : Grammar} {key : String → UInt64} {text t : String} {c : Cache}

namespace Request

def asks? : Request → Option String
  | document text | scopesAt text _ _ => some text
  | _ => none

def answer (tokens : TokenizedText) : Request → Answer
  | document _ => .document tokens
  | scopesAt _ line column => .scopes (tokens.scopesAt line column)
  | _ => .done

def effect (key : String → UInt64) : Request → StateM Cache Unit
  | evict text => Grammar.evict key text
  | release text => Grammar.evict key text
  | clear => clearCache
  | _ => return

def call (g : Grammar) (key : String → UInt64) : Request → StateM Cache Answer
  | document text => Answer.document <$> g.document key text
  | scopesAt text line column => Answer.scopes <$> (g.oracle key).scopesAt text line column
  | evict text => (fun _ => Answer.done) <$> Grammar.evict key text
  | release text => (fun _ => Answer.done) <$> (g.oracle key).release text
  | clear => (fun _ => Answer.done) <$> clearCache

/-- What the call has to return: what a text that is tokenized anew would give. -/
def reply (g : Grammar) : Request → Answer
  | document text => .document (g.tokenize text)
  | scopesAt text line column => .scopes ((g.tokenize text).scopesAt line column)
  | _ => .done

def Drops (text : String) : Request → Prop
  | evict dropped | release dropped => dropped = text
  | clear => True
  | _ => False

variable {r : Request}

theorem answer_eq_reply (h : r.asks? = some text) : r.answer (g.tokenize text) = r.reply g := by
  cases r <;> cases h <;> rfl

theorem reply_eq_done (h : r.asks? = none) : r.reply g = .done := by
  cases r <;> first | rfl | cases h

theorem not_drops (h : r.asks? = some text) : ¬ r.Drops t := by
  cases r <;> first | exact id | cases h

theorem call_run (asks : r.asks? = some text) : (r.call g key).run c =
    (r.answer ((g.document key text).run c).1, ((g.document key text).run c).2) := by
  cases r <;> cases asks <;> rfl

theorem call_run_of_none (asks : r.asks? = none) :
    (r.call g key).run c = (.done, ((r.effect key).run c).2) := by
  cases r <;> first | rfl | cases asks

end Request

def queried (calls : List Request) : Set String := {t | ∃ r ∈ calls, r.asks? = some t}

/-- The text was asked for, and no call since then drops it. The last call comes first. -/
def Kept (calls : List Request) (text : String) : Prop :=
  ∃ later query earlier, calls = later ++ query :: earlier ∧ query.asks? = some text ∧
    ∀ r ∈ later, ¬ r.Drops text

theorem kept_cons {r : Request} {calls : List Request} :
    Kept (r :: calls) t ↔ r.asks? = some t ∨ ¬ r.Drops t ∧ Kept calls t := by
  constructor
  · rintro ⟨later, query, earlier, hcalls, hquery, hlater⟩
    cases later with
    | nil =>
        cases hcalls
        exact .inl hquery
    | cons last later =>
        cases hcalls
        obtain ⟨hlast, hlater⟩ := List.forall_mem_cons.mp hlater
        exact .inr ⟨hlast, later, query, earlier, rfl, hquery, hlater⟩
  · rintro (hr | ⟨hr, later, query, earlier, rfl, hquery, hlater⟩)
    · exact ⟨[], r, calls, rfl, hr, by simp⟩
    · exact ⟨r :: later, query, earlier, rfl, hquery, List.forall_mem_cons.mpr ⟨hr, hlater⟩⟩

theorem not_kept_nil : ¬ Kept [] t := by
  rintro ⟨later, query, earlier, hcalls, _⟩
  exact absurd hcalls.symm (by simp)

theorem Kept.queried {calls : List Request} (h : Kept calls t) : t ∈ queried calls := by
  obtain ⟨later, query, earlier, rfl, hquery, _⟩ := h
  exact ⟨query, by simp, hquery⟩

theorem injOn_earlier {r : Request} {calls : List Request}
    (h : Set.InjOn key (queried (r :: calls))) : Set.InjOn key (queried calls) := by
  refine h.mono ?_
  rintro t ⟨query, hquery, hasks⟩
  exact ⟨query, List.mem_cons_of_mem _ hquery, hasks⟩

theorem Request.effect_sound {r : Request} (hc : c.Sound g key) :
    ((r.effect key).run c).2.Sound g key := by
  cases r with
  | evict text | release text => exact hc.evict
  | clear => exact Cache.sound_empty
  | document _ | scopesAt _ _ _ => exact hc

theorem Request.mem_texts_effect {r : Request} (hc : c.Sound g key) (hr : r.asks? = none) :
    t ∈ ((r.effect key).run c).2.texts ↔ ¬ r.Drops t ∧ t ∈ c.texts := by
  cases r with
  | evict text | release text =>
      refine hc.mem_texts_evict.trans ?_
      rw [and_comm, ne_comm]
      rfl
  | clear => exact ⟨fun h => absurd h List.not_mem_nil, fun h => absurd trivial h.1⟩
  | document _ | scopesAt _ _ _ => cases hr

end Scopemark.Grammar
