import Mathlib.Algebra.BigOperators.Group.Finset.Basic
import Mathlib.Logic.Hydra
import Scopemark.Proofs.Oracle.Cache

namespace Scopemark

inductive Sections (α : Type)
  | done (value : α)
  | lookUp (text : String) (next : Option TokenizedText → Sections α)
  | keep (text : String) (tokens : TokenizedText) (next : Sections α)
  | evict (text : String) (next : Sections α)

namespace Sections

variable {α β : Type} {key : String → UInt64}

def bind : Sections α → (α → Sections β) → Sections β
  | done value, f => f value
  | lookUp text next, f => lookUp text fun found => (next found).bind f
  | keep text tokens next, f => keep text tokens (next.bind f)
  | evict text next, f => evict text (next.bind f)

instance : Monad Sections where
  pure := done
  bind := bind

/-- What the next section leaves in the cache, and what then remains to be done. -/
inductive Section (key : String → UInt64) (c : Cache) : Sections α → Cache → Sections α → Prop
  | lookUp (text : String) (next : Option TokenizedText → Sections α) :
      Section key c (.lookUp text next) c (next ((Grammar.lookUp key text).run c).1)
  | keep (text : String) (tokens : TokenizedText) (next : Sections α) :
      Section key c (.keep text tokens next) ((Grammar.keep key text tokens).run c).2 next
  | evict (text : String) (next : Sections α) :
      Section key c (.evict text next) ((Grammar.evict key text).run c).2 next

def alone (key : String → UInt64) : Sections α → StateM Cache α
  | done value => pure value
  | lookUp text next => do alone key (next (← Grammar.lookUp key text))
  | keep text tokens next => do
    Grammar.keep key text tokens
    alone key next
  | evict text next => do
    Grammar.evict key text
    alone key next

theorem alone_bind (x : Sections α) (f : α → Sections β) :
    (x >>= f).alone key = x.alone key >>= fun a => (f a).alone key := by
  induction x with
  | done value => rfl
  | lookUp text next ih =>
      change (Grammar.lookUp key text >>= fun found => ((next found) >>= f).alone key) = _
      simp only [ih, alone, bind_assoc]
  | keep text tokens next ih =>
      change (Grammar.keep key text tokens >>= fun _ => (next >>= f).alone key) = _
      simp only [ih, alone, bind_assoc]
  | evict text next ih =>
      change (Grammar.evict key text >>= fun _ => (next >>= f).alone key) = _
      simp only [ih, alone, bind_assoc]

theorem exists_section {p : Sections α} (h : ∀ value, p ≠ .done value) (c : Cache) :
    ∃ c' q, Section key c p c' q := by
  cases p with
  | done value => exact absurd rfl (h value)
  | lookUp text next => exact ⟨_, _, .lookUp text next⟩
  | keep text tokens next => exact ⟨_, _, .keep text tokens next⟩
  | evict text next => exact ⟨_, _, .evict text next⟩

def Left (key : String → UInt64) (q p : Sections α) : Prop := ∃ c c', Section key c p c' q

theorem wellFounded_left (key : String → UInt64) : WellFounded (Left (α := α) key) := by
  refine ⟨fun p => ?_⟩
  induction p with
  | done value => exact ⟨_, fun q ⟨_, _, h⟩ => nomatch h⟩
  | lookUp text next ih =>
      refine ⟨_, fun q ⟨c, c', h⟩ => ?_⟩
      cases h
      exact ih _
  | keep text tokens next ih | evict text next ih =>
      refine ⟨_, fun q ⟨c, c', h⟩ => ?_⟩
      cases h
      exact ih

end Sections

namespace Grammar

variable {g : Grammar} {key : String → UInt64} {text : String}

def documentInSections (g : Grammar) (text : String) : Sections TokenizedText :=
  .lookUp text fun
    | some tokens => .done tokens
    | none => .keep text (g.tokenize text) (.done (g.tokenize text))

def oracleInSections (g : Grammar) : Oracle Sections where
  scopesAt text line column := do return (← g.documentInSections text).scopesAt line column
  release text := .evict text (.done ())

theorem alone_documentInSections :
    (g.documentInSections text).alone key = g.document key text := by
  unfold documentInSections document Sections.alone
  refine bind_congr fun found => ?_
  cases found <;> rfl

theorem alone_scopesAt (line column : Nat) :
    (g.oracleInSections.scopesAt text line column).alone key =
      (g.oracle key).scopesAt text line column := by
  unfold oracleInSections oracle
  rw [Sections.alone_bind, alone_documentInSections]
  rfl

theorem alone_release :
    (g.oracleInSections.release text).alone key = (g.oracle key).release text := rfl

end Grammar

structure Workers (ι α : Type) where
  cache : Cache
  programs : ι → Sections α

namespace Workers

variable {ι α : Type} [DecidableEq ι] {key : String → UInt64} {s s' : Workers ι α}

inductive Step (key : String → UInt64) (s : Workers ι α) : Workers ι α → Prop
  | turn {c : Cache} {rest : Sections α} (i : ι)
      (h : Sections.Section key s.cache (s.programs i) c rest) :
      Step key s ⟨c, Function.update s.programs i rest⟩

def Finished (s : Workers ι α) (values : ι → α) : Prop := ∀ i, s.programs i = .done (values i)

theorem finished_or_step (key : String → UInt64) (s : Workers ι α) :
    (∃ values, s.Finished values) ∨ ∃ s', Step key s s' := by
  by_cases h : ∀ i, ∃ value, s.programs i = .done value
  · exact .inl (Classical.skolem.mp h)
  · push Not at h
    obtain ⟨i, hi⟩ := h
    obtain ⟨c, rest, hsection⟩ := Sections.exists_section hi s.cache
    exact .inr ⟨_, .turn i hsection⟩

variable [Fintype ι]

def left (programs : ι → Sections α) : Multiset (Sections α) := ∑ i, {programs i}

theorem left_update (programs : ι → Sections α) (i : ι) (rest : Sections α) :
    left (Function.update programs i rest) = {rest} + ∑ j ∈ Finset.univ \ {i}, {programs j} := by
  have h := Function.comp_update (fun p : Sections α => ({p} : Multiset (Sections α))) programs i rest
  exact (Finset.sum_congr rfl fun j _ => congrFun h j).trans
    (Finset.sum_update_of_mem (Finset.mem_univ i) _ _)

/-- Whoever gets the turns, some time all computations are done. -/
theorem wellFounded_step (key : String → UInt64) :
    WellFounded fun s' s : Workers ι α => Step key s s' := by
  have hcut := (Sections.wellFounded_left (α := α) key).cutExpand
  refine Subrelation.wf ?_ (InvImage.wf (fun s => left s.programs) hcut)
  rintro _ s ⟨i, h⟩
  have hleft := left_update s.programs i (s.programs i)
  rw [Function.update_eq_self] at hleft
  rw [InvImage, left_update, hleft]
  exact Relation.cutExpand_single_add ⟨_, _, h⟩ _

end Workers

end Scopemark
