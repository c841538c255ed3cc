import Scopemark.Proofs.Check.Related
import Scopemark.Proofs.Oracle.Cache

namespace Scopemark

variable {σ α β : Type} {I : σ → Prop}

def Computes (I : σ → Prop) (x : StateM σ α) (a : α) : Prop :=
  ∀ s, I s → (x.run s).1 = a ∧ I (x.run s).2

namespace Computes

theorem pure (a : α) : Computes I (pure a) a := fun _ hs => ⟨rfl, hs⟩

theorem bind {x : StateM σ α} {f : α → StateM σ β} {a : α} {b : β} (hx : Computes I x a)
    (hf : Computes I (f a) b) : Computes I (x >>= f) b := by
  intro s hs
  obtain ⟨ha, hs'⟩ := hx s hs
  change ((f (x.run s).1).run (x.run s).2).1 = b ∧ I ((f (x.run s).1).run (x.run s).2).2
  rw [ha]
  exact hf _ hs'

theorem congruent (I : σ → Prop) :
    Congruent fun α (x : StateM σ α) (a : Id α) => Computes I x a where
  pure := pure
  bind hx hf := hx.bind (hf _)

end Computes

namespace Grammar

variable {g : Grammar} {key : String → UInt64} {text : String}

def scopesIn (g : Grammar) (text : String) (line column : Nat) : ScopeSet :=
  (g.tokenize text).scopesAt line column

theorem document_computes :
    Computes (Cache.Sound g key) (g.document key text) (g.tokenize text) := by
  intro c hc
  cases h : c.find? (key text) text with
  | none =>
      rw [document_run_of_none h]
      exact ⟨rfl, hc.insert⟩
  | some tokens =>
      rw [document_run_of_some h]
      exact ⟨hc.tokens_eq h, hc⟩

theorem evict_computes : Computes (Cache.Sound g key) (evict key text) () :=
  fun _ hc => ⟨rfl, hc.evict⟩

theorem oracle_answers (g : Grammar) (key : String → UInt64) :
    (g.oracle key).Related (fun _ => Computes (Cache.Sound g key)) (.ofFunction g.scopesIn) where
  scopesAt _ _ _ := document_computes.bind (.pure _)
  release _ := evict_computes

end Grammar

namespace Check

variable {mode : MatchMode} {fs : Files}

theorem checkFile_oracle (g : Grammar) (key : String → UInt64) (path : FilePath) :
    ((checkFile (g.oracle key) mode fs path).run Cache.empty).1 =
      checkFile (.ofFunction g.scopesIn) mode fs path :=
  (checkFile_related (Computes.congruent _) (g.oracle_answers key) path _ Cache.sound_empty).1

theorem checkFiles_oracle (g : Grammar) (key : String → UInt64) (summary : CheckSummary)
    (paths : List FilePath) :
    ((checkFiles (g.oracle key) mode fs summary paths).run Cache.empty).1 =
      checkFiles (.ofFunction g.scopesIn) mode fs summary paths :=
  (checkFiles_related (Computes.congruent _) (g.oracle_answers key) summary paths _
    Cache.sound_empty).1

end Check

end Scopemark
