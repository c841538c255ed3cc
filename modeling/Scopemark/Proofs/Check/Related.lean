import Scopemark.Check.Checker

namespace Scopemark

variable {m n : Type → Type} [Monad m] [Monad n]

/-- The relation is kept by returning and by doing one thing after the other. -/
structure Congruent (R : (α : Type) → m α → n α → Prop) : Prop where
  pure : ∀ {α : Type} (a : α), R α (pure a) (pure a)
  bind : ∀ {α β : Type} {x : m α} {y : n α} {f : α → m β} {f' : α → n β}, R α x y →
    (∀ a, R β (f a) (f' a)) → R β (x >>= f) (y >>= f')

def Oracle.RelatedOn (R : (α : Type) → m α → n α → Prop) (oracle : Oracle m) (oracle' : Oracle n)
    (text : String) : Prop :=
  ∀ line column, R _ (oracle.scopesAt text line column) (oracle'.scopesAt text line column)

structure Oracle.Related (R : (α : Type) → m α → n α → Prop) (oracle : Oracle m) (oracle' : Oracle n) :
    Prop where
  scopesAt : ∀ text, oracle.RelatedOn R oracle' text
  release : ∀ text, R Unit (oracle.release text) (oracle'.release text)

namespace Check

variable {R : (α : Type) → m α → n α → Prop} {oracle : Oracle m} {oracle' : Oracle n}
  {mode : MatchMode} {fs : Files} {text : String}

theorem firstMismatch_related (hR : Congruent R) (h : oracle.RelatedOn R oracle' text)
    (a : ScopeAssertion) (count column : Nat) :
    R _ (firstMismatch oracle mode text a count column)
      (firstMismatch oracle' mode text a count column) := by
  induction count generalizing column with
  | zero => exact hR.pure _
  | succ count ih =>
      refine hR.bind (h a.sourceLine column) fun actual => ?_
      cases compare mode a column actual with
      | some mismatch => exact hR.pure _
      | none => exact ih (column + 1)

theorem checkAssertion_related (hR : Congruent R) (h : oracle.RelatedOn R oracle' text)
    (a : ScopeAssertion) : R _ (checkAssertion oracle mode text a) (checkAssertion oracle' mode text a) :=
  hR.bind (firstMismatch_related hR h a _ _) fun _ => hR.pure _

theorem checkAssertions_related (hR : Congruent R) (h : oracle.RelatedOn R oracle' text)
    (summary : FileSummary) (as : List ScopeAssertion) :
    R _ (checkAssertions oracle mode text summary as)
      (checkAssertions oracle' mode text summary as) := by
  induction as generalizing summary with
  | nil => exact hR.pure _
  | cons a rest ih =>
      exact hR.bind (checkAssertion_related hR h a) fun result => ih _

theorem checkSource_related (hR : Congruent R) (h : oracle.Related R oracle') (path : FilePath)
    (text : String) :
    R _ (checkSource oracle mode path text) (checkSource oracle' mode path text) := by
  unfold checkSource
  cases Fixture.read? text with
  | error e => exact hR.pure _
  | ok fixture =>
      refine hR.bind (checkAssertions_related hR (h.scopesAt _) _ _) fun summary => ?_
      exact hR.bind (h.release _) fun _ => hR.pure _

theorem checkFile_related (hR : Congruent R) (h : oracle.Related R oracle') (path : FilePath) :
    R _ (checkFile oracle mode fs path) (checkFile oracle' mode fs path) := by
  unfold checkFile
  cases fs.readText path with
  | error e => exact hR.pure _
  | ok text => exact checkSource_related hR h path text

theorem checkFiles_related (hR : Congruent R) (h : oracle.Related R oracle')
    (summary : CheckSummary) (paths : List FilePath) :
    R _ (checkFiles oracle mode fs summary paths) (checkFiles oracle' mode fs summary paths) := by
  induction paths generalizing summary with
  | nil => exact hR.pure _
  | cons path rest ih => exact hR.bind (checkFile_related hR h path) fun file => ih _

end Check

end Scopemark
