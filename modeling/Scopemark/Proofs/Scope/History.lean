import Mathlib.Data.Finset.Card
import Mathlib.Data.String.Basic
import Scopemark.Proofs.Scope.Set

namespace Scopemark

namespace Scope

variable {s t : Scope}

def codePoints (s : Scope) : List Nat := s.name.toList.map Char.toNat

theorem toNat_lt_iff {c d : Char} : c.toNat < d.toNat ↔ c < d := Iff.rfl

theorem lt_iff_codePoints : s < t ↔ s.codePoints < t.codePoints := by
  constructor
  · exact fun h => List.map_lt (fun _ _ => toNat_lt_iff.mpr) (String.lt_iff_toList_lt.mp h)
  · intro h
    by_contra hnot
    have hle : ¬ s.name.toList < t.name.toList := mt String.lt_iff_toList_lt.mpr hnot
    exact List.map_le (fun _ _ => toNat_lt_iff.mpr) hle h

end Scope

namespace ScopeSet

variable {s t : ScopeSet} {x : Scope} {m : Finset Scope}

theorem nodup (s : ScopeSet) : s.scopes.Nodup := by
  refine s.sorted.imp ?_
  rintro x _ h rfl
  exact String.lt_irrefl _ h

theorem ext_mem (h : ∀ x, x ∈ s ↔ x ∈ t) : s = t := by
  have hperm : s.scopes.Perm t.scopes := (List.perm_ext_iff_of_nodup s.nodup t.nodup).mpr h
  have hscopes : s.scopes = t.scopes :=
    hperm.eq_of_pairwise (fun _ _ _ _ h k => absurd (Scope.lt_trans h k) (String.lt_irrefl _))
      s.sorted t.sorted
  cases s
  cases t
  cases hscopes
  rfl

theorem mem_remove {y : Scope} : y ∈ (s.remove x).1 ↔ y ∈ s ∧ y ≠ x := by
  change y ∈ s.scopes.filter (· != x) ↔ y ∈ s.scopes ∧ y ≠ x
  simp

theorem insert_answer : (s.insert x).2 = true ↔ x ∉ s := by
  have hanswer : (s.insert x).2 = !s.contains x := rfl
  rw [hanswer, Bool.not_eq_true', ← Bool.not_eq_true, contains_iff]

theorem insert_changes : (s.insert x).2 = true ↔ (s.insert x).1 ≠ s := by
  rw [insert_answer]
  constructor
  · intro hnew heq
    rw [← heq] at hnew
    exact hnew (mem_insert.mpr (.inl rfl))
  · intro hne hold
    refine hne (ext_mem fun y => mem_insert.trans (or_iff_right_of_imp ?_))
    rintro rfl
    exact hold

theorem remove_answer : (s.remove x).2 = true ↔ x ∈ s := contains_iff

theorem remove_changes : (s.remove x).2 = true ↔ (s.remove x).1 ≠ s := by
  rw [remove_answer]
  constructor
  · intro hold heq
    rw [← heq] at hold
    exact (mem_remove.mp hold).2 rfl
  · intro hne
    by_contra hnew
    refine hne (ext_mem fun y => mem_remove.trans (and_iff_left_of_imp ?_))
    rintro hy rfl
    exact hnew hy

inductive Step
  | insert (x : Scope)
  | remove (x : Scope)
  | extend (xs : List Scope)
  | rebuild (xs : List Scope)

def step (s : ScopeSet) : Step → ScopeSet
  | .insert x => (s.insert x).1
  | .remove x => (s.remove x).1
  | .extend xs => s.extend xs
  | .rebuild xs => ofList xs

def after (steps : List Step) : ScopeSet := steps.foldl step empty

def Step.describes (m : Finset Scope) : Step → Finset Scope
  | .insert x => {x} ∪ m
  | .remove x => m.erase x
  | .extend xs => m ∪ xs.toFinset
  | .rebuild xs => xs.toFinset

def described (steps : List Step) : Finset Scope := steps.foldl Step.describes ∅

theorem mem_step (h : ∀ x, x ∈ s ↔ x ∈ m) (step : Step) (x : Scope) :
    x ∈ s.step step ↔ x ∈ step.describes m := by
  cases step with
  | insert y => exact mem_insert.trans (by simp [Step.describes, h])
  | remove y => exact mem_remove.trans (by simp [Step.describes, h, and_comm])
  | extend xs => exact mem_extend.trans (by simp [Step.describes, h])
  | rebuild xs => exact mem_ofList.trans (by simp [Step.describes])

theorem mem_foldl_step (h : ∀ x, x ∈ s ↔ x ∈ m) (steps : List Step) (x : Scope) :
    x ∈ steps.foldl step s ↔ x ∈ steps.foldl Step.describes m := by
  induction steps generalizing s m with
  | nil => exact h x
  | cons first steps ih => exact ih (mem_step h first)

theorem mem_after (steps : List Step) (x : Scope) : x ∈ after steps ↔ x ∈ described steps :=
  mem_foldl_step (fun _ => iff_of_false List.not_mem_nil (Finset.notMem_empty _)) steps x

theorem after_concat (steps : List Step) (last : Step) :
    after (steps ++ [last]) = (after steps).step last := by
  rw [after, List.foldl_concat]
  rfl

theorem size_after (steps : List Step) : (after steps).size = (described steps).card := by
  have hmembers : (after steps).scopes.toFinset = described steps :=
    Finset.ext fun x => List.mem_toFinset.trans (mem_after steps x)
  rw [← hmembers, List.toFinset_card_of_nodup (nodup _)]
  rfl

theorem after_eq_iff (steps others : List Step) :
    after steps = after others ↔ described steps = described others := by
  constructor
  · intro h
    exact Finset.ext fun x => by rw [← mem_after, h, mem_after]
  · intro h
    exact ext_mem fun x => by rw [mem_after, h, mem_after]

/-- After any steps from the empty set, all that can be asked of it is answered as the described set has it,
and the members are listed in the order of code points. -/
theorem after_represents (steps : List Step) :
    let s := after steps
    s.toList.Pairwise (fun x y => x.codePoints < y.codePoints) ∧ s.toList.Nodup ∧
    (∀ x, s.contains x = true ↔ x ∈ described steps) ∧
    (∀ x, x ∈ s.toList ↔ x ∈ described steps) ∧
    (∀ x, (s.insert x).2 = true ↔ after (steps ++ [.insert x]) ≠ s) ∧
    (∀ x, (s.remove x).2 = true ↔ after (steps ++ [.remove x]) ≠ s) ∧
    s.size = (described steps).card ∧
    (∀ others, s = after others ↔ ∀ x, x ∈ described steps ↔ x ∈ described others) ∧
    ∀ xs, s.missing xs = xs.filter (· ∉ described steps) ∧
      (s.isSupersetOf xs = true ↔ s.missing xs = []) := by
  intro s
  have hmem := mem_after steps
  refine ⟨s.sorted.imp Scope.lt_iff_codePoints.mp, s.nodup, fun x => contains_iff.trans (hmem x), hmem,
    fun x => ?_, fun x => ?_, size_after steps, fun others => ?_, fun xs => ⟨?_, ?_⟩⟩
  · rw [after_concat]
    exact insert_changes
  · rw [after_concat]
    exact remove_changes
  · rw [← Finset.ext_iff]
    exact after_eq_iff steps others
  · refine List.filter_congr fun x _ => ?_
    rw [Bool.eq_iff_iff, Bool.not_eq_true', ← Bool.not_eq_true, contains_iff, hmem, decide_eq_true_iff]
  · rw [missing_eq_nil_iff]
    simp [isSupersetOf, contains_iff]

end ScopeSet

end Scopemark
