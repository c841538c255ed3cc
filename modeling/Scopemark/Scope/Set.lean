import Scopemark.Scope.Basic

namespace Scopemark

namespace Scope

def insertSorted (s : Scope) : List Scope → List Scope
  | [] => [s]
  | t :: ts =>
    if s < t then s :: t :: ts
    else if t < s then t :: insertSorted s ts
    else t :: ts

theorem mem_insertSorted {s t : Scope} {ts : List Scope} :
    t ∈ insertSorted s ts ↔ t = s ∨ t ∈ ts := by
  induction ts with
  | nil => simp [insertSorted]
  | cons u us ih =>
    simp only [insertSorted]
    split
    · simp
    · split
      · simp only [List.mem_cons, ih]; grind
      · have h : s = u := eq_of_not_lt (by assumption) (by assumption)
        simp [h]

theorem pairwise_insertSorted {s : Scope} {ts : List Scope} (h : ts.Pairwise (· < ·)) :
    (insertSorted s ts).Pairwise (· < ·) := by
  induction ts with
  | nil => simp [insertSorted]
  | cons u us ih =>
    rw [List.pairwise_cons] at h
    simp only [insertSorted]
    split
    next hs =>
      refine List.pairwise_cons.mpr ⟨fun t ht => ?_, List.pairwise_cons.mpr h⟩
      cases List.mem_cons.mp ht with
      | inl e => exact e ▸ hs
      | inr m => exact lt_trans hs (h.1 t m)
    next =>
      split
      next hu =>
        refine List.pairwise_cons.mpr ⟨fun t ht => ?_, ih h.2⟩
        cases mem_insertSorted.mp ht with
        | inl e => exact e ▸ hu
        | inr m => exact h.1 t m
      next => exact List.pairwise_cons.mpr h

end Scope

structure ScopeSet where
  scopes : List Scope
  sorted : scopes.Pairwise (· < ·)
deriving DecidableEq

namespace ScopeSet

def empty : ScopeSet := ⟨[], .nil⟩

instance : Inhabited ScopeSet := ⟨empty⟩

instance : Membership Scope ScopeSet := ⟨fun s x => x ∈ s.scopes⟩

def contains (s : ScopeSet) (x : Scope) : Bool := s.scopes.contains x

def insert (s : ScopeSet) (x : Scope) : ScopeSet × Bool :=
  (⟨x.insertSorted s.scopes, Scope.pairwise_insertSorted s.sorted⟩, !s.contains x)

def remove (s : ScopeSet) (x : Scope) : ScopeSet × Bool :=
  (⟨s.scopes.filter (· != x), s.sorted.filter _⟩, s.contains x)

def extend (s : ScopeSet) (xs : List Scope) : ScopeSet := xs.foldl (fun s x => (s.insert x).1) s

def ofList (xs : List Scope) : ScopeSet := empty.extend xs

def toList (s : ScopeSet) : List Scope := s.scopes

def size (s : ScopeSet) : Nat := s.scopes.length

def isSupersetOf (s : ScopeSet) (xs : List Scope) : Bool := xs.all s.contains

def missing (s : ScopeSet) (xs : List Scope) : List Scope := xs.filter fun x => !s.contains x

def display (s : ScopeSet) : String := showScopes s.scopes

end ScopeSet

end Scopemark
