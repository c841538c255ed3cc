import Scopemark.Grammar.Tokenizer
import Scopemark.Proofs.Pattern.Bounds
import Scopemark.Proofs.Token.Tiles

namespace Scopemark.Grammar

/-- Tokens with the property `P` were added, which lead from column `a` to column `b`. -/
def Adds (P : Token → Prop) (a b : Nat) (before after : Tokens) : Prop :=
  ∃ new, after = new.reverse ++ before ∧ Tiles a b new ∧ ∀ t ∈ new, P t

namespace Adds

variable {P : Token → Prop} {a b c : Nat} {x y z : Tokens}

theorem refl (a : Nat) (x : Tokens) : Adds P a a x x := ⟨[], rfl, .nil a, by simp⟩

theorem trans (h : Adds P a b x y) (k : Adds P b c y z) : Adds P a c x z := by
  obtain ⟨new, rfl, ht, hp⟩ := h
  obtain ⟨new', rfl, ht', hp'⟩ := k
  exact ⟨new ++ new', by simp, ht.append ht', List.forall_mem_append.mpr ⟨hp, hp'⟩⟩

theorem tiles (h : Adds P a b [] x) : Tiles a b x.reverse := by
  obtain ⟨new, rfl, ht, _⟩ := h
  simpa using ht

theorem forall_mem (h : Adds P a b [] x) : ∀ t ∈ x.reverse, P t := by
  obtain ⟨new, rfl, _, hp⟩ := h
  simpa using hp

theorem imp {Q : Token → Prop} (h : Adds P a b x y)
    (hq : ∀ t, a ≤ t.start → t.start < t.stop → t.stop ≤ b → P t → Q t) : Adds Q a b x y := by
  obtain ⟨new, he, ht, hp⟩ := h
  refine ⟨new, he, ht, fun t hmem => ?_⟩
  obtain ⟨hlow, hlt, hhigh⟩ := ht.bounds hmem
  exact hq t hlow hlt hhigh (hp t hmem)

end Adds

theorem addToken_adds {P : Token → Prop} {a b : Nat} (scopes : List Scope) (tokens : Tokens)
    (hab : a ≤ b) (hP : a < b → P ⟨a, b, scopes⟩) :
    Adds P a b tokens (addToken a b scopes tokens) := by
  unfold addToken
  split
  next hlt => exact ⟨[⟨a, b, scopes⟩], rfl, .cons rfl hlt (.nil b), by simpa using hP hlt⟩
  next hlt =>
    obtain rfl : a = b := by omega
    exact .refl a tokens

theorem mem_insertBound {x n : Nat} {l : List Nat} : x ∈ insertBound n l ↔ x = n ∨ x ∈ l := by
  induction l with
  | nil => simp [insertBound]
  | cons m rest ih =>
      rw [insertBound]
      split
      · simp
      · split
        next h => simp [h]
        next => simp only [List.mem_cons, ih]; tauto

theorem pairwise_insertBound {n : Nat} {l : List Nat} (h : l.Pairwise (· < ·)) :
    (insertBound n l).Pairwise (· < ·) := by
  induction l with
  | nil => simp [insertBound]
  | cons m rest ih =>
      obtain ⟨hm, hrest⟩ := List.pairwise_cons.mp h
      rw [insertBound]
      split
      next hlt =>
        refine List.pairwise_cons.mpr ⟨?_, h⟩
        intro x hx
        rcases List.mem_cons.mp hx with rfl | hx
        · exact hlt
        · exact hlt.trans (hm x hx)
      next hlt =>
        split
        · exact h
        next hne =>
          refine List.pairwise_cons.mpr ⟨?_, ih hrest⟩
          intro x hx
          rcases mem_insertBound.mp hx with rfl | hx
          · omega
          · exact hm x hx

theorem mem_foldr_insertBound {x : Nat} {l : List Nat} : x ∈ l.foldr insertBound [] ↔ x ∈ l := by
  induction l with
  | nil => rfl
  | cons n l ih => rw [List.foldr_cons, mem_insertBound, ih, List.mem_cons]

theorem mem_bounds {m : Pattern.Match} {spans : List GroupSpan} {x : Nat} :
    x ∈ bounds m spans ↔ x = m.start ∨ x = m.stop ∨ ∃ s ∈ spans, x = s.start ∨ x = s.stop := by
  rw [bounds, mem_foldr_insertBound]
  simp

theorem pairwise_bounds (m : Pattern.Match) (spans : List GroupSpan) :
    (bounds m spans).Pairwise (· < ·) := by
  unfold bounds
  generalize m.start :: m.stop :: spans.flatMap (fun s => [s.start, s.stop]) = l
  induction l with
  | nil => exact .nil
  | cons n l ih => exact pairwise_insertBound ih

theorem groupSpans_within {m : Pattern.Match} (h : m.Encloses)
    (captures : List CaptureScopes) {s : GroupSpan} (hs : s ∈ groupSpans m captures) :
    m.start ≤ s.start ∧ s.start < s.stop ∧ s.stop ≤ m.stop := by
  obtain ⟨c, _, hc⟩ := List.mem_filterMap.mp hs
  split at hc
  next a b hg =>
    split at hc
    next hlt =>
      cases hc
      exact ⟨(h.group hg).1, hlt, (h.group hg).2⟩
    next => cases hc
  next => cases hc

theorem bounds_between {m : Pattern.Match} (h : m.Encloses)
    (captures : List CaptureScopes) {x : Nat} (hx : x ∈ bounds m (groupSpans m captures)) :
    m.start ≤ x ∧ x ≤ m.stop := by
  have hle := h.start_le
  rcases mem_bounds.mp hx with rfl | rfl | ⟨s, hs, rfl | rfl⟩
  · omega
  · omega
  · have hb := groupSpans_within h captures hs
    omega
  · have hb := groupSpans_within h captures hs
    omega

theorem bounds_ends {m : Pattern.Match} (h : m.Encloses)
    (captures : List CaptureScopes) :
    (bounds m (groupSpans m captures)).head? = some m.start ∧
      (bounds m (groupSpans m captures)).getLast? = some m.stop := by
  have hbetween := fun x => bounds_between (x := x) h captures
  have hstart : m.start ∈ bounds m (groupSpans m captures) := mem_bounds.mpr (.inl rfl)
  have hstop : m.stop ∈ bounds m (groupSpans m captures) := mem_bounds.mpr (.inr (.inl rfl))
  have hsorted := pairwise_bounds m (groupSpans m captures)
  generalize bounds m (groupSpans m captures) = l at hbetween hstart hstop hsorted ⊢
  constructor
  · obtain ⟨x, rest, rfl⟩ := List.exists_cons_of_ne_nil (List.ne_nil_of_mem hstart)
    have hx := hbetween x List.mem_cons_self
    rcases List.mem_cons.mp hstart with he | hmem
    · rw [he]; rfl
    · have hlt := List.rel_of_pairwise_cons hsorted hmem
      omega
  · obtain ⟨init, z, rfl⟩ := List.eq_nil_or_concat' l |>.resolve_left (List.ne_nil_of_mem hstop)
    have hz := hbetween z (by simp)
    rcases List.mem_append.mp hstop with hmem | hmem
    · have hlt := (List.pairwise_append.mp hsorted).2.2 m.stop hmem z (by simp)
      omega
    · rw [List.getLast?_append, List.mem_singleton.mp hmem]; rfl

/-- None of the bounds lies inside of a token. -/
theorem addBetween_adds {P : Token → Prop} (base : List Scope) (spans : List GroupSpan) {l : List Nat}
    (hP : ∀ a ∈ l, ∀ b, a < b → (∀ x ∈ l, x ≤ a ∨ b ≤ x) →
      P ⟨a, b, scopesBetween base spans a b⟩) {a b : Nat}
    (hsorted : l.Pairwise (· < ·)) (ha : l.head? = some a) (hb : l.getLast? = some b)
    (tokens : Tokens) : Adds P a b tokens (addBetween base spans l tokens) := by
  fun_induction addBetween base spans l tokens generalizing a with
  | case1 x y rest tokens ih =>
      obtain rfl : x = a := by simpa using ha
      obtain ⟨hx, hrest⟩ := List.pairwise_cons.mp hsorted
      have hlt : x < y := hx y List.mem_cons_self
      have hy : ∀ z ∈ y :: rest, y ≤ z := by
        refine List.forall_mem_cons.mpr ⟨Nat.le_refl y, fun z hz => ?_⟩
        exact (List.rel_of_pairwise_cons hrest hz).le
      have hfirst : P ⟨x, y, scopesBetween base spans x y⟩ :=
        hP x List.mem_cons_self y hlt
          (List.forall_mem_cons.mpr ⟨.inl (Nat.le_refl x), fun z hz => .inr (hy z hz)⟩)
      refine (addToken_adds _ tokens hlt.le fun _ => hfirst).trans ?_
      refine ih (fun c hc d hcd huncut => ?_) hrest rfl (by simpa using hb)
      exact hP c (List.mem_cons_of_mem _ hc) d hcd
        (List.forall_mem_cons.mpr ⟨.inl (hx c hc).le, huncut⟩)
  | case2 l tokens hshort =>
      obtain ⟨rest, rfl⟩ := List.head?_eq_some_iff.mp ha
      cases rest with
      | nil =>
          obtain rfl : a = b := by simpa using hb
          exact .refl a tokens
      | cons y rest => exact (hshort a y rest rfl).elim

def captured (m : Pattern.Match) (captures : List CaptureScopes) (a b : Nat) : List Scope :=
  (captures.filter fun c => (m.group? c.group).any fun (x, y) => x ≤ a && b ≤ y).flatMap
    CaptureScopes.scopes

/-- Groups that matched nothing do not lie around any character. -/
theorem scopesBetween_groupSpans (base : List Scope) (m : Pattern.Match)
    (captures : List CaptureScopes) {a b : Nat} (hab : a < b) :
    scopesBetween base (groupSpans m captures) a b = base ++ captured m captures a b := by
  rw [scopesBetween, List.append_cancel_left_eq]
  induction captures with
  | nil => rfl
  | cons c captures ih =>
      rw [groupSpans, captured] at ih ⊢
      cases hg : m.group? c.group with
      | none => simpa [hg] using ih
      | some span =>
          obtain ⟨x, y⟩ := span
          by_cases hxy : x < y
          · by_cases haround : x ≤ a ∧ b ≤ y
            · simpa [hg, hxy, haround] using ih
            · simpa [hg, hxy, haround] using ih
          · have haround : ¬ (x ≤ a ∧ b ≤ y) := by omega
            simpa [hg, hxy, haround] using ih

def Uncut (m : Pattern.Match) (captures : List CaptureScopes) (a b : Nat) : Prop :=
  ∀ s ∈ groupSpans m captures, (s.start ≤ a ∨ b ≤ s.start) ∧ (s.stop ≤ a ∨ b ≤ s.stop)

theorem addMatch_adds {m : Pattern.Match} (h : m.Encloses) (base : List Scope)
    (captures : List CaptureScopes) (tokens : Tokens) :
    Adds (fun t => t.scopes = base ++ captured m captures t.start t.stop ∧
        Uncut m captures t.start t.stop) m.start m.stop tokens
      (addMatch m base captures tokens) := by
  have hscopes {a b : Nat} (hab : a < b) :
      scopesBetween base (groupSpans m captures) a b = base ++ captured m captures a b :=
    scopesBetween_groupSpans base m captures hab
  simp only [addMatch]
  split
  next hnone =>
    have hnil := List.isEmpty_iff.mp hnone
    refine addToken_adds base tokens h.start_le fun hlt => ⟨?_, ?_⟩
    · rw [← hscopes hlt, hnil]
      simp [scopesBetween]
    · rw [Uncut, hnil]
      exact List.forall_mem_nil _
  next =>
    refine addBetween_adds base _ (fun a _ b hab huncut => ⟨hscopes hab, fun s hs => ?_⟩)
      (pairwise_bounds m _) (bounds_ends h captures).1 (bounds_ends h captures).2 tokens
    exact ⟨huncut _ (mem_bounds.mpr (.inr (.inr ⟨s, hs, .inl rfl⟩))),
      huncut _ (mem_bounds.mpr (.inr (.inr ⟨s, hs, .inr rfl⟩)))⟩

end Scopemark.Grammar
