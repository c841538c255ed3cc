import Mathlib.Data.List.Chain
import Scopemark.Grammar.Token

namespace Scopemark

namespace LineTokens

variable {p : Token → Bool} {ts : LineTokens}

theorem partitionPoint_splits (hp : ts.Pairwise fun t u => p u → p t) {low high : Nat}
    (hhigh : high ≤ ts.length) (hbefore : ∀ i (hi : i < ts.length), i < low → p ts[i])
    (hbehind : ∀ i (hi : i < ts.length), high ≤ i → ¬ p ts[i]) :
    (∀ i (hi : i < ts.length), i < ts.partitionPoint p low high → p ts[i]) ∧
      ∀ i (hi : i < ts.length), ts.partitionPoint p low high ≤ i → ¬ p ts[i] := by
  rw [List.pairwise_iff_getElem] at hp
  fun_induction partitionPoint p ts low high with
  | case1 low high hlt middle hmiddle ih =>
      have hlength : middle < ts.length := by omega
      rw [List.getElem?_eq_getElem hlength, Option.any_some] at hmiddle
      refine ih hhigh (fun i hi hle => ?_) hbehind
      rcases Nat.eq_or_lt_of_le (Nat.le_of_lt_succ hle) with rfl | hlt'
      · exact hmiddle
      · exact hp i middle hi hlength hlt' hmiddle
  | case2 low high hlt middle hmiddle ih =>
      have hlength : middle < ts.length := by omega
      rw [List.getElem?_eq_getElem hlength, Option.any_some] at hmiddle
      refine ih (by omega) hbefore (fun i hi hle => ?_)
      rcases Nat.eq_or_lt_of_le hle with rfl | hlt'
      · exact hmiddle
      · exact fun h => hmiddle (hp middle i hlength hi hlt' h)
  | case3 low high hge => exact ⟨hbefore, fun i hi hle => hbehind i hi (by omega)⟩

theorem getElem?_partitionPoint (hp : ts.Pairwise fun t u => p u → p t) :
    ts[ts.partitionPoint p 0 ts.length]? = ts.find? fun t => !p t := by
  obtain ⟨hbefore, hbehind⟩ := partitionPoint_splits hp (Nat.le_refl _)
    (fun i _ hi => absurd hi (Nat.not_lt_zero i)) fun i hi hle => absurd hi (Nat.not_lt.mpr hle)
  generalize ts.partitionPoint p 0 ts.length = n at hbefore hbehind ⊢
  by_cases hn : n < ts.length
  · rw [List.getElem?_eq_getElem hn, eq_comm, List.find?_eq_some_iff_getElem]
    refine ⟨by simpa using hbehind n hn (Nat.le_refl n), n, hn, rfl, fun i hi => ?_⟩
    simpa using hbefore i (by omega) hi
  · rw [List.getElem?_eq_none (by omega), eq_comm, List.find?_eq_none]
    intro t ht
    obtain ⟨i, hi, rfl⟩ := List.getElem_of_mem ht
    simpa using hbefore i hi (by omega)

end LineTokens

/-- The tokens lead without gaps from the first column to the second one, and none of them is empty. -/
inductive Tiles : Nat → Nat → LineTokens → Prop
  | nil (a : Nat) : Tiles a a []
  | cons {a b : Nat} {t : Token} {ts : LineTokens} (start : t.start = a) (nonempty : a < t.stop)
      (rest : Tiles t.stop b ts) : Tiles a b (t :: ts)

namespace Tiles

variable {a b c : Nat} {ts us : LineTokens}

theorem le (h : Tiles a b ts) : a ≤ b := by
  induction h with
  | nil => exact Nat.le_refl _
  | cons _ hlt _ ih => omega

theorem append (h : Tiles a b ts) (k : Tiles b c us) : Tiles a c (ts ++ us) := by
  induction h with
  | nil => exact k
  | cons hs hlt _ ih => exact .cons hs hlt (ih k)

theorem bounds (h : Tiles a b ts) {t : Token} (ht : t ∈ ts) :
    a ≤ t.start ∧ t.start < t.stop ∧ t.stop ≤ b := by
  induction h with
  | nil => cases ht
  | cons hs hlt rest ih =>
      have hle := rest.le
      rcases List.mem_cons.mp ht with rfl | ht
      · omega
      · have hb := ih ht
        omega

theorem head_start (h : Tiles a b ts) {t : Token} (ht : ts.head? = some t) : t.start = a := by
  cases h with
  | nil => cases ht
  | cons hs _ _ => cases ht; exact hs

theorem getLast_stop (h : Tiles a b ts) {t : Token} (ht : ts.getLast? = some t) : t.stop = b := by
  induction h with
  | nil => cases ht
  | @cons a b u us _ _ rest ih =>
      cases us with
      | nil => cases ht; cases rest; rfl
      | cons v vs => exact ih (by simpa using ht)

theorem isChain (h : Tiles a b ts) : ts.IsChain fun t u => t.stop = u.start := by
  induction h with
  | nil => exact .nil
  | cons _ _ rest ih =>
      refine List.isChain_cons.mpr ⟨?_, ih⟩
      intro u hu
      exact (rest.head_start hu).symm

theorem eq_nil_iff (h : Tiles a b ts) : ts = [] ↔ a = b := by
  cases h with
  | nil => simp
  | cons _ hlt rest =>
      have hle := rest.le
      simp only [reduceCtorEq, false_iff]
      omega

theorem pairwise_stop (h : Tiles a b ts) : ts.Pairwise fun t u => t.stop < u.stop := by
  induction h with
  | nil => exact .nil
  | cons _ _ rest ih =>
      refine List.pairwise_cons.mpr ⟨?_, ih⟩
      intro u hu
      have hb := rest.bounds hu
      omega

/-- Since the tokens end one after the other, halving finds the first one that ends behind the column. -/
theorem tokenAt?_eq (h : Tiles a b ts) (column : Nat) : LineTokens.tokenAt? ts column =
    (ts.find? fun t => column < t.stop).filter fun t => t.start ≤ column := by
  have hpoint := LineTokens.getElem?_partitionPoint (p := fun t => t.stop ≤ column)
    (h.pairwise_stop.imp fun hlt hle => by
      simp only [decide_eq_true_eq] at hle ⊢
      omega)
  have hbehind : (fun t : Token => !decide (t.stop ≤ column)) = fun t => decide (column < t.stop) := by
    funext t
    simp only [← decide_not, Nat.not_le]
  rw [LineTokens.tokenAt?, hpoint, hbehind]

theorem tokenAt?_of_le (h : Tiles a b ts) {column : Nat} (hc : b ≤ column) :
    LineTokens.tokenAt? ts column = none := by
  have hfind : (ts.find? fun t => column < t.stop) = none := by
    rw [List.find?_eq_none]
    intro t ht
    have hb := h.bounds ht
    simp only [decide_eq_true_eq]
    omega
  rw [h.tokenAt?_eq, hfind]
  rfl

theorem exists_tokenAt? (h : Tiles a b ts) {column : Nat} (ha : a ≤ column) (hb : column < b) :
    ∃ t ∈ ts, t.start ≤ column ∧ column < t.stop ∧ LineTokens.tokenAt? ts column = some t := by
  induction h with
  | nil => omega
  | @cons a b t ts hs hlt rest ih =>
      rw [(Tiles.cons hs hlt rest).tokenAt?_eq]
      by_cases hc : column < t.stop
      · have hstart : t.start ≤ column := by omega
        exact ⟨t, List.mem_cons_self, hstart, hc, by simp [hc, hstart]⟩
      · obtain ⟨u, hu, hstart, hstop, hat⟩ := ih (by omega) hb
        refine ⟨u, List.mem_cons_of_mem _ hu, hstart, hstop, ?_⟩
        rw [← hat, rest.tokenAt?_eq, List.find?_cons_of_neg (by simpa using hc)]

theorem covering_unique (h : Tiles a b ts) {column : Nat} {t u : Token} (ht : t ∈ ts) (hu : u ∈ ts)
    (htc : t.start ≤ column ∧ column < t.stop) (huc : u.start ≤ column ∧ column < u.stop) : t = u := by
  induction h with
  | nil => cases ht
  | cons hs hlt rest ih =>
      rcases List.mem_cons.mp ht with rfl | ht' <;> rcases List.mem_cons.mp hu with rfl | hu'
      · rfl
      · have hb := rest.bounds hu'
        omega
      · have hb := rest.bounds ht'
        omega
      · exact ih ht' hu'

end Tiles

structure Partitions (length : Nat) (tokens : LineTokens) : Prop where
  nonempty : ∀ t ∈ tokens, t.start < t.stop
  first : ∀ t, tokens.head? = some t → t.start = 0
  next : tokens.IsChain fun t u => t.stop = u.start
  last : ∀ t, tokens.getLast? = some t → t.stop = length
  empty : tokens = [] ↔ length = 0

theorem Tiles.partitions {n : Nat} {ts : LineTokens} (h : Tiles 0 n ts) : Partitions n ts where
  nonempty _ ht := (h.bounds ht).2.1
  first _ ht := h.head_start ht
  next := h.isChain
  last _ ht := h.getLast_stop ht
  empty := h.eq_nil_iff.trans eq_comm

end Scopemark
