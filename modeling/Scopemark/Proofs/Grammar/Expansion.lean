import Mathlib.Data.Finset.Card
import Mathlib.Data.Finset.Range
import Mathlib.Logic.Relation
import Scopemark.Grammar.Candidates

namespace Scopemark.Grammar

variable {g : Grammar} {id child first last region : RuleId}
  {ids inner seen seen' out out' : List RuleId}

def IsGroup (g : Grammar) (id : RuleId) : Prop := ∃ inner, g.rule id = .group inner

def Nests (g : Grammar) (id child : RuleId) : Prop := ∃ inner, g.rule id = .group inner ∧ child ∈ inner

/-- From the rule `first` on there is a way to the rule `last` that leads through groups alone. -/
abbrev Leads (g : Grammar) : RuleId → RuleId → Prop := Relation.ReflTransGen g.Nests

theorem lt_size_of_nests (h : g.Nests id child) : id < g.rules.size := by
  obtain ⟨inner, hrule, hchild⟩ := h
  by_contra hle
  have hempty : g.rule id = .group [] := by simp [rule, ruleAt, hle]
  rw [hempty] at hrule
  cases hrule
  cases hchild

theorem isGroup_iff : g.IsGroup id ↔ (g.rule id).finder? = none := by
  cases h : g.rule id <;> simp [IsGroup, Rule.finder?, h]

theorem rule_eq_group (h : (g.rule id).finder? = none) : g.rule id = .group (g.rule id).listed := by
  cases hrule : g.rule id with
  | single | region => rw [hrule] at h; cases h
  | group inner => rfl

theorem Nests.isGroup (h : g.Nests id child) : g.IsGroup id := by
  obtain ⟨inner, hrule, _⟩ := h
  exact ⟨inner, hrule⟩

theorem leads_plain (h : ¬ g.IsGroup id) : g.Leads id last ↔ last = id := by
  refine Relation.ReflTransGen.cases_head_iff.trans ?_
  rw [eq_comm, or_iff_left]
  rintro ⟨child, hchild, _⟩
  exact h hchild.isGroup

theorem leads_group (h : g.rule id = .group inner) :
    g.Leads id last ↔ last = id ∨ ∃ child ∈ inner, g.Leads child last := by
  refine Relation.ReflTransGen.cases_head_iff.trans (or_congr eq_comm ?_)
  refine exists_congr fun child => and_congr_left fun _ => ?_
  simp [Nests, h]

/-- Going through the rules `ids` in order, when the groups `seen` have been met, gives the rules `out`
and ends when the groups `seen'` have been met. -/
inductive Walks (g : Grammar) :
    (seen ids seen' out : List RuleId) → Prop
  | nil {seen : List RuleId} : Walks g seen [] seen []
  | rule {id : RuleId} {ids seen seen' out : List RuleId} (plain : ¬ g.IsGroup id)
      (rest : Walks g seen ids seen' out) : Walks g seen (id :: ids) seen' (id :: out)
  | again {id : RuleId} {ids seen seen' out : List RuleId} (group : g.IsGroup id) (met : id ∈ seen)
      (rest : Walks g seen ids seen' out) : Walks g seen (id :: ids) seen' out
  | group {id : RuleId} {ids inner seen mid seen' out out' : List RuleId}
      (group : g.rule id = .group inner) (first : id ∉ seen) (inside : Walks g (id :: seen) inner mid out)
      (rest : Walks g mid ids seen' out') : Walks g seen (id :: ids) seen' (out ++ out')

theorem Walks.unique {seen'' : List RuleId} (h : g.Walks seen ids seen' out)
    (k : g.Walks seen ids seen'' out') : seen' = seen'' ∧ out = out' := by
  induction h generalizing seen'' out' with
  | nil =>
      cases k
      exact ⟨rfl, rfl⟩
  | rule plain rest ih =>
      cases k with
      | rule _ rest' =>
          obtain ⟨rfl, rfl⟩ := ih rest'
          exact ⟨rfl, rfl⟩
      | again group => exact absurd group plain
      | group group => exact absurd ⟨_, group⟩ plain
  | again group met rest ih =>
      cases k with
      | rule plain => exact absurd group plain
      | again _ _ rest' => exact ih rest'
      | group _ first => exact absurd met first
  | group group first inside rest ihInside ihRest =>
      cases k with
      | rule plain => exact absurd ⟨_, group⟩ plain
      | again _ met => exact absurd met first
      | group group' _ inside' rest' =>
          cases group.symm.trans group'
          obtain ⟨rfl, rfl⟩ := ihInside inside'
          obtain ⟨rfl, rfl⟩ := ihRest rest'
          exact ⟨rfl, rfl⟩

theorem Walks.seen_subset (h : g.Walks seen ids seen' out) : seen ⊆ seen' := by
  induction h with
  | nil => exact List.Subset.refl _
  | rule _ _ ih | again _ _ _ ih => exact ih
  | group _ _ _ _ ihInside ihRest =>
      exact List.Subset.trans (List.subset_cons_self _ _) (List.Subset.trans ihInside ihRest)

def unmet (g : Grammar) (seen : List RuleId) : Finset RuleId :=
  (Finset.range g.rules.size).filter (· ∉ seen)

theorem card_unmet_le (h : seen ⊆ seen') : (g.unmet seen').card ≤ (g.unmet seen).card :=
  Finset.card_le_card (Finset.monotone_filter_right _ fun _ _ hnot hmem => hnot (h hmem))

theorem card_unmet_cons_lt (hid : id < g.rules.size) (hnew : id ∉ seen) :
    (g.unmet (id :: seen)).card < (g.unmet seen).card := by
  refine Finset.card_lt_card ⟨?_, fun h => ?_⟩
  · exact Finset.monotone_filter_right _ fun _ _ hnot hmem => hnot (List.mem_cons_of_mem _ hmem)
  · have hmem : id ∈ g.unmet (id :: seen) := h (Finset.mem_filter.mpr ⟨Finset.mem_range.mpr hid, hnew⟩)
    exact (Finset.mem_filter.mp hmem).2 List.mem_cons_self

theorem expand_rule {level : Nat} {e : Expansion} (h : ¬ g.IsGroup id) :
    g.expand (level + 1) e id = { e with found := id :: e.found } := by
  rw [expand]
  split
  next inner hrule => exact absurd ⟨inner, hrule⟩ h
  next => rfl

theorem expand_group {level : Nat} {e : Expansion} (h : g.rule id = .group inner) :
    g.expand (level + 1) e id =
      if e.visited.contains id then e
      else inner.foldl (g.expand level) { e with visited := id :: e.visited } := by
  rw [expand, h]

/-- A level for each group that was not met before is enough, and one more for the rules in it. -/
theorem exists_walks {level : Nat} (ids found : List RuleId)
    (hlevel : (g.unmet seen).card < level) :
    ∃ seen' out, g.Walks seen ids seen' out ∧
      ids.foldl (g.expand level) ⟨seen, found⟩ = ⟨seen', out.reverse ++ found⟩ := by
  induction level generalizing seen ids found with
  | zero => omega
  | succ level ihLevel =>
      induction ids generalizing seen found with
      | nil => exact ⟨seen, [], .nil, rfl⟩
      | cons id ids ihIds =>
          rw [List.foldl_cons]
          by_cases hgroup : g.IsGroup id
          · obtain ⟨inner, hrule⟩ := hgroup
            rw [expand_group hrule]
            by_cases hmet : id ∈ seen
            · rw [if_pos (List.contains_iff_mem.mpr hmet)]
              obtain ⟨seen', out, hwalks, hfold⟩ := ihIds found hlevel
              exact ⟨seen', out, .again ⟨inner, hrule⟩ hmet hwalks, hfold⟩
            · rw [if_neg (mt List.contains_iff_mem.mp hmet)]
              -- A group without rules needs no level at all, so that it may have any number.
              have hinside : ∃ mid out, g.Walks (id :: seen) inner mid out ∧
                  inner.foldl (g.expand level) ⟨id :: seen, found⟩ = ⟨mid, out.reverse ++ found⟩ := by
                cases inner with
                | nil => exact ⟨id :: seen, [], .nil, rfl⟩
                | cons child inner =>
                    have hid := lt_size_of_nests ⟨child :: inner, hrule, List.mem_cons_self⟩
                    have hlt := card_unmet_cons_lt hid hmet
                    exact ihLevel (child :: inner) found (by omega)
              obtain ⟨mid, out, hinside, hfold⟩ := hinside
              have hsubset : seen ⊆ mid :=
                List.Subset.trans (List.subset_cons_self _ _) hinside.seen_subset
              have hle := card_unmet_le (g := g) hsubset
              obtain ⟨seen', out', hrest, hfold'⟩ := ihIds (out.reverse ++ found)
                (Nat.lt_of_le_of_lt hle hlevel)
              refine ⟨seen', out ++ out', .group hrule hmet hinside hrest, ?_⟩
              rw [hfold, hfold', List.reverse_append, List.append_assoc]
          · rw [expand_rule hgroup]
            obtain ⟨seen', out, hwalks, hfold⟩ := ihIds (id :: found) hlevel
            refine ⟨seen', id :: out, .rule hgroup hwalks, ?_⟩
            rw [hfold, List.reverse_cons, List.append_assoc, List.singleton_append]

theorem walks_candidates (g : Grammar) (region : RuleId) :
    ∃ seen, g.Walks [region] (g.rule region).listed seen (g.candidates region) := by
  have hle : (g.unmet [region]).card ≤ g.rules.size :=
    (Finset.card_filter_le _ _).trans_eq (Finset.card_range _)
  obtain ⟨seen, out, hwalks, hfold⟩ :=
    exists_walks (g.rule region).listed [] (Nat.lt_succ_of_le hle)
  rw [candidates, hfold, List.append_nil, List.reverse_reverse]
  exact ⟨seen, hwalks⟩

theorem Walks.leads (h : g.Walks seen ids seen' out) (hlast : last ∈ out) :
    ¬ g.IsGroup last ∧ ∃ first ∈ ids, g.Leads first last := by
  induction h with
  | nil => cases hlast
  | rule plain _ ih =>
      rcases List.mem_cons.mp hlast with rfl | hlast
      · exact ⟨plain, last, List.mem_cons_self, .refl⟩
      · obtain ⟨hplain, first, hfirst, hleads⟩ := ih hlast
        exact ⟨hplain, first, List.mem_cons_of_mem _ hfirst, hleads⟩
  | again _ _ _ ih =>
      obtain ⟨hplain, first, hfirst, hleads⟩ := ih hlast
      exact ⟨hplain, first, List.mem_cons_of_mem _ hfirst, hleads⟩
  | group group _ _ _ ihInside ihRest =>
      rcases List.mem_append.mp hlast with hlast | hlast
      · obtain ⟨hplain, child, hchild, hleads⟩ := ihInside hlast
        exact ⟨hplain, _, List.mem_cons_self, .head ⟨_, group, hchild⟩ hleads⟩
      · obtain ⟨hplain, first, hfirst, hleads⟩ := ihRest hlast
        exact ⟨hplain, first, List.mem_cons_of_mem _ hfirst, hleads⟩

structure Walked (g : Grammar) (seen out : List RuleId) (id : RuleId) : Prop where
  met : g.IsGroup id → id ∈ seen
  found : ¬ g.IsGroup id → id ∈ out

theorem Walked.mono (h : g.Walked seen out id) (hseen : seen ⊆ seen') (hout : out ⊆ out') :
    g.Walked seen' out' id :=
  ⟨fun hgroup => hseen (h.met hgroup), fun hplain => hout (h.found hplain)⟩

/-- All rules gone through are walked, and so are those of the groups that are met on the way. -/
theorem Walks.walked (h : g.Walks seen ids seen' out) :
    (∀ id ∈ ids, g.Walked seen' out id) ∧
      ∀ id ∈ seen', id ∉ seen → ∀ child, g.Nests id child → g.Walked seen' out child := by
  induction h with
  | nil => exact ⟨nofun, fun id hid hnot => absurd hid hnot⟩
  | rule plain _ ih =>
      obtain ⟨hids, hnew⟩ := ih
      have hout {id : RuleId} {out : List RuleId} : out ⊆ id :: out := List.subset_cons_self _ _
      refine ⟨List.forall_mem_cons.mpr ⟨?_, fun id hid => ?_⟩, fun id hid hnot child hchild => ?_⟩
      · exact ⟨fun hgroup => absurd hgroup plain, fun _ => List.mem_cons_self⟩
      · exact (hids id hid).mono (List.Subset.refl _) hout
      · exact (hnew id hid hnot child hchild).mono (List.Subset.refl _) hout
  | again group met rest ih =>
      obtain ⟨hids, hnew⟩ := ih
      refine ⟨List.forall_mem_cons.mpr ⟨?_, hids⟩, hnew⟩
      exact ⟨fun _ => rest.seen_subset met, fun hplain => absurd group hplain⟩
  | @group id ids inner seen mid seen' out out' group first inside rest ihInside ihRest =>
      obtain ⟨hinner, hnewInside⟩ := ihInside
      obtain ⟨hids, hnewRest⟩ := ihRest
      have hseen : mid ⊆ seen' := rest.seen_subset
      have hout : out ⊆ out ++ out' := List.subset_append_left _ _
      have hout' : out' ⊆ out ++ out' := List.subset_append_right _ _
      refine ⟨List.forall_mem_cons.mpr ⟨?_, fun x hx => ?_⟩, fun x hx hnot child hchild => ?_⟩
      · refine ⟨fun _ => hseen (inside.seen_subset List.mem_cons_self), fun hplain => ?_⟩
        exact absurd ⟨inner, group⟩ hplain
      · exact (hids x hx).mono (List.Subset.refl _) hout'
      · by_cases hmid : x ∈ mid
        · refine Walked.mono ?_ hseen hout
          by_cases hself : x = id
          · obtain ⟨inner', hrule, hmem⟩ := hchild
            rw [hself] at hrule
            cases hrule.symm.trans group
            exact hinner child hmem
          · exact hnewInside x hmid (by simp [hself, hnot]) child hchild
        · exact (hnewRest x hx hmid child hchild).mono (List.Subset.refl _) hout'

/-- The rule is one of those in a region, or in a group in there, or in a group in that group, and so on. -/
def Below (g : Grammar) (region id : RuleId) : Prop := ∃ first ∈ (g.rule region).listed, g.Leads first id

theorem mem_candidates_iff : id ∈ g.candidates region ↔ g.Below region id ∧ ¬ g.IsGroup id := by
  obtain ⟨seen, hwalks⟩ := walks_candidates g region
  constructor
  · intro hid
    obtain ⟨hplain, hbelow⟩ := hwalks.leads hid
    exact ⟨hbelow, hplain⟩
  · rintro ⟨⟨first, hfirst, hleads⟩, hplain⟩
    obtain ⟨hlisted, hnew⟩ := hwalks.walked
    have hwalked : g.Walked seen (g.candidates region) id := by
      clear hplain
      induction hleads with
      | refl => exact hlisted first hfirst
      | @tail id child _ hchild ih =>
          by_cases hself : id = region
          · -- The region counts as met from the start, since its own rules are those listed.
            obtain ⟨inner, hrule, hmem⟩ := hself ▸ hchild
            exact hlisted child (by rw [hrule]; exact hmem)
          · exact hnew id (ih.met hchild.isGroup) (by simp [hself]) child hchild
    exact hwalked.found hplain

end Scopemark.Grammar
