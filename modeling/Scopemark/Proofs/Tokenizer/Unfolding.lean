import Scopemark.Proofs.Grammar.Expansion
import Scopemark.Proofs.Tokenizer.Moments

namespace Scopemark.Grammar

variable {g : Grammar} {line : Array Char} {pos : Nat} {id first last region : RuleId}
  {ids inner seen seen' out full full' before kept kept' : List RuleId}

/-- In the full expansion of rules the rules of a group stand wherever the group does. -/
inductive Unfolds (g : Grammar) : (ids full : List RuleId) → Prop
  | nil : Unfolds g [] []
  | rule {id : RuleId} {ids full : List RuleId} (plain : ¬ g.IsGroup id) (rest : Unfolds g ids full) :
      Unfolds g (id :: ids) (id :: full)
  | group {id : RuleId} {ids inner full full' : List RuleId} (group : g.rule id = .group inner)
      (inside : Unfolds g inner full) (rest : Unfolds g ids full') :
      Unfolds g (id :: ids) (full ++ full')

theorem Unfolds.unique (h : g.Unfolds ids full) (k : g.Unfolds ids full') : full = full' := by
  induction h generalizing full' with
  | nil =>
      cases k
      rfl
  | rule plain rest ih =>
      cases k with
      | rule _ rest' => rw [ih rest']
      | group group => exact absurd ⟨_, group⟩ plain
  | group group inside rest ihInside ihRest =>
      cases k with
      | rule plain => exact absurd ⟨_, group⟩ plain
      | group group' inside' rest' =>
          cases group.symm.trans group'
          rw [ihInside inside', ihRest rest']

theorem Unfolds.mem_iff (h : g.Unfolds ids full) :
    last ∈ full ↔ (∃ first ∈ ids, g.Leads first last) ∧ ¬ g.IsGroup last := by
  induction h with
  | nil => simp
  | @rule id ids full plain _ ih =>
      rw [List.mem_cons, ih, List.exists_mem_cons_iff, leads_plain plain, or_and_right]
      refine or_congr_left (and_iff_left_of_imp ?_).symm
      rintro rfl
      exact plain
  | @group id ids inner full full' group _ _ ihInside ihRest =>
      rw [List.mem_append, ihInside, ihRest, List.exists_mem_cons_iff, leads_group group, or_and_right,
        or_and_right]
      refine or_congr_left (or_iff_right ?_).symm
      rintro ⟨rfl, hplain⟩
      exact hplain ⟨inner, group⟩

def Cyclic (g : Grammar) (id : RuleId) : Prop := Relation.TransGen g.Nests id id

def Acyclic (g : Grammar) (ids : List RuleId) : Prop :=
  ∀ first ∈ ids, ∀ id, g.Leads first id → ¬ g.Cyclic id

theorem acyclic_of_lt (h : ∀ id child, g.Nests id child → id < child) : g.Acyclic ids := by
  intro first _ id _ hcyclic
  have hlt : Relation.TransGen (· < ·) id id := Relation.TransGen.mono h id id hcyclic
  rw [Relation.transGen_eq_self] at hlt
  exact Nat.lt_irrefl id hlt

theorem Acyclic.tail (h : g.Acyclic (id :: ids)) : g.Acyclic ids :=
  (List.forall_mem_cons.mp h).2

theorem Acyclic.nested (h : g.Acyclic (id :: ids)) (hrule : g.rule id = .group inner) :
    g.Acyclic inner := by
  intro child hchild last hleads
  exact h id List.mem_cons_self last (.head ⟨inner, hrule, hchild⟩ hleads)

section

open Classical

noncomputable def reach (g : Grammar) (id : RuleId) : Finset RuleId :=
  (Finset.range g.rules.size).filter (g.Leads id)

theorem mem_reach {child : RuleId} (hchild : child < g.rules.size) :
    child ∈ g.reach id ↔ g.Leads id child := by
  rw [reach, Finset.mem_filter, Finset.mem_range, and_iff_right hchild]

theorem card_reach_lt {child : RuleId} (h : g.Nests id child) (hid : ¬ g.Cyclic id) :
    (g.reach child).card < (g.reach id).card := by
  refine Finset.card_lt_card ⟨?_, fun hsubset => ?_⟩
  · exact Finset.monotone_filter_right _ fun _ _ hleads => .head h hleads
  · have hself : id ∈ g.reach id := (mem_reach (lt_size_of_nests h)).mpr .refl
    exact hid (.head' h ((mem_reach (lt_size_of_nests h)).mp (hsubset hself)))

theorem exists_unfolds (h : g.Acyclic ids) : ∃ full, g.Unfolds ids full := by
  -- The rules of a group lead to fewer rules than the group.
  suffices hbound : ∀ n ids, g.Acyclic ids → (∀ id ∈ ids, (g.reach id).card < n) →
      ∃ full, g.Unfolds ids full by
    refine hbound (g.rules.size + 1) ids h fun id _ => Nat.lt_succ_of_le ?_
    exact (Finset.card_filter_le _ _).trans_eq (Finset.card_range _)
  intro n
  induction n with
  | zero =>
      intro ids _ hcard
      obtain rfl := List.eq_nil_iff_forall_not_mem.mpr fun id hid => Nat.not_lt_zero _ (hcard id hid)
      exact ⟨[], .nil⟩
  | succ n ihBound =>
      intro ids
      induction ids with
      | nil => exact fun _ _ => ⟨[], .nil⟩
      | cons id ids ih =>
          intro hacyclic hcard
          obtain ⟨hfirst, hrest⟩ := List.forall_mem_cons.mp hcard
          obtain ⟨full', hfull'⟩ := ih hacyclic.tail hrest
          by_cases hgroup : g.IsGroup id
          · obtain ⟨inner, hrule⟩ := hgroup
            have hinner : ∀ child ∈ inner, (g.reach child).card < n := by
              intro child hchild
              have hlt := card_reach_lt ⟨inner, hrule, hchild⟩ (hacyclic id List.mem_cons_self id .refl)
              omega
            obtain ⟨full, hfull⟩ := ihBound inner (hacyclic.nested hrule) hinner
            exact ⟨full ++ full', .group hrule hfull hfull'⟩
          · exact ⟨id :: full', .rule hgroup hfull'⟩

end

/-- The rules `kept` are the rules `full` without some that are listed before, or that are in `before`. -/
inductive Thins : (before full kept : List RuleId) → Prop
  | nil {before : List RuleId} : Thins before [] []
  | keep {id : RuleId} {before full kept : List RuleId} (rest : Thins (id :: before) full kept) :
      Thins before (id :: full) (id :: kept)
  | drop {id : RuleId} {before full kept : List RuleId} (met : id ∈ before)
      (rest : Thins before full kept) : Thins before (id :: full) kept

theorem Thins.mono {before' : List RuleId} (h : Thins before full kept) (hsubset : before ⊆ before') :
    Thins before' full kept := by
  induction h generalizing before' with
  | nil => exact .nil
  | keep _ ih => exact .keep (ih (List.cons_subset_cons _ hsubset))
  | drop met _ ih => exact .drop (hsubset met) (ih hsubset)

theorem Thins.append (h : Thins before full kept) (k : Thins (kept ++ before) full' kept') :
    Thins before (full ++ full') (kept ++ kept') := by
  induction h with
  | nil => exact k
  | keep _ ih => exact .keep (ih (k.mono (List.perm_middle.symm.subset)))
  | drop met _ ih => exact .drop met (ih k)

theorem thins_nil (h : full ⊆ before) : Thins before full [] := by
  induction full with
  | nil => exact .nil
  | cons id full ih =>
      obtain ⟨hid, hfull⟩ := List.cons_subset.mp h
      exact .drop hid (ih hfull)

theorem Thins.subset (h : Thins before full kept) : full ⊆ kept ++ before := by
  induction h with
  | nil => exact List.nil_subset _
  | keep _ ih =>
      refine List.cons_subset.mpr ⟨List.mem_cons_self, ?_⟩
      exact List.Subset.trans ih List.perm_middle.subset
  | drop met _ ih => exact List.cons_subset.mpr ⟨List.mem_append_right _ met, ih⟩

def Spent (g : Grammar) (found : List RuleId) (id : RuleId) : Prop :=
  ∀ last, g.Leads id last → ¬ g.IsGroup last → last ∈ found

theorem Spent.mono {found found' : List RuleId} (h : g.Spent found id) (hsubset : found ⊆ found') :
    g.Spent found' id :=
  fun last hleads hplain => hsubset (h last hleads hplain)

theorem Unfolds.spent (h : g.Unfolds inner full) (hrule : g.rule id = .group inner) {found : List RuleId}
    (hsubset : full ⊆ found) : g.Spent found id := by
  intro last hleads hplain
  have hinner := ((leads_group hrule).mp hleads).resolve_left fun heq => hplain ⟨inner, heq ▸ hrule⟩
  exact hsubset (h.mem_iff.mpr ⟨hinner, hplain⟩)

theorem Unfolds.subset_of_spent (h : g.Unfolds inner full) (hrule : g.rule id = .group inner)
    {found : List RuleId} (hspent : g.Spent found id) : full ⊆ found := by
  intro last hlast
  obtain ⟨hinner, hplain⟩ := h.mem_iff.mp hlast
  exact hspent last ((leads_group hrule).mpr (.inr hinner)) hplain

/-- Going through the rules leaves out just rules that were found before. A group that is met again was
left before, since it does not contain itself, so that all of its rules were found. -/
theorem Walks.thins (h : g.Walks seen ids seen' out) (hfull : g.Unfolds ids full)
    (before : List RuleId) (hacyclic : g.Acyclic ids)
    (hseen : ∀ id ∈ seen, g.IsGroup id → ∀ first ∈ ids, g.Leads first id → g.Spent before id) :
    Thins before full out ∧ ∀ id ∈ seen', id ∉ seen → g.Spent (out ++ before) id := by
  induction h generalizing before full with
  | nil =>
      cases hfull
      exact ⟨.nil, fun id hid hnot => absurd hid hnot⟩
  | @rule id ids _ _ out plain _ ih =>
      cases hfull with
      | group group => exact absurd ⟨_, group⟩ plain
      | rule _ hfull =>
          obtain ⟨hthins, hnew⟩ := ih hfull (id :: before) hacyclic.tail
            fun x hx hgroup first hfirst hleads =>
              (hseen x hx hgroup first (List.mem_cons_of_mem _ hfirst) hleads).mono
                (List.subset_cons_self _ _)
          exact ⟨.keep hthins, fun x hx hnot => (hnew x hx hnot).mono List.perm_middle.subset⟩
  | @again id ids seen _ _ group met _ ih =>
      cases hfull with
      | rule plain => exact absurd group plain
      | group hrule hinside hfull =>
          have hfound := hinside.subset_of_spent hrule (hseen id met group id List.mem_cons_self .refl)
          obtain ⟨hthins, hnew⟩ := ih hfull before hacyclic.tail fun x hx hgroup first hfirst =>
            hseen x hx hgroup first (List.mem_cons_of_mem _ hfirst)
          exact ⟨(thins_nil hfound).append hthins, hnew⟩
  | @group id ids inner seen mid seen' out out' group first inside rest ihInside ihRest =>
      cases hfull with
      | rule plain => exact absurd ⟨inner, group⟩ plain
      | group hrule hinside hfull =>
          cases hrule.symm.trans group
          have hself : ∀ child ∈ inner, ¬ g.Leads child id := by
            intro child hchild hleads
            exact hacyclic id List.mem_cons_self id .refl (.head' ⟨inner, hrule, hchild⟩ hleads)
          obtain ⟨hthins, hnew⟩ := ihInside hinside before (hacyclic.nested hrule) (by
            intro x hx hgroup child hchild hleads
            rcases List.mem_cons.mp hx with rfl | hx
            · exact absurd hleads (hself child hchild)
            · exact hseen x hx hgroup id List.mem_cons_self (.head ⟨inner, hrule, hchild⟩ hleads))
          -- What the groups met so far lead to was found in front of the rest.
          have hmid : ∀ x ∈ mid, x ∉ seen → g.Spent (out ++ before) x := by
            intro x hx hnot
            by_cases hxid : x = id
            · exact hinside.spent (hxid ▸ hrule) hthins.subset
            · exact hnew x hx (by simp [hxid, hnot])
          obtain ⟨hthins', hnew'⟩ := ihRest hfull (out ++ before) hacyclic.tail (by
            intro x hx hgroup first hfirst hleads
            by_cases hxseen : x ∈ seen
            · exact (hseen x hxseen hgroup first (List.mem_cons_of_mem _ hfirst) hleads).mono
                (List.subset_append_right _ _)
            · exact hmid x hx hxseen)
          refine ⟨hthins.append hthins', fun x hx hnot => ?_⟩
          have hspent : g.Spent (out' ++ (out ++ before)) x := by
            by_cases hxmid : x ∈ mid
            · exact (hmid x hxmid hnot).mono (List.subset_append_right _ _)
            · exact hnew' x hx hxmid
          refine hspent.mono fun last hlast => ?_
          simp only [List.mem_append] at hlast ⊢
          tauto

def ruleMatch? (g : Grammar) (line : Array Char) (pos : Nat) (id : RuleId) : Best :=
  (g.rule id).finder?.bind fun p => (p.find? line pos).map (.rule id, ·)

theorem matchesFrom_contest : matchesFrom line pos (g.contest region ids) =
    matchesFrom line pos (g.contest region []) ++ ids.filterMap (g.ruleMatch? line pos) := by
  simp only [matchesFrom, contest, List.filterMap_append, List.filterMap_filterMap, List.filterMap_nil,
    List.append_nil, List.append_cancel_left_eq]
  refine List.filterMap_congr fun id _ => ?_
  rw [ruleMatch?]
  cases (g.rule id).finder? <;> rfl

abbrev better (best : Best) (x : Candidate × Pattern.Match) : Best :=
  List.argAux (fun x y => x.2.start < y.2.start) best x

def Beaten (best : Best) (x : Candidate × Pattern.Match) : Prop :=
  ∃ b ∈ best, b.2.start ≤ x.2.start

theorem Beaten.better_eq {best : Best} {x : Candidate × Pattern.Match} (h : Beaten best x) :
    better best x = best := by
  obtain ⟨b, hb, hle⟩ := h
  obtain rfl := Option.mem_def.mp hb
  exact if_neg (Nat.not_lt.mpr hle)

theorem beaten_better (best : Best) (x : Candidate × Pattern.Match) : Beaten (better best x) x := by
  cases best with
  | none => exact ⟨x, rfl, Nat.le_refl _⟩
  | some b =>
      by_cases hlt : x.2.start < b.2.start
      · exact ⟨x, if_pos hlt, Nat.le_refl _⟩
      · exact ⟨b, if_neg hlt, Nat.le_of_not_lt hlt⟩

theorem Beaten.better {best : Best} {x : Candidate × Pattern.Match} (h : Beaten best x)
    (y : Candidate × Pattern.Match) : Beaten (better best y) x := by
  obtain ⟨b, hb, hle⟩ := h
  obtain rfl := Option.mem_def.mp hb
  by_cases hlt : y.2.start < b.2.start
  · exact ⟨y, if_pos hlt, hlt.le.trans hle⟩
  · exact ⟨b, if_neg hlt, hle⟩

theorem Thins.foldl_eq (h : Thins before full kept) {best : Best}
    (hbest : ∀ id ∈ before, ∀ x ∈ g.ruleMatch? line pos id, Beaten best x) :
    (full.filterMap (g.ruleMatch? line pos)).foldl better best =
      (kept.filterMap (g.ruleMatch? line pos)).foldl better best := by
  induction h generalizing best with
  | nil => rfl
  | @keep id _ _ _ _ ih =>
      cases hid : g.ruleMatch? line pos id with
      | none =>
          rw [List.filterMap_cons_none hid, List.filterMap_cons_none hid]
          refine ih (List.forall_mem_cons.mpr ⟨?_, hbest⟩)
          rw [hid]
          exact fun _ hx => nomatch hx
      | some x =>
          rw [List.filterMap_cons_some hid, List.filterMap_cons_some hid, List.foldl_cons, List.foldl_cons]
          refine ih (List.forall_mem_cons.mpr ⟨?_, fun id' hid' y hy => (hbest id' hid' y hy).better x⟩)
          rw [hid]
          rintro _ ⟨⟩
          exact beaten_better best x
  | @drop id _ _ _ met _ ih =>
      rw [← ih hbest]
      cases hid : g.ruleMatch? line pos id with
      | none => rw [List.filterMap_cons_none hid]
      | some x =>
          rw [List.filterMap_cons_some hid, List.foldl_cons, (hbest id met x hid).better_eq]

theorem bestMatch_contest (g : Grammar) (region : RuleId) (ids : List RuleId) (line : Array Char)
    (pos : Nat) : bestMatch line pos none (g.contest region ids) =
      (ids.filterMap (g.ruleMatch? line pos)).foldl better
        ((matchesFrom line pos (g.contest region [])).foldl better none) := by
  rw [bestMatch_eq_argmin, matchesFrom_contest, List.argmin, List.foldl_append]

theorem Thins.bestMatch_eq (h : Thins [] full kept) (region : RuleId) (line : Array Char) (pos : Nat) :
    bestMatch line pos none (g.contest region full) =
      bestMatch line pos none (g.contest region kept) := by
  rw [bestMatch_contest, bestMatch_contest]
  exact h.foldl_eq (List.forall_mem_nil _)

theorem thins_candidates (hacyclic : g.Acyclic (g.rule region).listed)
    (hfull : g.Unfolds (g.rule region).listed full) : Thins [] full (g.candidates region) := by
  obtain ⟨seen, hwalks⟩ := walks_candidates g region
  refine (hwalks.thins hfull [] hacyclic ?_).1
  -- The region itself is all that counts as met before, and it is not in one of its groups.
  rintro id hid ⟨inner, hrule⟩ first hfirst hleads
  obtain rfl := List.mem_singleton.mp hid
  have hnests : g.Nests id first := ⟨inner, hrule, by rw [hrule] at hfirst; exact hfirst⟩
  exact absurd (.head' hnests hleads) (hacyclic first hfirst id hleads)

theorem Moment.noted {text : String} {i : Nat} {line : List Char} {s : Scan}
    (h : g.Moment text i line s) : g.Noted s.memo := by
  obtain ⟨scans, last, hrounds, hs⟩ := h.scanned
  have hstart : g.Noted (g.carryAt text i).memo :=
    (tokenizeLines_same ⟨rfl, noted_nil, noted_nil⟩ _).2.left
  refine (hrounds.invariant (P := fun s => g.Noted s.memo) (Q := fun _ => True) hstart ?_
    fun _ _ _ _ => trivial).1 s hs
  intro u u' hu hround
  have hturns := round_turns g line.toArray u
  rw [hround] at hturns
  cases hturns with
  | pass | take => exact remember_noted hu _

/-- The candidates of a region are those rules with a pattern that its own rules lead to through groups,
in the order of a walk that goes through each group where it meets it first, and this walk comes to its
end. Where no group contains itself, they decide the contest as the full expansion does. What was noted
for a region while a text was tokenized is what would be found again. -/
theorem candidates_expanded (g : Grammar) (region : RuleId) :
    (∃ seen, g.Walks [region] (g.rule region).listed seen (g.candidates region)) ∧
    (∀ seen out, g.Walks [region] (g.rule region).listed seen out → out = g.candidates region) ∧
    (∀ id, id ∈ g.candidates region ↔ g.Below region id ∧ ¬ g.IsGroup id) ∧
    (g.Acyclic (g.rule region).listed →
      (∃ full, g.Unfolds (g.rule region).listed full) ∧
      ∀ full, g.Unfolds (g.rule region).listed full → ∀ line pos,
        bestMatch line pos none (g.contest region (g.candidates region)) =
          bestMatch line pos none (g.contest region full)) ∧
    ∀ text i line s, g.Moment text i line s →
      (g.remember s.memo region).1 = g.candidates region := by
  refine ⟨walks_candidates g region, ?_, fun id => mem_candidates_iff, ?_, ?_⟩
  · intro seen out h
    obtain ⟨seen', hwalks⟩ := walks_candidates g region
    exact (h.unique hwalks).2
  · intro hacyclic
    refine ⟨exists_unfolds hacyclic, fun full hfull line pos => ?_⟩
    exact ((thins_candidates hacyclic hfull).bestMatch_eq region line pos).symm
  · intro text i line s h
    exact remember_fst h.noted region

def pairText : GrammarText where
  name := "Pair"
  scopeName := "text.pair"
  rules := [{ includes := some "#pair" }, { pattern := some "x" }, { includes := some "#pair" }]
  repository := [("pair", { rules := [{ pattern := some "a" }, { pattern := some "b" }] })]

theorem candidates_expanded_pairText : ∃ G, compile? pairText = .ok G ∧
    G.candidates root = [2, 3, 4] ∧ G.Acyclic (G.rule root).listed ∧
    G.Unfolds (G.rule root).listed [2, 3, 4, 2, 3] ∧
    ∀ line pos, bestMatch line pos none (G.contest root [2, 3, 4]) =
      bestMatch line pos none (G.contest root [2, 3, 4, 2, 3]) := by
  have hrun : (compile? pairText).toOption.map (fun G =>
      ((List.range G.rules.size).all fun id => (G.rule id).listed.all (id < ·),
        (List.range 5).map fun id => ((G.rule id).finder?.isNone, (G.rule id).listed),
        G.candidates root)) =
      some (true, [(true, [1, 4, 1]), (true, [2, 3]), (false, []), (false, []), (false, [])],
        [2, 3, 4]) := by
    decide +kernel
  obtain ⟨G, hG, hrun⟩ := Option.map_eq_some_iff.mp hrun
  obtain ⟨hbehind, hrun⟩ := Prod.mk.inj hrun
  obtain ⟨hrules, hcandidates⟩ := Prod.mk.inj hrun
  have hrule {id : RuleId} (hid : id < 5) : ((G.rule id).finder?.isNone, (G.rule id).listed) =
      [(true, [1, 4, 1]), (true, [2, 3]), (false, []), (false, []), (false, [])][id] := by
    simp [← hrules]
  have hgroup {id : RuleId} {ids : List RuleId}
      (h : ((G.rule id).finder?.isNone, (G.rule id).listed) = (true, ids)) : G.rule id = .group ids := by
    obtain ⟨hnone, hlisted⟩ := Prod.mk.inj h
    rw [rule_eq_group (Option.isNone_iff_eq_none.mp hnone), hlisted]
  have hplain {id : RuleId} (h : ((G.rule id).finder?.isNone, (G.rule id).listed) = (false, [])) :
      ¬ G.IsGroup id := by
    rw [isGroup_iff, ← Option.isNone_iff_eq_none, (Prod.mk.inj h).1]
    exact Bool.false_ne_true
  have hroot : G.rule root = .group [1, 4, 1] := hgroup (hrule (by decide))
  have hpair : G.rule 1 = .group [2, 3] := hgroup (hrule (by decide))
  have hinside : G.Unfolds [2, 3] [2, 3] :=
    .rule (hplain (hrule (by decide))) (.rule (hplain (hrule (by decide))) .nil)
  have hfull : G.Unfolds (G.rule root).listed [2, 3, 4, 2, 3] := by
    rw [hroot]
    exact .group hpair hinside (.rule (hplain (hrule (by decide))) (.group hpair hinside .nil))
  have hlt : ∀ id child, G.Nests id child → id < child := by
    rintro id child ⟨ids, hid, hchild⟩
    have hsize := lt_size_of_nests ⟨ids, hid, hchild⟩
    have hall := List.all_eq_true.mp hbehind id (List.mem_range.mpr hsize)
    rw [hid] at hall
    exact of_decide_eq_true (List.all_eq_true.mp hall child hchild)
  have hacyclic : G.Acyclic (G.rule root).listed := acyclic_of_lt hlt
  obtain ⟨_, _, _, hsame, _⟩ := candidates_expanded G root
  rw [hcandidates] at hsame
  exact ⟨G, eq_ok_of_toOption hG, hcandidates, hacyclic, hfull, (hsame hacyclic).2 _ hfull⟩

end Scopemark.Grammar
