import Scopemark.Proofs.Grammar.Depth

namespace Scopemark.Grammar

def Building.names (s : Building) : List String := s.ids.map Prod.fst

variable {α β : Type} {g : GrammarText} {raw : RuleText} {name : String}
  {names names' : List String} {s t u : Building} {n m level : Nat}
  {below : String → Build RuleId} {Q : α → Building → Prop} {R : β → Building → Prop}

structure Tidy (g : GrammarText) (s : Building) : Prop where
  names : s.names.Nodup
  numbers : (s.ids.map Prod.snd).Nodup
  bound : ∀ entry ∈ s.ids, entry.2 < s.rules.size
  reached : ∀ name ∈ s.names, ReachedEntry g name

inductive Settled (g : GrammarText) (names : List String) : RuleText → Prop
  | intro {raw : RuleText} (own : WellFormed g raw) (asks : ∀ name ∈ asks? raw, name ∈ names)
      (inner : ∀ r ∈ innerRules raw, Settled g names r) : Settled g names raw

def space (g : GrammarText) (names : List String) : Nat :=
  names.length + (names.flatMap (entryInline g)).length

/-- The table has grown by `n` rules besides what new entries take up, and these are settled. -/
structure Grows (g : GrammarText) (n : Nat) (s t : Building) : Prop where
  tidy : Tidy g t
  names : s.names ⊆ t.names
  settled : ∀ name ∈ t.names, name ∈ s.names ∨
    ∀ raw, KeyList.get? name g.repository = some raw → Settled g t.names raw
  size : t.rules.size + space g s.names = s.rules.size + space g t.names + n

theorem mem_names : name ∈ s.names ↔ ∃ id, s.ids.lookup name = some id := by
  rw [← Option.isSome_iff_exists, List.lookup_isSome_iff]
  simp [Building.names]

theorem Settled.mono (hsub : names ⊆ names') (h : Settled g names raw) : Settled g names' raw := by
  induction h with
  | intro own asks _ ih => exact .intro own (fun name hname => hsub (asks name hname)) ih

theorem Grows.refl (h : Tidy g s) : Grows g 0 s s :=
  ⟨h, List.Subset.refl _, fun _ => .inl, rfl⟩

theorem Grows.trans (h : Grows g n s t) (k : Grows g m t u) : Grows g (n + m) s u where
  tidy := k.tidy
  names := List.Subset.trans h.names k.names
  settled name hname := by
    rcases k.settled name hname with hname | hsettled
    · exact (h.settled name hname).imp_right fun hsettled raw hget => (hsettled raw hget).mono k.names
    · exact .inr hsettled
  size := by
    have hsize := h.size
    have hsize' := k.size
    omega

theorem Grows.push (h : Tidy g s) (rule : Rule) :
    Grows g 1 s { s with rules := s.rules.push rule } where
  tidy := ⟨h.names, h.numbers, fun entry hentry => by
    rw [Array.size_push]
    exact Nat.lt_succ_of_lt (h.bound entry hentry), h.reached⟩
  names := List.Subset.refl _
  settled _ := .inl
  size := by
    rw [Array.size_push]
    exact Nat.add_right_comm _ _ _

theorem unseen_le (repository : List (String × RuleText)) (h : s.names ⊆ t.names) :
    unseen repository t.ids ≤ unseen repository s.ids := by
  refine List.countP_mono_left fun entry _ hnone => ?_
  cases hid : s.ids.lookup entry.1 with
  | none => rfl
  | some id =>
      obtain ⟨id', hid'⟩ := mem_names.mp (h (mem_names.mpr ⟨id, hid⟩))
      rw [hid'] at hnone
      cases hnone

def Ends (g : GrammarText) (Q : α → Building → Prop) : Except GrammarError (α × Building) → Prop
  | .ok (a, t) => Q a t
  | .error _ => ∃ raw, Reached g raw ∧ ¬ WellFormed g raw

theorem Ends.bind {x : Build α} {f : α → Build β} (h : Ends g Q (x s))
    (hnext : ∀ a t, Q a t → Ends g R (f a t)) : Ends g R ((x >>= f) s) := by
  change Ends g R (x s >>= fun p => f p.1 p.2)
  cases hrun : x s with
  | error e =>
      rw [hrun] at h
      exact h
  | ok p =>
      rw [hrun] at h
      exact hnext p.1 p.2 h

theorem Ends.imp {R : α → Building → Prop} {x : Except GrammarError (α × Building)}
    (h : Ends g Q x) (himp : ∀ a t, Q a t → R a t) : Ends g R x := by
  cases x with
  | error e => exact h
  | ok p => exact himp p.1 p.2 h

def EntriesEnd (g : GrammarText) (level : Nat) (below : String → Build RuleId) : Prop :=
  ∀ {name s}, Asked g name → Tidy g s → unseen g.repository s.ids ≤ level →
    Ends g (fun _ t => Grows g 0 s t ∧ name ∈ t.names) (below name s)

theorem WellFormed.present (h : WellFormed g raw) (hasks : asks? raw = some name) :
    ∃ r, KeyList.get? name g.repository = some r := by
  have hsome {target : String} (htarget : raw.includes = some target) :
      entryName? target = some name := by
    rwa [asks?, htarget, Option.bind_some] at hasks
  cases h with
  | including htarget present => exact present name (hsome htarget)
  | single h | region h | group h =>
      rw [asks?, h] at hasks
      cases hasks

theorem settled_include {target : String} (htarget : raw.includes = some target)
    (hnames : ∀ name ∈ names, ReachedEntry g name) (h : ∀ name ∈ entryName? target, name ∈ names) :
    Settled g names raw := by
  refine .intro (.including htarget fun name hname => (hnames name (h name hname)).2) ?_ ?_
  · rw [asks?, htarget, Option.bind_some]
    exact h
  · rw [innerRules_of_include htarget]
    exact List.forall_mem_nil _

theorem resolveInclude_ends (hentries : EntriesEnd g level below) (hraw : Reached g raw)
    {target : String} (htarget : raw.includes = some target) (hs : Tidy g s)
    (hroom : unseen g.repository s.ids ≤ level) :
    Ends g (fun _ t => Grows g 0 s t ∧ Settled g t.names raw) (resolveInclude below target s) := by
  rw [resolveInclude_eq]
  cases hname : entryName? target with
  | none =>
      refine ⟨.refl hs, settled_include htarget hs.reached ?_⟩
      rw [hname]
      nofun
  | some name =>
      have hasks : asks? raw = some name := by rw [asks?, htarget, Option.bind_some, hname]
      refine (hentries ⟨raw, hraw, hasks⟩ hs hroom).bind fun id t ht => ?_
      refine ⟨ht.1, settled_include htarget ht.1.tidy.reached ?_⟩
      rw [hname]
      rintro _ ⟨⟩
      exact ht.2

def ListEnds (g : GrammarText) (level : Nat) (below : String → Build RuleId) (raws : List RuleText) :
    Prop :=
  ∀ {s}, (∀ raw ∈ raws, Reached g raw) → Tidy g s → unseen g.repository s.ids ≤ level →
    Ends g (fun _ t => Grows g (inlineRules raws).length s t ∧ ∀ raw ∈ raws, Settled g t.names raw)
      (compileAll below raws s)

theorem build_ends (hraw : Reached g raw) (hincludes : raw.includes = none)
    (hinner : ListEnds g level below (innerRules raw)) (hs : Tidy g s)
    (hroom : unseen g.repository s.ids ≤ level) :
    Ends g (fun _ t => Grows g (inlineRules (innerRules raw)).length s t ∧ Settled g t.names raw)
      (build below raw s) := by
  rw [build_eq_frame hincludes]
  cases hframe : frame raw with
  | error e =>
      refine ⟨raw, hraw, fun hwell => ?_⟩
      obtain ⟨rule, hrule⟩ := hwell.exists_frame hincludes
      rw [hframe] at hrule
      cases hrule
  | ok rule =>
      change Ends g _ ((compileAll below (innerRules raw) >>= fun ids => pure (rule ids)) s)
      refine (hinner (fun r hr => hraw.nested hr) hs hroom).bind fun ids t ht => ?_
      refine ⟨ht.1, .intro (wellFormed_of_frame hincludes hframe) ?_ ht.2⟩
      rw [asks?, hincludes]
      rintro _ ⟨⟩

theorem compileAll_ends (hentries : EntriesEnd g level below) (raws : List RuleText) :
    ListEnds g level below raws := by
  induction raws using rules_induction with
  | nil =>
      intro s _ hs _
      rw [compileAll]
      exact ⟨.refl hs, List.forall_mem_nil _⟩
  | including raw raws target htarget ih =>
      intro s hraws hs hroom
      obtain ⟨hraw, hraws⟩ := List.forall_mem_cons.mp hraws
      rw [compileAll_cons_include htarget, inlineRules_cons_include htarget]
      refine (resolveInclude_ends hentries hraw htarget hs hroom).bind fun id t ht => ?_
      have hroom' := Nat.le_trans (unseen_le g.repository ht.1.names) hroom
      refine (ih hraws ht.1.tidy hroom').bind fun ids u hu => ?_
      have hgrows := ht.1.trans hu.1
      rw [Nat.zero_add] at hgrows
      exact ⟨hgrows, List.forall_mem_cons.mpr ⟨ht.2.mono hu.1.names, hu.2⟩⟩
  | inline raw raws hincludes ihinner ih =>
      intro s hraws hs hroom
      obtain ⟨hraw, hraws⟩ := List.forall_mem_cons.mp hraws
      rw [compileAll_cons_inline hincludes, inlineRules_cons_inline hincludes]
      refine (build_ends hraw hincludes ihinner hs hroom).bind fun rule t ht => ?_
      have hpush := ht.1.trans (.push ht.1.tidy rule)
      have hroom' := Nat.le_trans (unseen_le g.repository hpush.names) hroom
      refine Ends.bind (Q := fun _ u => u = { t with rules := t.rules.push rule }) rfl ?_
      rintro id _ rfl
      refine (ih hraws hpush.tidy hroom').bind fun ids u hu => ?_
      have hgrows := hpush.trans hu.1
      refine ⟨?_, List.forall_mem_cons.mpr ⟨ht.2.mono hu.1.names, hu.2⟩⟩
      rwa [List.length_cons, List.length_append, Nat.add_right_comm]

theorem Tidy.reserved (h : Tidy g s) (hnew : s.ids.lookup name = none) (hname : ReachedEntry g name) :
    Tidy g (s.reserved name) where
  names := by
    have hnot : name ∉ s.names := by
      rw [mem_names, hnew]
      rintro ⟨_, ⟨⟩⟩
    exact List.nodup_cons.mpr ⟨hnot, h.names⟩
  numbers := by
    refine List.nodup_cons.mpr ⟨fun hmem => ?_, h.numbers⟩
    obtain ⟨entry, hentry, heq⟩ := List.mem_map.mp hmem
    exact Nat.ne_of_lt (h.bound entry hentry) heq
  bound entry hentry := by
    change entry.2 < (s.rules.push (.group [])).size
    rw [Array.size_push]
    rcases List.mem_cons.mp hentry with rfl | hentry
    · exact Nat.lt_succ_self _
    · exact Nat.lt_succ_of_lt (h.bound entry hentry)
  reached other hother := by
    rcases List.mem_cons.mp hother with rfl | hother
    · exact hname
    · exact h.reached other hother

theorem space_cons (hget : KeyList.get? name g.repository = some raw) :
    space g (name :: names) = 1 + (inlineRules (innerRules raw)).length + space g names := by
  rw [space, space, List.length_cons, List.flatMap_cons, List.length_append, entryInline_eq hget]
  omega

theorem entryRule_ends (hentries : EntriesEnd g level below) (hraw : Reached g raw) (hs : Tidy g s)
    (hroom : unseen g.repository s.ids ≤ level) :
    Ends g (fun _ t => Grows g (inlineRules (innerRules raw)).length s t ∧ Settled g t.names raw)
      (entryRule below raw s) := by
  unfold entryRule
  cases hincludes : raw.includes with
  | none => exact build_ends hraw hincludes (compileAll_ends hentries _) hs hroom
  | some target =>
      refine (resolveInclude_ends hentries hraw hincludes hs hroom).bind fun id t ht => ?_
      rw [innerRules_of_include hincludes]
      exact ht

/-- The table is as large as before, but for what the entry takes up and those that it asks for. -/
theorem grows_finish (hget : KeyList.get? name g.repository = some raw)
    (h : Grows g (inlineRules (innerRules raw)).length (s.reserved name) t)
    (hraw : Settled g t.names raw) (rule : Rule) :
    Grows g 0 s { t with rules := t.rules.setIfInBounds s.rules.size rule } where
  tidy := ⟨h.tidy.names, h.tidy.numbers, by
    rw [Array.size_setIfInBounds]
    exact h.tidy.bound, h.tidy.reached⟩
  names := List.Subset.trans (List.subset_cons_self name s.names) h.names
  settled other hother := by
    rcases h.settled other hother with hmem | hsettled
    · rcases List.mem_cons.mp hmem with rfl | hmem
      · refine .inr fun found hfound => ?_
        rw [hget] at hfound
        cases hfound
        exact hraw
      · exact .inl hmem
    · exact .inr hsettled
  size := by
    have hsize := h.size
    change t.rules.size + space g (name :: s.names) =
      (s.rules.push (.group [])).size + space g t.names + _ at hsize
    -- What the text of the entry adds to the table is what its name adds to `space`.
    rw [Array.size_push, space_cons hget] at hsize
    change (t.rules.setIfInBounds s.rules.size rule).size + space g s.names =
      s.rules.size + space g t.names + 0
    rw [Array.size_setIfInBounds]
    omega

theorem finishEntry_ends (hentries : EntriesEnd g level below) (hs : Tidy g s)
    (hnew : s.ids.lookup name = none) (hname : Asked g name)
    (hget : KeyList.get? name g.repository = some raw)
    (hroom : unseen g.repository (s.reserved name).ids ≤ level) :
    Ends g (fun _ t => Grows g 0 s t ∧ name ∈ t.names)
      (finishEntry below raw s.rules.size (s.reserved name)) := by
  have htidy : Tidy g (s.reserved name) := hs.reserved hnew ⟨hname, raw, hget⟩
  refine (entryRule_ends hentries (hname.reached hget) htidy hroom).bind fun rule t ht => ?_
  exact ⟨grows_finish hget ht.1 ht.2 rule, ht.1.names List.mem_cons_self⟩

theorem entry_ends_step
    (hbelow : ∀ k, level = k + 1 → EntriesEnd g k (entry g.repository k)) :
    EntriesEnd g level (entry g.repository level) := by
  intro name s hname hs hroom
  cases hnew : s.ids.lookup name with
  | some id =>
      rw [entry_seen hnew]
      exact ⟨.refl hs, mem_names.mpr ⟨id, hnew⟩⟩
  | none =>
      cases hget : KeyList.get? name g.repository with
      | none =>
          rw [entry_unknown hnew hget]
          obtain ⟨raw, hraw, hasks⟩ := hname
          refine ⟨raw, hraw, fun hwell => ?_⟩
          obtain ⟨r, hr⟩ := hwell.present hasks
          rw [hget] at hr
          cases hr
      | some raw =>
          have hlt := unseen_cons_lt hnew hget s.rules.size
          obtain ⟨k, rfl⟩ : ∃ k, level = k + 1 := Nat.exists_eq_add_one.mpr (by omega)
          rw [entry_succ, entryStep_new hnew hget]
          exact finishEntry_ends (hbelow k rfl) hs hnew hname hget
            (Nat.le_of_lt_succ (Nat.lt_of_lt_of_le hlt hroom))

theorem entry_ends (g : GrammarText) (level : Nat) : EntriesEnd g level (entry g.repository level) := by
  induction level with
  | zero =>
      refine entry_ends_step fun k hk => ?_
      cases hk
  | succ level ih =>
      refine entry_ends_step fun k hk => ?_
      cases hk
      exact ih

def Building.start : Building := ⟨#[.group []], []⟩

structure Complete (g : GrammarText) (s : Building) : Prop where
  tidy : Tidy g s
  rules : ∀ raw ∈ g.rules, Settled g s.names raw
  entries : ∀ name ∈ s.names, ∀ raw, KeyList.get? name g.repository = some raw → Settled g s.names raw
  size : s.rules.size = 1 + space g s.names + (inlineRules g.rules).length

theorem tidy_start (g : GrammarText) : Tidy g .start :=
  ⟨.nil, .nil, List.forall_mem_nil _, List.forall_mem_nil _⟩

theorem compileAll_rules_ends (g : GrammarText) : Ends g (fun _ t => Complete g t)
    (compileAll (entry g.repository g.repository.length) g.rules .start) := by
  have hends := compileAll_ends (entry_ends g g.repository.length) g.rules (fun _ hraw => .root hraw)
    (tidy_start g) List.countP_le_length
  refine hends.imp fun _ t ht => ?_
  obtain ⟨hgrows, hrules⟩ := ht
  refine ⟨hgrows.tidy, hrules, fun name hname => ?_, ?_⟩
  · exact (hgrows.settled name hname).resolve_left List.not_mem_nil
  · exact hgrows.size

theorem Complete.settled (h : Complete g s) (hraw : Reached g raw) : Settled g s.names raw := by
  induction hraw with
  | root hraw => exact h.rules _ hraw
  | nested _ hr ih =>
      cases ih with
      | intro _ _ inner => exact inner _ hr
  | entry _ hasks hget ih =>
      cases ih with
      | intro _ asks _ => exact h.entries _ (asks _ hasks) _ hget

theorem Complete.wellFormed (h : Complete g s) (hraw : Reached g raw) : WellFormed g raw := by
  cases h.settled hraw with
  | intro own _ _ => exact own

theorem Complete.mem_names (h : Complete g s) : name ∈ s.names ↔ ReachedEntry g name := by
  constructor
  · exact h.tidy.reached name
  · rintro ⟨⟨raw, hraw, hasks⟩, _⟩
    cases h.settled hraw with
    | intro _ asks _ => exact asks name hasks

end Scopemark.Grammar
