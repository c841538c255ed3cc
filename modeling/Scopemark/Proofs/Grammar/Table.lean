import Mathlib.Data.List.Nodup
import Scopemark.Proofs.Grammar.Growth

namespace Scopemark.Grammar

variable {g : GrammarText} {G : Grammar} {N : Naming} {s : Building} {ids : List RuleId}

def ValidScopeName (g : GrammarText) : Prop :=
  ∃ scope : Scope, scope.name = .ofList (Text.trim g.scopeName.toList)

theorem compile?_eq_ok (h : compile? g = .ok G) : ValidScopeName g ∧ ∃ ids s,
    compileAll (entry g.repository g.repository.length) g.rules .start = .ok (ids, s) ∧
      G.rules = s.rules.setIfInBounds root (.group ids) := by
  unfold compile? at h
  obtain ⟨scopeName, hscope, h⟩ := bind_eq_ok.mp h
  obtain ⟨⟨ids, s⟩, hrun, h⟩ := bind_eq_ok.mp h
  cases h
  exact ⟨Scope.exists_ofString?.mp ⟨scopeName, mapError_eq_ok.mp hscope⟩, ids, s, hrun, rfl⟩

theorem exists_compile? (hscope : ValidScopeName g)
    (hrun : compileAll (entry g.repository g.repository.length) g.rules .start = .ok (ids, s)) :
    ∃ G, compile? g = .ok G := by
  obtain ⟨scopeName, hscope⟩ := Scope.exists_ofString?.mpr hscope
  refine ⟨⟨g.name, scopeName, g.fileTypes, s.rules.setIfInBounds root (.group ids),
    root_group_setRoot s.rules ids⟩, bind_eq_ok.mpr ⟨scopeName, mapError_eq_ok.mpr hscope, ?_⟩⟩
  exact bind_eq_ok.mpr ⟨(ids, s), hrun, rfl⟩

theorem wellFormed_iff_exists_run : (∀ raw, Reached g raw → WellFormed g raw) ↔
    ∃ ids s, compileAll (entry g.repository g.repository.length) g.rules .start = .ok (ids, s) := by
  have hends := compileAll_rules_ends g
  constructor
  · intro hwell
    cases hrun : compileAll (entry g.repository g.repository.length) g.rules .start with
    | ok p => exact ⟨p.1, p.2, rfl⟩
    | error e =>
        rw [hrun] at hends
        obtain ⟨raw, hraw, hnot⟩ := hends
        exact absurd (hwell raw hraw) hnot
  · rintro ⟨ids, s, hrun⟩ raw hraw
    rw [hrun] at hends
    exact Complete.wellFormed hends hraw

theorem exists_compile?_iff : (∃ G, compile? g = .ok G) ↔
    ValidScopeName g ∧ ∀ raw, Reached g raw → WellFormed g raw := by
  rw [wellFormed_iff_exists_run]
  constructor
  · rintro ⟨G, h⟩
    obtain ⟨hscope, ids, s, hrun, _⟩ := compile?_eq_ok h
    exact ⟨hscope, ids, s, hrun⟩
  · rintro ⟨hscope, ids, s, hrun⟩
    exact exists_compile? hscope hrun

structure Numbers (g : GrammarText) (N : Naming) (names : List String) : Prop where
  nodup : names.Nodup
  reached : ∀ name, name ∈ names ↔ ReachedEntry g name
  numbered : ∀ name, name ∈ names ↔ ∃ id, N.entryId name = some id
  distinct : ∀ name name' id, N.entryId name = some id → N.entryId name' = some id → name = name'

theorem lookup_inj {ids : List (String × RuleId)} {name name' : String} {id : RuleId}
    (h : (ids.map Prod.snd).Nodup) (hname : ids.lookup name = some id)
    (hname' : ids.lookup name' = some id) : name = name' := by
  have hmem {name : String} (hname : ids.lookup name = some id) : (name, id) ∈ ids := by
    obtain ⟨before, after, hids, _⟩ := List.lookup_eq_some_iff.mp hname
    rw [hids]
    exact List.mem_append_right _ List.mem_cons_self
  have heq := List.inj_on_of_nodup_map h (hmem hname) (hmem hname') rfl
  exact congrArg Prod.fst heq

theorem Complete.numbers (h : Complete g s) (hN : N.entryId = fun name => s.ids.lookup name) :
    Numbers g N s.names where
  nodup := h.tidy.names
  reached _ := h.mem_names
  numbered name := by rw [hN, Grammar.mem_names]
  distinct name name' id hname hname' := by
    rw [hN] at hname hname'
    exact lookup_inj h.tidy.numbers hname hname'

/-- The table of a grammar that was compiled follows the includes of its document, and it has a rule
for the grammar, for each entry that is reached, and for each rule that is compiled where it stands. -/
theorem exists_numbers (h : compile? g = .ok G) : ∃ N names, Follows g N G.rules ∧
    Numbers g N names ∧ G.rules.size = 1 + names.length + (reachedInline g names).length := by
  obtain ⟨_, ids, s, hrun, hrules⟩ := compile?_eq_ok h
  have hcomplete : Complete g s := by
    have hends := compileAll_rules_ends g
    rw [hrun] at hends
    exact hends
  obtain ⟨N, _, hN, hlists⟩ := (build_sound (entry_sound g _)).2 g.rules (partial_start g)
    (fun _ hraw => .root hraw) hrun
  have hfollows := (hN.set hN.valid.root (.grammar hlists)).follows
  refine ⟨N, s.names, hrules ▸ hfollows, hcomplete.numbers hN.ids, ?_⟩
  have hsize := hcomplete.size
  rw [space] at hsize
  rw [hrules, Array.size_setIfInBounds, reachedInline, List.length_append]
  omega

/-- Compiling comes to an end, whatever the includes are, since entries nest no deeper than there are
names. It fails iff the scope of the grammar or a rule that is reached is not right, gives every entry
that is reached one number, and does not see the other ones. -/
theorem compile?_reaches (g : GrammarText) :
    (∀ bottom depth, g.repository.length < depth →
      compileWith ((entryStep g.repository)^[depth] bottom) g = compile? g) ∧
    ((∃ G, compile? g = .ok G) ↔ ValidScopeName g ∧ ∀ raw, Reached g raw → WellFormed g raw) ∧
    (∀ G, compile? g = .ok G → ∃ N names, Follows g N G.rules ∧ Numbers g N names ∧
      G.rules.size = 1 + names.length + (reachedInline g names).length ∧
      ∀ raw, raw ∈ reachedInline g names ↔ raw.includes = none ∧ Stands g raw) ∧
    ∀ g', SameReached g g' → compile? g' = compile? g := by
  refine ⟨fun bottom depth hdepth => compileWith_eq (.refl g) bottom hdepth, exists_compile?_iff, ?_,
    fun g' h => h.compile?_eq⟩
  intro G h
  obtain ⟨N, names, hfollows, hnumbers, hsize⟩ := exists_numbers h
  exact ⟨N, names, hfollows, hnumbers, hsize, fun raw => mem_reachedInline hnumbers.reached⟩

def spareText : GrammarText :=
  { nestedText with repository := ("spare", {}) :: nestedText.repository }

def AsksNested (raw : RuleText) : Prop :=
  asks? raw = none ∨ asks? raw = some "string" ∨ asks? raw = some "alias"

instance (raw : RuleText) : Decidable (AsksNested raw) := inferInstanceAs (Decidable (_ ∨ _ ∨ _))

theorem asksNested_of_reached {raw : RuleText} (h : Reached spareText raw) :
    AsksNested raw ∧ ∀ r ∈ innerRules raw, AsksNested r ∧ innerRules r = [] := by
  induction h with
  | @root raw h =>
      have hrules : ∀ r ∈ spareText.rules,
          AsksNested r ∧ ∀ r' ∈ innerRules r, AsksNested r' ∧ innerRules r' = [] := by
        decide
      exact hrules raw h
  | nested h hr ih =>
      obtain ⟨hasks, hinner⟩ := ih.2 _ hr
      rw [hinner]
      exact ⟨hasks, List.forall_mem_nil _⟩
  | entry h hasks hget ih =>
      rw [AsksNested, hasks] at ih
      rcases ih.1 with hnone | hname | hname
      · cases hnone
      · cases hname
        cases hget
        decide
      · cases hname
        cases hget
        decide

theorem not_asked_spare : ¬ Asked spareText "spare" := by
  rintro ⟨raw, hraw, hasks⟩
  have hnested := (asksNested_of_reached hraw).1
  rw [AsksNested, hasks] at hnested
  revert hnested
  decide

theorem sameReached_spareText : SameReached nestedText spareText where
  name := rfl
  scopeName := rfl
  fileTypes := rfl
  rules := rfl
  entries name := by
    by_cases hname : name = "spare"
    · subst hname
      refine .inr ⟨fun h => ?_, fun h => not_asked_spare h.1⟩
      obtain ⟨raw, hget⟩ := h.2
      cases hget
    · refine .inl ?_
      rw [KeyList.get?, spareText, List.lookup_cons, beq_false_of_ne hname]
      rfl

theorem compile?_reaches_spareText : ∃ G, compile? spareText = .ok G ∧
    compileWith ((entryStep nestedText.repository)^[3] fun _ => fail .emptyRule) nestedText = .ok G ∧
    ∃ N names, Numbers nestedText N names ∧
      4 = 1 + names.length + (reachedInline nestedText names).length := by
  have hsize : (compile? nestedText).toOption.map (fun G => G.rules.size) = some 4 := by
    decide +kernel
  obtain ⟨G, hG, hsize⟩ := Option.map_eq_some_iff.mp hsize
  have hcompile := eq_ok_of_toOption hG
  obtain ⟨hdepth, _, htable, hsame⟩ := compile?_reaches nestedText
  obtain ⟨N, names, _, hnumbers, hcount, _⟩ := htable G hcompile
  refine ⟨G, (hsame spareText sameReached_spareText).trans hcompile, ?_, N, names, hnumbers, ?_⟩
  · rw [hdepth _ 3 (by decide), hcompile]
  · rw [← hsize, hcount]

end Scopemark.Grammar
