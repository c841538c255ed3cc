import Scopemark.Proofs.Grammar.Parts

namespace Scopemark.Grammar

variable {g : GrammarText} {raw r : RuleText} {raws : List RuleText} {name : String}
  {names : List String}

def asks? (raw : RuleText) : Option String := raw.includes.bind entryName?

inductive Reached (g : GrammarText) : RuleText → Prop
  | root {raw : RuleText} (h : raw ∈ g.rules) : Reached g raw
  | nested {raw r : RuleText} (h : Reached g raw) (hr : r ∈ innerRules raw) : Reached g r
  | entry {raw r : RuleText} {name : String} (h : Reached g raw) (hasks : asks? raw = some name)
      (hget : KeyList.get? name g.repository = some r) : Reached g r

def Asked (g : GrammarText) (name : String) : Prop := ∃ raw, Reached g raw ∧ asks? raw = some name

def ReachedEntry (g : GrammarText) (name : String) : Prop :=
  Asked g name ∧ ∃ raw, KeyList.get? name g.repository = some raw

theorem Asked.reached (h : Asked g name) (hget : KeyList.get? name g.repository = some raw) :
    Reached g raw := by
  obtain ⟨r, hr, hasks⟩ := h
  exact hr.entry hasks hget

mutual

def inlineWithin : RuleText → List RuleText
  | ⟨includes, _, _, pattern, _, _, _, _, _, rules, _⟩ =>
    if includes.isSome || pattern.isSome then [] else inlineRules rules

def inlineRules : List RuleText → List RuleText
  | [] => []
  | raw :: raws =>
    (if raw.includes.isSome then [] else raw :: inlineWithin raw) ++ inlineRules raws

end

def entryInline (g : GrammarText) (name : String) : List RuleText :=
  (KeyList.get? name g.repository).elim [] inlineWithin

/-- The rules that are compiled where they stand if the names are those of the entries that are reached.
The ones of an entry are there once. -/
def reachedInline (g : GrammarText) (names : List String) : List RuleText :=
  inlineRules g.rules ++ names.flatMap (entryInline g)

theorem inlineWithin_eq (raw : RuleText) : inlineWithin raw = inlineRules (innerRules raw) := by
  obtain ⟨includes, _, _, pattern, _, _, _, _, _, rules, _⟩ := raw
  rw [inlineWithin, innerRules]
  dsimp only
  split
  · rw [inlineRules]
  · rfl

theorem inlineRules_cons_include {target : String} (h : raw.includes = some target) :
    inlineRules (raw :: raws) = inlineRules raws := by
  rw [inlineRules, h, Option.isSome_some, if_pos rfl, List.nil_append]

theorem inlineRules_cons_inline (h : raw.includes = none) :
    inlineRules (raw :: raws) = raw :: (inlineRules (innerRules raw) ++ inlineRules raws) := by
  rw [inlineRules, h, Option.isSome_none, if_neg Bool.false_ne_true, inlineWithin_eq, List.cons_append]

theorem entryInline_eq (hget : KeyList.get? name g.repository = some raw) :
    entryInline g name = inlineRules (innerRules raw) := by
  rw [entryInline, hget, Option.elim_some, inlineWithin_eq]

theorem innerRules_of_include {target : String} (h : raw.includes = some target) :
    innerRules raw = [] := by
  rw [innerRules, h, Option.isSome_some, Bool.true_or, if_pos rfl]

/-- Rules are taken in the order in which they are compiled: an include has no rules in it. -/
theorem rules_induction {P : List RuleText → Prop} (nil : P [])
    (including : ∀ raw raws target, raw.includes = some target → P raws → P (raw :: raws))
    (inline : ∀ raw raws, raw.includes = none → P (innerRules raw) → P raws → P (raw :: raws))
    (raws : List RuleText) : P raws := by
  suffices h : (∀ raw : RuleText, P raw.rules) ∧ ∀ raws, P raws from h.2 raws
  apply build.mutual_induct
  case case1 =>
    intro _ _ _ _ _ _ _ _ _ rules _ hrules
    exact hrules
  case case2 => exact nil
  case case3 => exact including
  case case4 =>
    intro raw raws hincludes hrules hraws
    refine inline raw raws hincludes ?_ hraws
    unfold innerRules
    split
    · exact nil
    · exact hrules

theorem includes_of_mem_inlineRules (h : raw ∈ inlineRules raws) : raw.includes = none := by
  induction raws using rules_induction with
  | nil => cases h
  | including r raws target htarget ih =>
      rw [inlineRules_cons_include htarget] at h
      exact ih h
  | inline r raws hincludes ihinner ih =>
      rw [inlineRules_cons_inline hincludes, List.mem_cons, List.mem_append] at h
      rcases h with rfl | h | h
      · exact hincludes
      · exact ihinner h
      · exact ih h

theorem mem_inlineRules (h : raw ∈ raws) (hincludes : raw.includes = none) : raw ∈ inlineRules raws := by
  induction raws with
  | nil => cases h
  | cons r raws ih =>
      rw [inlineRules]
      rcases List.mem_cons.mp h with rfl | h
      · rw [hincludes]
        exact List.mem_append_left _ List.mem_cons_self
      · exact List.mem_append_right _ (ih h)

theorem mem_inlineRules_trans (hr : r ∈ inlineRules raws) (h : raw ∈ inlineRules (innerRules r)) :
    raw ∈ inlineRules raws := by
  induction raws using rules_induction with
  | nil => cases hr
  | including r' raws target htarget ih =>
      rw [inlineRules_cons_include htarget] at hr ⊢
      exact ih hr
  | inline r' raws hincludes ihinner ih =>
      rw [inlineRules_cons_inline hincludes, List.mem_cons, List.mem_append] at hr ⊢
      rcases hr with rfl | hr | hr
      · exact .inr (.inl h)
      · exact .inr (.inl (ihinner hr))
      · exact .inr (.inr (ih hr))

def Stands (g : GrammarText) (raw : RuleText) : Prop :=
  raw ∈ g.rules ∨ ∃ r, Reached g r ∧ raw ∈ innerRules r

theorem Stands.reached (h : Stands g raw) : Reached g raw := by
  rcases h with h | ⟨r, hr, h⟩
  · exact .root h
  · exact hr.nested h

theorem stands_of_mem_inlineRules (hraws : ∀ r ∈ raws, Stands g r) (h : raw ∈ inlineRules raws) :
    Stands g raw := by
  induction raws using rules_induction with
  | nil => cases h
  | including r raws target htarget ih =>
      rw [inlineRules_cons_include htarget] at h
      exact ih (List.forall_mem_cons.mp hraws).2 h
  | inline r raws hincludes ihinner ih =>
      obtain ⟨hr, hraws⟩ := List.forall_mem_cons.mp hraws
      rw [inlineRules_cons_inline hincludes, List.mem_cons, List.mem_append] at h
      rcases h with rfl | h | h
      · exact hr
      · exact ihinner (fun r' hr' => .inr ⟨r, hr.reached, hr'⟩) h
      · exact ih hraws h

theorem mem_reachedInline_iff : raw ∈ reachedInline g names ↔ raw ∈ inlineRules g.rules ∨
    ∃ name ∈ names, ∃ r, KeyList.get? name g.repository = some r ∧ raw ∈ inlineRules (innerRules r) := by
  rw [reachedInline, List.mem_append, List.mem_flatMap]
  refine or_congr_right (exists_congr fun name => and_congr_right fun _ => ?_)
  unfold entryInline
  cases KeyList.get? name g.repository with
  | none => simp
  | some r => simp [inlineWithin_eq]

theorem mem_reachedInline_of_reached (hnames : ∀ name, name ∈ names ↔ ReachedEntry g name)
    (hr : Reached g r) (h : raw ∈ inlineRules (innerRules r)) : raw ∈ reachedInline g names := by
  have hincludes {r : RuleText} (h : raw ∈ inlineRules (innerRules r)) : r.includes = none := by
    cases htarget : r.includes with
    | none => rfl
    | some target =>
        rw [innerRules_of_include htarget] at h
        cases h
  induction hr with
  | root hr =>
      have hroot := mem_inlineRules_trans (mem_inlineRules hr (hincludes h)) h
      exact mem_reachedInline_iff.mpr (.inl hroot)
  | nested _ hr ih => exact ih (mem_inlineRules_trans (mem_inlineRules hr (hincludes h)) h)
  | entry hr hasks hget _ =>
      have hname := (hnames _).mpr ⟨⟨_, hr, hasks⟩, _, hget⟩
      exact mem_reachedInline_iff.mpr (.inr ⟨_, hname, _, hget, h⟩)

/-- The rules that are compiled where they stand are those that are reached and are no includes. -/
theorem mem_reachedInline (hnames : ∀ name, name ∈ names ↔ ReachedEntry g name) :
    raw ∈ reachedInline g names ↔ raw.includes = none ∧ Stands g raw := by
  constructor
  · intro h
    rcases mem_reachedInline_iff.mp h with h | ⟨name, hname, r, hget, h⟩
    · exact ⟨includes_of_mem_inlineRules h, stands_of_mem_inlineRules (fun _ => .inl) h⟩
    · have hr : Reached g r := ((hnames name).mp hname).1.reached hget
      exact ⟨includes_of_mem_inlineRules h,
        stands_of_mem_inlineRules (fun r' hr' => .inr ⟨r, hr, hr'⟩) h⟩
  · rintro ⟨hincludes, h | ⟨r, hr, h⟩⟩
    · exact mem_reachedInline_iff.mpr (.inl (mem_inlineRules h hincludes))
    · exact mem_reachedInline_of_reached hnames hr (mem_inlineRules h hincludes)

end Scopemark.Grammar
