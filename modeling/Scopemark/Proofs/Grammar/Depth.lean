import Mathlib.Logic.Function.Iterate
import Scopemark.Proofs.Grammar.Reached

namespace Scopemark.Grammar

variable {α β : Type} {g g' : GrammarText} {raw : RuleText} {raws : List RuleText} {name : String}
  {repository : List (String × RuleText)} {ids : List (String × RuleId)} {id : RuleId}
  {s : Building} {below below' : String → Build RuleId} {level level' depth : Nat}

def finishEntry (below : String → Build RuleId) (raw : RuleText) (id : RuleId) : Build RuleId := do
  let rule ← entryRule below raw
  setRule id rule
  return id

def Building.reserved (s : Building) (name : String) : Building :=
  ⟨s.rules.push (.group []), (name, s.rules.size) :: s.ids⟩

def entryStep (repository : List (String × RuleText)) (below : String → Build RuleId) (name : String) :
    Build RuleId := fun s =>
  match s.ids.lookup name, KeyList.get? name repository with
  | some id, _ => .ok (id, s)
  | none, some raw => finishEntry below raw s.rules.size (s.reserved name)
  | none, none => .error (.unknownInclude ("#" ++ name))

def ofTable (g : GrammarText) (scopeName : Scope) (rules : Array Rule) (ids : List RuleId) : Grammar where
  name := g.name
  scopeName := scopeName
  fileTypes := g.fileTypes
  rules := rules.setIfInBounds root (.group ids)
  root_group := root_group_setRoot rules ids

def compileWith (entry : String → Build RuleId) (g : GrammarText) : Except GrammarError Grammar := do
  let scopeName ← (Scope.ofString? (.ofList (Text.trim g.scopeName.toList))).mapError .badScope
  let (ids, s) ← compileAll entry g.rules ⟨#[.group []], []⟩
  return ofTable g scopeName s.rules ids

theorem compile?_eq_compileWith :
    compile? g = compileWith (entry g.repository g.repository.length) g := rfl

theorem entry_seen (h : s.ids.lookup name = some id) : entry repository level name s = .ok (id, s) := by
  unfold entry
  rw [h]

theorem entry_unknown (hnew : s.ids.lookup name = none) (hget : KeyList.get? name repository = none) :
    entry repository level name s = .error (.unknownInclude ("#" ++ name)) := by
  unfold entry
  rw [hnew, hget]
  cases level <;> rfl

theorem entryStep_seen (h : s.ids.lookup name = some id) :
    entryStep repository below name s = .ok (id, s) := by
  simp only [entryStep, h]

theorem entryStep_unknown (hnew : s.ids.lookup name = none)
    (hget : KeyList.get? name repository = none) :
    entryStep repository below name s = .error (.unknownInclude ("#" ++ name)) := by
  simp only [entryStep, hnew, hget]

theorem entryStep_new (hnew : s.ids.lookup name = none)
    (hget : KeyList.get? name repository = some raw) :
    entryStep repository below name s = finishEntry below raw s.rules.size (s.reserved name) := by
  simp only [entryStep, hnew, hget]

theorem entry_succ : entry repository (level + 1) = entryStep repository (entry repository level) := by
  funext name s
  unfold entry entryStep
  cases s.ids.lookup name with
  | some id => rfl
  | none => cases KeyList.get? name repository <;> rfl

def unseen (repository : List (String × RuleText)) (ids : List (String × RuleId)) : Nat :=
  repository.countP fun entry => (ids.lookup entry.1).isNone

theorem unseen_cons_lt (hnew : ids.lookup name = none)
    (hget : KeyList.get? name repository = some raw) (id : RuleId) :
    unseen repository ((name, id) :: ids) < unseen repository ids := by
  have hle (rest : List (String × RuleText)) :
      unseen rest ((name, id) :: ids) ≤ unseen rest ids := by
    refine List.countP_mono_left fun entry _ h => ?_
    rw [List.lookup_cons] at h
    split at h
    · cases h
    · exact h
  induction repository with
  | nil => cases hget
  | cons entry rest ih =>
      obtain ⟨key, r⟩ := entry
      unfold unseen at hle ih ⊢
      rw [List.countP_cons, List.countP_cons, List.lookup_cons]
      by_cases heq : key = name
      · subst heq
        have hrest := hle rest
        rw [beq_self_eq_true, hnew]
        simp only [Option.isNone_some, Option.isNone_none, Bool.false_eq_true, if_false, if_true]
        omega
      · have hget : KeyList.get? name rest = some raw := by
          rw [KeyList.get?, List.lookup_cons, beq_false_of_ne (Ne.symm heq)] at hget
          exact hget
        have hlt := ih hget
        rw [beq_false_of_ne heq]
        dsimp only
        omega

/-- The two do the same wherever `I` holds of the numbered entries, and it goes on to hold. -/
def Alike (I : List (String × RuleId) → Prop) (x y : Build α) : Prop :=
  ∀ s, I s.ids → x s = y s ∧ ∀ a t, x s = .ok (a, t) → I t.ids

variable {I : List (String × RuleId) → Prop}

theorem Alike.of_ids {x : Build α} (h : ∀ s a t, x s = .ok (a, t) → t.ids = s.ids) : Alike I x x := by
  intro s hs
  refine ⟨rfl, fun a t hrun => ?_⟩
  rw [h s a t hrun]
  exact hs

theorem Alike.pure (a : α) : Alike I (pure a) (pure a) := by
  apply Alike.of_ids
  rintro s _ _ ⟨⟩
  rfl

theorem Alike.lift (x : Except GrammarError α) : Alike I (liftM x) (liftM x) := by
  apply Alike.of_ids
  cases x with
  | error e => nofun
  | ok a =>
      rintro s _ _ ⟨⟩
      rfl

theorem Alike.push (rule : Rule) : Alike I (push rule) (push rule) := by
  apply Alike.of_ids
  rintro s _ _ ⟨⟩
  rfl

theorem Alike.setRule (id : RuleId) (rule : Rule) : Alike I (setRule id rule) (setRule id rule) := by
  apply Alike.of_ids
  rintro s _ _ ⟨⟩
  rfl

theorem Alike.bind {x y : Build α} {f k : α → Build β} (h : Alike I x y)
    (hnext : ∀ a, Alike I (f a) (k a)) : Alike I (x >>= f) (y >>= k) := by
  intro s hs
  obtain ⟨hxy, hkeeps⟩ := h s hs
  change (x s >>= fun p => f p.1 p.2) = (y s >>= fun p => k p.1 p.2) ∧
    ∀ a t, (x s >>= fun p => f p.1 p.2) = .ok (a, t) → I t.ids
  rw [← hxy]
  cases hrun : x s with
  | error e => exact ⟨rfl, nofun⟩
  | ok p => exact hnext p.1 p.2 (hkeeps p.1 p.2 hrun)

theorem resolveInclude_eq (entry : String → Build RuleId) (target : String) :
    resolveInclude entry target =
      match entryName? target with
      | some name => entry name >>= fun id => pure (some id)
      | none => pure (if target = "$self" ∨ target = "$base" then some root else none) := by
  rcases resolveInclude_cases entry target with ⟨hself, he⟩ | ⟨name, hname, he⟩ | ⟨hself, hhead, he⟩
  · have hnone : entryName? target = none := by
      rcases hself with rfl | rfl <;> rfl
    rw [he, hnone, if_pos hself]
  · rw [he, entryName?_of_toList hname]
  · have hnone : entryName? target = none := by
      unfold entryName?
      split
      next name hname => exact absurd (congrArg List.head? hname) hhead
      next => rfl
    rw [he, hnone, if_neg hself]

def AlikeEntries (g : GrammarText) (I : List (String × RuleId) → Prop)
    (below below' : String → Build RuleId) : Prop :=
  ∀ name, Asked g name → Alike I (below name) (below' name)

theorem resolveInclude_alike (h : AlikeEntries g I below below') (hraw : Reached g raw)
    {target : String} (htarget : raw.includes = some target) :
    Alike I (resolveInclude below target) (resolveInclude below' target) := by
  rw [resolveInclude_eq, resolveInclude_eq]
  cases hname : entryName? target with
  | none => exact .pure _
  | some name =>
      have hasks : asks? raw = some name := by rw [asks?, htarget, Option.bind_some, hname]
      exact (h name ⟨raw, hraw, hasks⟩).bind fun id => .pure _

theorem build_alike (hincludes : raw.includes = none)
    (h : Alike I (compileAll below (innerRules raw)) (compileAll below' (innerRules raw))) :
    Alike I (build below raw) (build below' raw) := by
  rw [build_eq_frame hincludes, build_eq_frame hincludes]
  exact (Alike.lift _).bind fun rule => h.bind fun ids => .pure _

theorem compileAll_alike (h : AlikeEntries g I below below') (hraws : ∀ raw ∈ raws, Reached g raw) :
    Alike I (compileAll below raws) (compileAll below' raws) := by
  induction raws using rules_induction with
  | nil =>
      rw [compileAll, compileAll]
      exact .pure _
  | including raw raws target htarget ih =>
      obtain ⟨hraw, hraws⟩ := List.forall_mem_cons.mp hraws
      rw [compileAll_cons_include htarget, compileAll_cons_include htarget]
      exact (resolveInclude_alike h hraw htarget).bind fun id => (ih hraws).bind fun ids => .pure _
  | inline raw raws hincludes ihinner ih =>
      obtain ⟨hraw, hraws⟩ := List.forall_mem_cons.mp hraws
      rw [compileAll_cons_inline hincludes, compileAll_cons_inline hincludes]
      refine (build_alike hincludes (ihinner fun r hr => hraw.nested hr)).bind fun rule => ?_
      exact (Alike.push rule).bind fun id => (ih hraws).bind fun ids => .pure _

theorem finishEntry_alike (h : AlikeEntries g I below below') (hraw : Reached g raw) (id : RuleId) :
    Alike I (finishEntry below raw id) (finishEntry below' raw id) := by
  have hrule : Alike I (entryRule below raw) (entryRule below' raw) := by
    unfold entryRule
    cases hincludes : raw.includes with
    | none =>
        exact build_alike hincludes (compileAll_alike h fun r hr => hraw.nested hr)
    | some target => exact (resolveInclude_alike h hraw hincludes).bind fun id => .pure _
  exact hrule.bind fun rule => (Alike.setRule id rule).bind fun _ => .pure id

def Remaining (repository repository' : List (String × RuleText)) (level level' : Nat)
    (ids : List (String × RuleId)) : Prop :=
  unseen repository ids ≤ level ∧ unseen repository' ids ≤ level'

def SameAsked (g g' : GrammarText) : Prop :=
  ∀ name, Asked g name → KeyList.get? name g'.repository = KeyList.get? name g.repository

theorem entry_alike_step (hsame : SameAsked g g') (hname : Asked g name)
    (hbelow : ∀ k k', level = k + 1 → level' = k' + 1 →
      AlikeEntries g (Remaining g.repository g'.repository k k') (entry g.repository k) below') :
    Alike (Remaining g.repository g'.repository level level') (entry g.repository level name)
      (entryStep g'.repository below' name) := by
  rintro s ⟨hleft, hleft'⟩
  cases hnew : s.ids.lookup name with
  | some id =>
      rw [entry_seen hnew, entryStep_seen hnew]
      refine ⟨rfl, ?_⟩
      rintro _ _ ⟨⟩
      exact ⟨hleft, hleft'⟩
  | none =>
      have hget' := hsame name hname
      cases hget : KeyList.get? name g.repository with
      | none =>
          rw [entry_unknown hnew hget, entryStep_unknown hnew (hget'.trans hget)]
          exact ⟨rfl, nofun⟩
      | some raw =>
          -- The entry has its number before anything in it is compiled, so that below it one entry
          -- less is without one. This holds in either repository.
          have hlt := unseen_cons_lt hnew hget s.rules.size
          have hlt' := unseen_cons_lt hnew (hget'.trans hget) s.rules.size
          obtain ⟨k, rfl⟩ : ∃ k, level = k + 1 := Nat.exists_eq_add_one.mpr (by omega)
          obtain ⟨k', rfl⟩ : ∃ k, level' = k + 1 := Nat.exists_eq_add_one.mpr (by omega)
          have hfinish := finishEntry_alike (hbelow k k' rfl rfl) (hname.reached hget) s.rules.size
          have hroom : Remaining g.repository g'.repository k k' (Building.reserved s name).ids :=
            ⟨Nat.le_of_lt_succ (Nat.lt_of_lt_of_le hlt hleft),
              Nat.le_of_lt_succ (Nat.lt_of_lt_of_le hlt' hleft')⟩
          rw [entry_succ, entryStep_new hnew hget, entryStep_new hnew (hget'.trans hget)]
          obtain ⟨heq, hkeeps⟩ := hfinish _ hroom
          refine ⟨heq, fun a t hrun => ?_⟩
          obtain ⟨hk, hk'⟩ := hkeeps a t hrun
          exact ⟨Nat.le_succ_of_le hk, Nat.le_succ_of_le hk'⟩

/-- With a level for each entry that has no number, what stands below all levels is never asked. -/
theorem entry_alike (hsame : SameAsked g g') (bottom : String → Build RuleId)
    (hdepth : level' < depth) :
    AlikeEntries g (Remaining g.repository g'.repository level level') (entry g.repository level)
      ((entryStep g'.repository)^[depth] bottom) := by
  intro name hname
  induction level generalizing level' depth name with
  | zero =>
      obtain ⟨depth, rfl⟩ := Nat.exists_eq_add_one.mpr (Nat.zero_lt_of_lt hdepth)
      rw [Function.iterate_succ_apply']
      exact entry_alike_step hsame hname nofun
  | succ level ih =>
      obtain ⟨depth, rfl⟩ := Nat.exists_eq_add_one.mpr (Nat.zero_lt_of_lt hdepth)
      rw [Function.iterate_succ_apply']
      refine entry_alike_step hsame hname fun k k' hk hk' => ?_
      cases hk
      cases hk'
      exact fun name hname => ih (Nat.lt_of_succ_lt_succ hdepth) name hname

/-- The grammars differ at most in entries that neither of them comes to. -/
structure SameReached (g g' : GrammarText) : Prop where
  name : g'.name = g.name
  scopeName : g'.scopeName = g.scopeName
  fileTypes : g'.fileTypes = g.fileTypes
  rules : g'.rules = g.rules
  entries : ∀ name, KeyList.get? name g'.repository = KeyList.get? name g.repository ∨
    ¬ ReachedEntry g name ∧ ¬ ReachedEntry g' name

theorem SameReached.refl (g : GrammarText) : SameReached g g :=
  ⟨rfl, rfl, rfl, rfl, fun _ => .inl rfl⟩

theorem SameReached.reached (h : SameReached g g') (hraw : Reached g raw) : Reached g' raw := by
  induction hraw with
  | root hraw => exact .root (h.rules ▸ hraw)
  | nested _ hr ih => exact ih.nested hr
  | @entry raw r name hraw hasks hget ih =>
      rcases h.entries name with hsame | ⟨hnot, _⟩
      · exact ih.entry hasks (hsame.trans hget)
      · exact absurd ⟨⟨raw, hraw, hasks⟩, r, hget⟩ hnot

theorem SameReached.sameAsked (h : SameReached g g') : SameAsked g g' := by
  rintro name ⟨raw, hraw, hasks⟩
  rcases h.entries name with hsame | ⟨hnot, hnot'⟩
  · exact hsame
  · have hnone : KeyList.get? name g.repository = none := by
      cases hget : KeyList.get? name g.repository with
      | none => rfl
      | some r => exact absurd ⟨⟨raw, hraw, hasks⟩, r, hget⟩ hnot
    have hnone' : KeyList.get? name g'.repository = none := by
      cases hget : KeyList.get? name g'.repository with
      | none => rfl
      | some r => exact absurd ⟨⟨raw, h.reached hraw, hasks⟩, r, hget⟩ hnot'
    rw [hnone, hnone']

/-- Neither the number of levels matters, if there are enough, nor what stands below them, nor are
entries seen that the grammar does not come to. -/
theorem compileWith_eq (h : SameReached g g') (bottom : String → Build RuleId)
    (hdepth : g'.repository.length < depth) :
    compileWith ((entryStep g'.repository)^[depth] bottom) g' = compile? g := by
  have hleft : Remaining g.repository g'.repository g.repository.length g'.repository.length [] :=
    ⟨List.countP_le_length, List.countP_le_length⟩
  obtain ⟨hrun, _⟩ := compileAll_alike (entry_alike h.sameAsked bottom hdepth)
    (fun raw hraw => Reached.root hraw) ⟨#[.group []], []⟩ hleft
  rw [compile?_eq_compileWith]
  unfold compileWith
  unfold ofTable
  rw [h.name, h.scopeName, h.fileTypes, h.rules, hrun]

theorem SameReached.compile?_eq (h : SameReached g g') : compile? g' = compile? g := by
  have hdepth := Nat.lt_succ_self g'.repository.length
  rw [← compileWith_eq h (entry [] 0) hdepth, compileWith_eq (.refl g') (entry [] 0) hdepth]

end Scopemark.Grammar
