import Scopemark.Proofs.Grammar.Compile
import Scopemark.Proofs.Scope.Basic

namespace Scopemark.Grammar

variable {g : GrammarText} {raw : RuleText} {entry : String → Build RuleId}
  {name : Option String} {captures : Option Captures}

def NamesScopes (name : Option String) : Prop :=
  ∀ text ∈ name, ∀ word ∈ Text.words text.toList, ∃ s : Scope, s.name = .ofList word

def ValidCaptures (captures : Option Captures) : Prop :=
  ∀ cs ∈ captures, ∀ entry ∈ cs, (groupNumber? entry.1).isSome ∧ NamesScopes entry.2.name

def Compilable (source : String) : Prop := ∃ p, Pattern.read? source = .ok p

theorem exists_readScopes {words : List (List Char)} : (∃ scopes, readScopes words = .ok scopes) ↔
    ∀ word ∈ words, ∃ s : Scope, s.name = .ofList word := by
  induction words with
  | nil => exact ⟨fun _ => List.forall_mem_nil _, fun _ => ⟨[], rfl⟩⟩
  | cons word rest ih =>
      rw [List.forall_mem_cons, ← ih, ← Scope.exists_ofString?, readScopes]
      cases Scope.ofString? (.ofList word) with
      | error e => simp
      | ok s =>
          simp only [map_eq_ok, Except.ok.injEq, exists_eq', true_and]
          exact ⟨fun ⟨_, rest, h, _⟩ => ⟨rest, h⟩, fun ⟨rest, h⟩ => ⟨_, rest, h, rfl⟩⟩

theorem exists_scopesOf : (∃ scopes, scopesOf name = .ok scopes) ↔ NamesScopes name := by
  unfold scopesOf NamesScopes
  cases name with
  | none => simp
  | some text => simpa using exists_readScopes

theorem exists_capturesFrom {cs : Captures} : (∃ list, capturesFrom cs = .ok list) ↔
    ∀ entry ∈ cs, (groupNumber? entry.1).isSome ∧ NamesScopes entry.2.name := by
  induction cs with
  | nil => exact ⟨fun _ => List.forall_mem_nil _, fun _ => ⟨[], rfl⟩⟩
  | cons entry rest ih =>
      obtain ⟨key, capture⟩ := entry
      rw [List.forall_mem_cons, ← ih, ← exists_scopesOf, capturesFrom]
      cases groupNumber? key with
      | none => simp
      | some group =>
          simp only [Option.isSome_some, true_and]
          constructor
          · rintro ⟨list, h⟩
            obtain ⟨scopes, hscopes, h⟩ := bind_eq_ok.mp h
            obtain ⟨others, hothers, _⟩ := bind_eq_ok.mp h
            exact ⟨⟨scopes, hscopes⟩, others, hothers⟩
          · rintro ⟨⟨scopes, hscopes⟩, others, hothers⟩
            rw [hscopes, hothers]
            exact ⟨_, rfl⟩

theorem exists_capturesOf : (∃ list, capturesOf captures = .ok list) ↔ ValidCaptures captures := by
  unfold capturesOf ValidCaptures
  cases captures with
  | none => simp
  | some cs =>
      simp only [map_eq_ok, Option.mem_def, Option.some.injEq, forall_eq', ← exists_capturesFrom]
      exact ⟨fun ⟨_, list, h, _⟩ => ⟨list, h⟩, fun ⟨list, h⟩ => ⟨_, list, h, rfl⟩⟩

theorem exists_compilePattern {source : String} :
    (∃ p, compilePattern source = .ok p) ↔ Compilable source := by
  unfold compilePattern Compilable
  simp only [mapError_eq_ok]

def innerRules (raw : RuleText) : List RuleText :=
  if raw.includes.isSome || raw.pattern.isSome then [] else raw.rules

def entryName? (target : String) : Option String :=
  match target.toList with
  | '#' :: name => some (.ofList name)
  | _ => none

theorem entryName?_of_toList {target : String} {name : List Char} (h : target.toList = '#' :: name) :
    entryName? target = some (.ofList name) := by
  unfold entryName?
  split
  next rest hrest =>
    rw [h] at hrest
    cases hrest
    rfl
  next hnot => exact absurd h (hnot name)

/-- The rule is right in the parts that are used of it. -/
inductive WellFormed (g : GrammarText) (raw : RuleText) : Prop
  | including {target : String} (h : raw.includes = some target)
      (present : ∀ name ∈ entryName? target, ∃ r, KeyList.get? name g.repository = some r)
  | single {source : String} (h : raw.includes = none) (hsource : raw.pattern = some source)
      (names : NamesScopes raw.name) (pattern : Compilable source)
      (captures : ValidCaptures raw.captures)
  | region {begins ends : String} (h : raw.includes = none) (hpattern : raw.pattern = none)
      (hbegins : raw.opening = some begins) (hends : raw.closing = some ends)
      (names : NamesScopes raw.name) (opening : Compilable begins) (closing : Compilable ends)
      (inner : NamesScopes raw.contentName)
      (opens : ValidCaptures (raw.openingCaptures <|> raw.captures))
      (closes : ValidCaptures (raw.closingCaptures <|> raw.captures))
  | group (h : raw.includes = none) (hpattern : raw.pattern = none) (hopening : raw.opening = none)
      (names : NamesScopes raw.name) (hrules : raw.rules ≠ [])

def frame (raw : RuleText) : Except GrammarError (List RuleId → Rule) := do
  let scopes ← scopesOf raw.name
  match raw.pattern, raw.opening with
  | some source, _ =>
    let pattern ← compilePattern source
    let captures ← capturesOf raw.captures
    return fun _ => .single pattern scopes captures
  | none, some begins =>
    match raw.closing with
    | none => .error (.missingEnd begins)
    | some ends =>
      let opening ← compilePattern begins
      let closing ← compilePattern ends
      let inner ← scopesOf raw.contentName
      let openingCaptures ← capturesOf (raw.openingCaptures <|> raw.captures)
      let closingCaptures ← capturesOf (raw.closingCaptures <|> raw.captures)
      return .region opening closing scopes inner openingCaptures closingCaptures
  | none, none => if raw.rules.isEmpty then .error .emptyRule else return .group

theorem build_eq_frame (h : raw.includes = none) :
    build entry raw = (liftM (frame raw) : Build (List RuleId → Rule)) >>= fun rule =>
      compileAll entry (innerRules raw) >>= fun ids => pure (rule ids) := by
  obtain ⟨includes, name, contentName, pattern, opening, closing, captures, openingCaptures,
    closingCaptures, rules, comment⟩ := raw
  obtain rfl : includes = none := h
  rw [build]
  unfold frame innerRules
  dsimp only
  rw [liftM_bind, bind_assoc]
  refine bind_congr fun scopes => ?_
  cases pattern with
  | some source =>
      simp only [liftM_bind, liftM_pure, bind_assoc, pure_bind, Option.isSome_some, Bool.or_true,
        if_true, compileAll]
  | none =>
      cases opening with
      | some begins =>
          cases closing with
          | none => rfl
          | some ends =>
              simp only [liftM_bind, liftM_pure, bind_assoc, pure_bind, Option.isSome_none,
                Bool.or_false, Bool.false_eq_true, if_false]
      | none => cases rules <;> rfl

theorem WellFormed.exists_frame (h : WellFormed g raw) (hincludes : raw.includes = none) :
    ∃ rule, frame raw = .ok rule := by
  cases h with
  | including h => rw [hincludes] at h; cases h
  | single _ hsource names pattern captures =>
      obtain ⟨scopes, hscopes⟩ := exists_scopesOf.mpr names
      obtain ⟨p, hp⟩ := exists_compilePattern.mpr pattern
      obtain ⟨list, hlist⟩ := exists_capturesOf.mpr captures
      exact ⟨_, by rw [frame, hscopes, hsource]; simp only [hp, hlist]; rfl⟩
  | region _ hpattern hbegins hends names opening closing inner opens closes =>
      obtain ⟨scopes, hscopes⟩ := exists_scopesOf.mpr names
      obtain ⟨p, hp⟩ := exists_compilePattern.mpr opening
      obtain ⟨q, hq⟩ := exists_compilePattern.mpr closing
      obtain ⟨within, hwithin⟩ := exists_scopesOf.mpr inner
      obtain ⟨list, hlist⟩ := exists_capturesOf.mpr opens
      obtain ⟨list', hlist'⟩ := exists_capturesOf.mpr closes
      exact ⟨_, by
        rw [frame, hscopes, hpattern, hbegins]
        simp only [hends, hp, hq, hwithin, hlist, hlist']
        rfl⟩
  | group _ hpattern hopening names hrules =>
      obtain ⟨scopes, hscopes⟩ := exists_scopesOf.mpr names
      have hne : ¬ raw.rules.isEmpty = true := by simpa using hrules
      exact ⟨_, by rw [frame, hscopes, hpattern, hopening]; simp only [if_neg hne]; rfl⟩

theorem wellFormed_of_frame (hincludes : raw.includes = none) {rule : List RuleId → Rule}
    (h : frame raw = .ok rule) : WellFormed g raw := by
  unfold frame at h
  obtain ⟨scopes, hscopes, h⟩ := bind_eq_ok.mp h
  have names := exists_scopesOf.mp ⟨scopes, hscopes⟩
  split at h
  next source _ hsource =>
    obtain ⟨p, hp, h⟩ := bind_eq_ok.mp h
    obtain ⟨list, hlist, h⟩ := bind_eq_ok.mp h
    exact .single hincludes hsource names (exists_compilePattern.mp ⟨p, hp⟩)
      (exists_capturesOf.mp ⟨list, hlist⟩)
  next begins hpattern hbegins =>
    split at h
    next => cases h
    next ends hends =>
      obtain ⟨p, hp, h⟩ := bind_eq_ok.mp h
      obtain ⟨q, hq, h⟩ := bind_eq_ok.mp h
      obtain ⟨inner, hinner, h⟩ := bind_eq_ok.mp h
      obtain ⟨opens, hopens, h⟩ := bind_eq_ok.mp h
      obtain ⟨closes, hcloses, h⟩ := bind_eq_ok.mp h
      exact .region hincludes hpattern hbegins hends names (exists_compilePattern.mp ⟨p, hp⟩)
        (exists_compilePattern.mp ⟨q, hq⟩) (exists_scopesOf.mp ⟨inner, hinner⟩)
        (exists_capturesOf.mp ⟨opens, hopens⟩) (exists_capturesOf.mp ⟨closes, hcloses⟩)
  next hpattern hopening =>
    split at h
    next => cases h
    next hne => exact .group hincludes hpattern hopening names (by simpa using hne)

end Scopemark.Grammar
