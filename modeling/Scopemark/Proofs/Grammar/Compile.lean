import Scopemark.Proofs.Except
import Scopemark.Proofs.Grammar.Nodes

namespace Scopemark.Grammar

variable {α β : Type} {g : GrammarText} {N M : Naming} {opened : List RuleId} {s t : Building}
  {raw : RuleText} {raws : List RuleText} {id : RuleId} {ids : List RuleId} {rule : Rule}

theorem build_bind_eq_ok {x : Build α} {f : α → Build β} {b : β} :
    (x >>= f) s = .ok (b, t) ↔ ∃ a u, x s = .ok (a, u) ∧ f a u = .ok (b, t) := by
  change x s >>= (fun p => f p.1 p.2) = .ok (b, t) ↔ _
  rw [bind_eq_ok]
  exact Prod.exists

theorem build_pure_eq_ok {a b : α} : (pure a : Build α) s = .ok (b, t) ↔ a = b ∧ s = t := by
  change Except.ok (a, s) = .ok (b, t) ↔ _
  rw [Except.ok.injEq, Prod.mk.injEq]

theorem build_lift_bind_eq_ok {x : Except GrammarError α} {f : α → Build β} {b : β} :
    ((liftM x : Build α) >>= f) s = .ok (b, t) ↔ ∃ a, x = .ok a ∧ f a s = .ok (b, t) := by
  rw [build_bind_eq_ok]
  cases x with
  | error e => simp [liftM, monadLift, MonadLift.monadLift, StateT.lift, bind, Except.bind]
  | ok a =>
      constructor
      · rintro ⟨_, _, ⟨⟩, h⟩
        exact ⟨a, rfl, h⟩
      · rintro ⟨_, ⟨⟩, h⟩
        exact ⟨a, s, rfl, h⟩

/-- Every number that is not open has the rule that its node demands. -/
structure Partial (g : GrammarText) (N : Naming) (opened : List RuleId) (s : Building) : Prop where
  valid : N.Valid g s.rules.size
  ids : N.entryId = fun name => s.ids.lookup name
  realizes : ∀ id rule, s.rules[id]? = some rule → id ∉ opened →
    ∃ n, N.node id = some n ∧ Realizes g N n rule

def Reaches (g : GrammarText) (N : Naming) (opened : List RuleId) (t : Building) (P : Naming → Prop) :
    Prop :=
  ∃ M, N.Extends M ∧ Partial g M opened t ∧ P M

def Naming.add (N : Naming) (size : Nat) (raw : RuleText) : Naming :=
  { N with node := fun id => if id = size then some (.rule raw) else N.node id }

theorem Naming.Valid.node_size {size : Nat} (h : N.Valid g size) : N.node size = none := by
  cases hnode : N.node size with
  | none => rfl
  | some n => exact absurd ((h.node size).mp ⟨n, hnode⟩) (Nat.lt_irrefl size)

theorem Naming.Valid.extends_add {size : Nat} (h : N.Valid g size) : N.Extends (N.add size raw) := by
  refine ⟨fun id n hn => ?_, fun _ _ => id⟩
  have hne : id ≠ size := by
    rintro rfl
    rw [h.node_size] at hn
    cases hn
  exact (if_neg hne).trans hn

theorem Naming.node_add {size : Nat} : (N.add size raw).node size = some (.rule raw) := if_pos rfl

theorem Naming.Valid.add {size : Nat} (h : N.Valid g size) (hoccurs : Occurs g raw) :
    (N.add size raw).Valid g (size + 1) where
  node id := by
    by_cases hid : id = size
    · subst hid
      exact ⟨fun _ => Nat.lt_succ_self id, fun _ => ⟨_, Naming.node_add⟩⟩
    · rw [show (N.add size raw).node id = N.node id from if_neg hid, h.node,
        Nat.lt_succ_iff_lt_or_eq, or_iff_left hid]
  root := h.extends_add.node _ _ h.root
  only id hnode := by
    by_cases hid : id = size
    · subst hid
      rw [Naming.node_add] at hnode
      cases hnode
    · exact h.only id ((if_neg hid).symm.trans hnode)
  occurs id other hnode := by
    by_cases hid : id = size
    · subst hid
      rw [Naming.node_add] at hnode
      cases hnode
      exact hoccurs
    · exact h.occurs id other ((if_neg hid).symm.trans hnode)
  entries name id hid := by
    obtain ⟨other, hget, hnode⟩ := h.entries name id hid
    exact ⟨other, hget, h.extends_add.node id _ hnode⟩

theorem getElem?_push {rules : Array Rule} {other : Rule} (h : (rules.push rule)[id]? = some other) :
    rules[id]? = some other ∨ id = rules.size ∧ other = rule := by
  rw [Array.getElem?_push] at h
  split at h
  next hid => exact .inr ⟨hid, (Option.some.inj h).symm⟩
  next => exact .inl h

theorem Partial.push (h : Partial g N opened s) (hoccurs : Occurs g raw)
    (hrule : Realizes g N (.rule raw) rule) :
    Partial g (N.add s.rules.size raw) opened { s with rules := s.rules.push rule } where
  valid := by
    rw [Array.size_push]
    exact h.valid.add hoccurs
  ids := h.ids
  realizes id other hother hopen := by
    have hext : N.Extends (N.add s.rules.size raw) := h.valid.extends_add
    rcases getElem?_push hother with hother | ⟨rfl, rfl⟩
    · obtain ⟨n, hn, hreal⟩ := h.realizes id other hother hopen
      exact ⟨n, hext.node id n hn, hreal.mono hext⟩
    · exact ⟨_, Naming.node_add, hrule.mono hext⟩

def Naming.reserve (N : Naming) (name : String) (size : Nat) (raw : RuleText) : Naming :=
  { N.add size raw with entryId := fun other => if other == name then some size else N.entryId other }

theorem Partial.lookup (h : Partial g N opened s) (name : String) :
    s.ids.lookup name = N.entryId name := by
  rw [h.ids]

theorem Partial.extends_reserve {name : String} (h : Partial g N opened s)
    (hnew : s.ids.lookup name = none) : N.Extends (N.reserve name s.rules.size raw) := by
  refine ⟨h.valid.extends_add.node, fun other id hid => ?_⟩
  have hne : ¬ (other == name) = true := by
    intro heq
    rw [← eq_of_beq heq, h.lookup, hid] at hnew
    cases hnew
  exact (if_neg hne).trans hid

theorem Partial.reserve {name : String} (h : Partial g N opened s)
    (hnew : s.ids.lookup name = none) (hget : KeyList.get? name g.repository = some raw) :
    Partial g (N.reserve name s.rules.size raw) (s.rules.size :: opened)
      ⟨s.rules.push (.group []), (name, s.rules.size) :: s.ids⟩ where
  valid := by
    rw [Array.size_push]
    have hadd : (N.add s.rules.size raw).Valid g (s.rules.size + 1) := h.valid.add (.entry hget)
    refine ⟨hadd.node, hadd.root, hadd.only, hadd.occurs, fun other id hid => ?_⟩
    by_cases heq : (other == name) = true
    · obtain rfl : s.rules.size = id := Option.some.inj ((if_pos heq).symm.trans hid)
      rw [eq_of_beq heq]
      exact ⟨raw, hget, Naming.node_add⟩
    · exact hadd.entries other id ((if_neg heq).symm.trans hid)
  ids := by
    funext other
    rw [List.lookup_cons, h.lookup]
    cases heq : other == name with
    | true => exact if_pos heq
    | false => exact if_neg (by simp [heq])
  realizes id other hother hopen := by
    obtain ⟨hne, hopen⟩ := not_or.mp (mt List.mem_cons.mpr hopen)
    have hext : N.Extends (N.reserve name s.rules.size raw) := h.extends_reserve hnew
    rcases getElem?_push hother with hother | ⟨hid, -⟩
    · obtain ⟨n, hn, hreal⟩ := h.realizes id other hother hopen
      exact ⟨n, hext.node id n hn, hreal.mono hext⟩
    · exact absurd hid hne

theorem Partial.set (h : Partial g N (id :: opened) s) {n : Node} (hnode : N.node id = some n)
    (hrule : Realizes g N n rule) :
    Partial g N opened { s with rules := s.rules.setIfInBounds id rule } where
  valid := by
    rw [Array.size_setIfInBounds]
    exact h.valid
  ids := h.ids
  realizes other found hfound hopen := by
    have hlt : id < s.rules.size := (h.valid.node id).mp ⟨n, hnode⟩
    rw [Array.getElem?_setIfInBounds] at hfound
    by_cases heq : id = other
    · subst heq
      rw [if_pos rfl, if_pos hlt] at hfound
      cases hfound
      exact ⟨n, hnode, hrule⟩
    · rw [if_neg heq] at hfound
      refine h.realizes other found hfound fun hmem => ?_
      rcases List.mem_cons.mp hmem with rfl | hmem
      · exact heq rfl
      · exact hopen hmem

def EntrySound (g : GrammarText) (entry : String → Build RuleId) : Prop :=
  ∀ {N opened s t name id}, Partial g N opened s → entry name s = .ok (id, t) →
    Reaches g N opened t fun M => M.entryId name = some id

def BuildSound (g : GrammarText) (entry : String → Build RuleId) (raw : RuleText) : Prop :=
  ∀ {N opened s t rule}, Partial g N opened s → Occurs g raw → raw.includes = none →
    build entry raw s = .ok (rule, t) →
    Reaches g N opened t fun M => Realizes g M (.rule raw) rule

def ListSound (g : GrammarText) (entry : String → Build RuleId) (raws : List RuleText) : Prop :=
  ∀ {N opened s t ids}, Partial g N opened s → (∀ raw ∈ raws, Occurs g raw) →
    compileAll entry raws s = .ok (ids, t) → Reaches g N opened t fun M => Lists M raws ids

variable {entry : String → Build RuleId}

theorem Reaches.refl {P : Naming → Prop} (h : Partial g N opened s) (hP : P N) :
    Reaches g N opened s P :=
  ⟨N, .refl N, h, hP⟩

/-- Goes on from where a first part has come. -/
theorem Reaches.bind {P Q : Naming → Prop} (h : Reaches g N opened s P)
    (hnext : ∀ M, N.Extends M → Partial g M opened s → P M → Reaches g M opened t Q) :
    Reaches g N opened t Q := by
  obtain ⟨M, hext, hpartial, hP⟩ := h
  obtain ⟨L, hext', hpartial', hQ⟩ := hnext M hext hpartial hP
  exact ⟨L, hext.trans hext', hpartial', hQ⟩

theorem Reaches.imp {P Q : Naming → Prop} (h : Reaches g N opened t P) (himp : ∀ M, P M → Q M) :
    Reaches g N opened t Q :=
  h.bind fun M _ hpartial hP => .refl hpartial (himp M hP)

theorem resolveInclude_cases (entry : String → Build RuleId) (target : String) :
    ((target = "$self" ∨ target = "$base") ∧ resolveInclude entry target = pure (some root)) ∨
    (∃ name, target.toList = '#' :: name ∧
      resolveInclude entry target = entry (.ofList name) >>= fun id => pure (some id)) ∨
    (¬ (target = "$self" ∨ target = "$base") ∧ target.toList.head? ≠ some '#' ∧
      resolveInclude entry target = pure none) := by
  unfold resolveInclude
  split
  next hself => exact .inl ⟨by simpa using hself, rfl⟩
  next hself =>
    split
    next name hname => exact .inr (.inl ⟨name, hname, rfl⟩)
    next hname =>
      refine .inr (.inr ⟨by simpa using hself, fun hhead => ?_, rfl⟩)
      obtain ⟨name, hlist⟩ := List.head?_eq_some_iff.mp hhead
      exact hname name hlist

theorem resolveInclude_sound (hentry : EntrySound g entry) (h : Partial g N opened s)
    {target : String} {found : Option RuleId} (hincludes : raw.includes = some target)
    (hrun : resolveInclude entry target s = .ok (found, t)) :
    Reaches g N opened t fun M => Lists M [raw] found.toList := by
  rcases resolveInclude_cases entry target with
    ⟨hself, he⟩ | ⟨name, hname, he⟩ | ⟨hself, hhead, he⟩
  · rw [he] at hrun
    obtain ⟨rfl, rfl⟩ := build_pure_eq_ok.mp hrun
    exact .refl h (Refers.self hincludes hself).lists
  · rw [he] at hrun
    obtain ⟨id, u, hid, hrun⟩ := build_bind_eq_ok.mp hrun
    obtain ⟨rfl, rfl⟩ := build_pure_eq_ok.mp hrun
    exact (hentry h hid).imp fun M hM => (Refers.entry hincludes hname hM).lists
  · rw [he] at hrun
    obtain ⟨rfl, rfl⟩ := build_pure_eq_ok.mp hrun
    obtain ⟨hne, hne'⟩ := not_or.mp hself
    exact .refl h (lists_external (by simp [external, hincludes, hne, hne', hhead]))

theorem compileAll_cons_include {target : String} (h : raw.includes = some target) :
    compileAll entry (raw :: raws) = resolveInclude entry target >>= fun id =>
      compileAll entry raws >>= fun ids => pure (id.toList ++ ids) := by
  rw [compileAll, h]

theorem compileAll_cons_inline (h : raw.includes = none) :
    compileAll entry (raw :: raws) = build entry raw >>= fun rule => push rule >>= fun id =>
      compileAll entry raws >>= fun ids => pure (id :: ids) := by
  rw [compileAll, h]

theorem listSound_cons_include (hentry : EntrySound g entry) {target : String}
    (hincludes : raw.includes = some target) (hlist : ListSound g entry raws) :
    ListSound g entry (raw :: raws) := by
  intro N opened s t ids h hoccurs hrun
  have hraws := (List.forall_mem_cons.mp hoccurs).2
  rw [compileAll_cons_include hincludes] at hrun
  obtain ⟨found, u, hfound, hrun⟩ := build_bind_eq_ok.mp hrun
  obtain ⟨rest, v, hrest, hrun⟩ := build_bind_eq_ok.mp hrun
  obtain ⟨rfl, rfl⟩ := build_pure_eq_ok.mp hrun
  refine (resolveInclude_sound hentry h hincludes hfound).bind fun M _ hM hfirst => ?_
  refine (hlist hM hraws hrest).bind fun L hext hL hothers => ?_
  exact .refl hL ((hfirst.mono hext).append hothers)

theorem listSound_cons_inline (hincludes : raw.includes = none) (hbuild : BuildSound g entry raw)
    (hlist : ListSound g entry raws) : ListSound g entry (raw :: raws) := by
  intro N opened s t ids h hoccurs hrun
  obtain ⟨hraw, hraws⟩ := List.forall_mem_cons.mp hoccurs
  rw [compileAll_cons_inline hincludes] at hrun
  obtain ⟨rule, u, hrule, hrun⟩ := build_bind_eq_ok.mp hrun
  obtain ⟨id, v, ⟨⟩, hrun⟩ := build_bind_eq_ok.mp hrun
  obtain ⟨rest, w, hrest, hrun⟩ := build_bind_eq_ok.mp hrun
  obtain ⟨rfl, rfl⟩ := build_pure_eq_ok.mp hrun
  obtain ⟨M, hNM, hM, hreal⟩ := hbuild h hraw hincludes hrule
  have hadd : M.Extends (M.add u.rules.size raw) := hM.valid.extends_add
  obtain ⟨L, hML, hL, hothers⟩ := hlist (hM.push hraw hreal) hraws hrest
  have hinline : Refers L raw u.rules.size := .inline hincludes (hML.node _ _ Naming.node_add)
  exact ⟨L, hNM.trans (hadd.trans hML), hL, hinline.lists.append hothers⟩

theorem listSound_nil : ListSound g entry [] := by
  intro N opened s t ids h _ hrun
  rw [compileAll] at hrun
  obtain ⟨rfl, rfl⟩ := build_pure_eq_ok.mp hrun
  exact .refl h lists_nil

theorem buildSound_of_listSound (hlist : ListSound g entry raw.rules) : BuildSound g entry raw := by
  intro N opened s t rule h hoccurs hincludes hrun
  obtain ⟨includes, name, contentName, pattern, opening, closing, captures, openingCaptures,
    closingCaptures, rules, comment⟩ := raw
  dsimp only at hlist hincludes
  have hrules : ∀ r ∈ rules, Occurs g r := fun r hr => hoccurs.nested hr
  rw [build] at hrun
  obtain ⟨scopes, hscopes, hrun⟩ := build_lift_bind_eq_ok.mp hrun
  cases pattern with
  | some source =>
      obtain ⟨pattern, hpattern, hrun⟩ := build_lift_bind_eq_ok.mp hrun
      obtain ⟨found, hcaptures, hrun⟩ := build_lift_bind_eq_ok.mp hrun
      obtain ⟨rfl, rfl⟩ := build_pure_eq_ok.mp hrun
      exact .refl h (.single hincludes rfl hpattern hscopes hcaptures)
  | none =>
      cases opening with
      | some begins =>
          cases closing with
          | none => cases hrun
          | some ends =>
              obtain ⟨opening, hopening, hrun⟩ := build_lift_bind_eq_ok.mp hrun
              obtain ⟨closing, hclosing, hrun⟩ := build_lift_bind_eq_ok.mp hrun
              obtain ⟨inner, hinner, hrun⟩ := build_lift_bind_eq_ok.mp hrun
              obtain ⟨opens, hopens, hrun⟩ := build_lift_bind_eq_ok.mp hrun
              obtain ⟨closes, hcloses, hrun⟩ := build_lift_bind_eq_ok.mp hrun
              obtain ⟨ids, u, hids, hrun⟩ := build_bind_eq_ok.mp hrun
              obtain ⟨rfl, rfl⟩ := build_pure_eq_ok.mp hrun
              exact (hlist h hrules hids).imp fun M hM =>
                .region hincludes rfl rfl rfl hopening hclosing hscopes hinner hopens hcloses hM
      | none =>
          dsimp only at hrun
          split at hrun
          · cases hrun
          next hne =>
            obtain ⟨ids, u, hids, hrun⟩ := build_bind_eq_ok.mp hrun
            obtain ⟨rfl, rfl⟩ := build_pure_eq_ok.mp hrun
            have hne : rules ≠ [] := by simpa using hne
            exact (hlist h hrules hids).imp fun M hM => .group hincludes rfl rfl hne hM

theorem build_sound (hentry : EntrySound g entry) :
    (∀ raw, BuildSound g entry raw) ∧ ∀ raws, ListSound g entry raws := by
  apply build.mutual_induct
  case case1 =>
    intro includes name contentName pattern opening closing captures openingCaptures closingCaptures
      rules comment hrules
    exact buildSound_of_listSound hrules
  case case2 => exact listSound_nil
  case case3 =>
    intro raw raws target hincludes hraws
    exact listSound_cons_include hentry hincludes hraws
  case case4 =>
    intro raw raws hincludes hraw hraws
    exact listSound_cons_inline hincludes hraw hraws

theorem entryRule_sound (hentry : EntrySound g entry) (h : Partial g N opened s)
    (hoccurs : Occurs g raw) (hrun : entryRule entry raw s = .ok (rule, t)) :
    Reaches g N opened t fun M => Realizes g M (.rule raw) rule := by
  cases hincludes : raw.includes with
  | none =>
      have he : entryRule entry raw = build entry raw := by rw [entryRule, hincludes]
      rw [he] at hrun
      exact (build_sound hentry).1 raw h hoccurs hincludes hrun
  | some target =>
      have he : entryRule entry raw =
          resolveInclude entry target >>= fun id => pure (.group id.toList) := by
        rw [entryRule, hincludes]
      rw [he] at hrun
      obtain ⟨found, u, hfound, hrun⟩ := build_bind_eq_ok.mp hrun
      obtain ⟨rfl, rfl⟩ := build_pure_eq_ok.mp hrun
      exact (resolveInclude_sound hentry h hincludes hfound).imp fun M hM =>
        .including (by simp [hincludes]) hM

theorem entry_eq_ok {repository : List (String × RuleText)} {level : Nat} {name : String}
    (h : Grammar.entry repository level name s = .ok (id, t)) :
    s.ids.lookup name = some id ∧ s = t ∨
    ∃ below raw rule u, level = below + 1 ∧ s.ids.lookup name = none ∧
      KeyList.get? name repository = some raw ∧
      entryRule (Grammar.entry repository below) raw
        ⟨s.rules.push (.group []), (name, s.rules.size) :: s.ids⟩ = .ok (rule, u) ∧
      id = s.rules.size ∧ t = { u with rules := u.rules.setIfInBounds id rule } := by
  unfold Grammar.entry at h
  split at h
  next found hfound =>
    cases h
    exact .inl ⟨hfound, rfl⟩
  next hnew =>
    split at h
    next below raw hget =>
      obtain ⟨_, _, ⟨⟩, h⟩ := build_bind_eq_ok.mp h
      obtain ⟨rule, u, hrule, h⟩ := build_bind_eq_ok.mp h
      obtain ⟨_, _, ⟨⟩, h⟩ := build_bind_eq_ok.mp h
      obtain ⟨rfl, rfl⟩ := build_pure_eq_ok.mp h
      exact .inr ⟨below, raw, rule, u, rfl, hnew, hget, hrule, rfl, rfl⟩
    next => cases h

theorem entry_sound (g : GrammarText) (level : Nat) :
    EntrySound g (Grammar.entry g.repository level) := by
  induction level with
  | zero =>
      intro N opened s t name id h hrun
      rcases entry_eq_ok hrun with ⟨hid, rfl⟩ | ⟨below, _, _, _, hlevel, _⟩
      · exact .refl h ((h.lookup name).symm.trans hid)
      · cases hlevel
  | succ level ih =>
      intro N opened s t name id h hrun
      rcases entry_eq_ok hrun with ⟨hid, rfl⟩ | ⟨below, raw, rule, u, ⟨⟩, hnew, hget, hrule, rfl, rfl⟩
      · exact .refl h ((h.lookup name).symm.trans hid)
      · -- The number is open while the text of the entry is compiled, which may include the entry.
        obtain ⟨M, hext, hM, hreal⟩ := entryRule_sound ih (h.reserve hnew hget) (.entry hget) hrule
        have hnode : M.node s.rules.size = some (.rule raw) := hext.node _ _ Naming.node_add
        have hentry : M.entryId name = some s.rules.size :=
          hext.entryId _ _ (if_pos (beq_self_eq_true name))
        exact ⟨M, (h.extends_reserve hnew).trans hext, hM.set hnode hreal, hentry⟩

def Naming.start : Naming where
  node id := if id = root then some .grammar else none
  entryId _ := none

theorem Naming.start_eq_some {n : Node} :
    Naming.start.node id = some n ↔ id = root ∧ .grammar = n := by
  unfold Naming.start
  dsimp only
  split
  next h => simp [h]
  next h => simp [h]

theorem partial_start (g : GrammarText) : Partial g .start [root] ⟨#[.group []], []⟩ where
  valid := by
    refine ⟨fun id => ?_, Naming.start_eq_some.mpr ⟨rfl, rfl⟩,
      fun id hid => (Naming.start_eq_some.mp hid).1, fun id raw hid => ?_, fun _ _ hid => ?_⟩
    · simp [Naming.start_eq_some, root]
    · cases (Naming.start_eq_some.mp hid).2
    · cases hid
  ids := rfl
  realizes id rule hrule hopen := by
    obtain ⟨hlt, -⟩ := Array.getElem?_eq_some_iff.mp hrule
    have hid : id = root := Nat.lt_one_iff.mp hlt
    exact absurd (List.mem_singleton.mpr hid) hopen

theorem Partial.follows (h : Partial g N [] s) : Follows g N s.rules := by
  have hrealizes : ∀ id rule, s.rules[id]? = some rule →
      ∃ n, N.node id = some n ∧ Realizes g N n rule :=
    fun id rule hrule => h.realizes id rule hrule List.not_mem_nil
  refine ⟨h.valid, hrealizes, fun id rule hrule i hi => ?_⟩
  obtain ⟨n, -, hreal⟩ := hrealizes id rule hrule
  obtain ⟨raws, hlists⟩ := hreal.exists_lists
  obtain ⟨raw, hrefers⟩ := hlists.exists_refers hi
  exact hrefers.lt h.valid

theorem compile?_follows {G : Grammar} (h : compile? g = .ok G) : ∃ N, Follows g N G.rules := by
  unfold compile? at h
  obtain ⟨scopeName, _, h⟩ := bind_eq_ok.mp h
  obtain ⟨⟨ids, s⟩, hrun, h⟩ := bind_eq_ok.mp h
  cases h
  have hrules : ∀ raw ∈ g.rules, Occurs g raw := fun raw hraw => .root hraw
  obtain ⟨N, hext, hN, hlists⟩ :=
    (build_sound (entry_sound g _)).2 g.rules (partial_start g) hrules hrun
  have hroot : N.node root = some .grammar := hN.valid.root
  exact ⟨N, (hN.set hroot (.grammar hlists)).follows⟩

def nestedText : GrammarText where
  name := "Nested"
  scopeName := "text.nested"
  rules := [{ includes := some "#string" }, { includes := some "text.other" },
    { pattern := some "x", name := some "a b" }]
  repository := [("alias", { includes := some "#string" }),
    ("string", { opening := some "<", closing := some ">", captures := some [("0", ⟨some "p"⟩)]
                 rules := [{ includes := some "#alias" }, { includes := some "$self" }] })]

theorem compile?_follows_nestedText : ∃ G, compile? nestedText = .ok G ∧ G.rules.size = 4 ∧
    ∃ N, Follows nestedText N G.rules := by
  have hsize : (compile? nestedText).toOption.map (fun G => G.rules.size) = some 4 := by
    decide +kernel
  obtain ⟨G, hG, hsize⟩ := Option.map_eq_some_iff.mp hsize
  have hcompile : compile? nestedText = .ok G := by
    cases h : compile? nestedText with
    | error e => rw [h] at hG; cases hG
    | ok G' => rw [h] at hG; cases hG; rfl
  exact ⟨G, hcompile, hsize, compile?_follows hcompile⟩

end Scopemark.Grammar
