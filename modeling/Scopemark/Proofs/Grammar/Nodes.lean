import Mathlib.Data.List.Forall2
import Scopemark.Grammar.Compile

namespace Scopemark.Grammar

variable {g : GrammarText} {raw : RuleText} {raws : List RuleText} {id : RuleId} {ids : List RuleId}

/-- The grammar itself, or one of the rules in its document. -/
inductive Node
  | grammar
  | rule (raw : RuleText)

inductive Occurs (g : GrammarText) : RuleText → Prop
  | root {raw : RuleText} (h : raw ∈ g.rules) : Occurs g raw
  | entry {name : String} {raw : RuleText} (h : KeyList.get? name g.repository = some raw) : Occurs g raw
  | nested {raw r : RuleText} (h : Occurs g raw) (hr : r ∈ raw.rules) : Occurs g r

structure Naming where
  node : RuleId → Option Node
  entryId : String → Option RuleId

def external (raw : RuleText) : Bool :=
  match raw.includes with
  | none => false
  | some target => target != "$self" && target != "$base" && target.toList.head? != some '#'

inductive Refers (N : Naming) : RuleText → RuleId → Prop
  | self {raw : RuleText} {target : String} (h : raw.includes = some target)
      (htarget : target = "$self" ∨ target = "$base") : Refers N raw root
  | entry {raw : RuleText} {target : String} {name : List Char} {id : RuleId}
      (h : raw.includes = some target) (htarget : target.toList = '#' :: name)
      (hid : N.entryId (.ofList name) = some id) : Refers N raw id
  | inline {raw : RuleText} {id : RuleId} (h : raw.includes = none)
      (hid : N.node id = some (.rule raw)) : Refers N raw id

def Lists (N : Naming) (raws : List RuleText) (ids : List RuleId) : Prop :=
  List.Forall₂ (Refers N) (raws.filter fun raw => !external raw) ids

/-- The rule of the table is what the node demands. -/
inductive Realizes (g : GrammarText) (N : Naming) : Node → Rule → Prop
  | grammar {ids : List RuleId} (lists : Lists N g.rules ids) : Realizes g N .grammar (.group ids)
  | including {raw : RuleText} {ids : List RuleId} (h : raw.includes ≠ none)
      (lists : Lists N [raw] ids) : Realizes g N (.rule raw) (.group ids)
  | single {raw : RuleText} {source : String} {pattern : Pattern} {scopes : List Scope}
      {captures : List CaptureScopes} (h : raw.includes = none) (hsource : raw.pattern = some source)
      (hpattern : compilePattern source = .ok pattern) (hscopes : scopesOf raw.name = .ok scopes)
      (hcaptures : capturesOf raw.captures = .ok captures) :
      Realizes g N (.rule raw) (.single pattern scopes captures)
  | region {raw : RuleText} {begins ends : String} {opening closing : Pattern}
      {scopes inner : List Scope} {openingCaptures closingCaptures : List CaptureScopes}
      {ids : List RuleId} (h : raw.includes = none) (hpattern : raw.pattern = none)
      (hbegins : raw.opening = some begins) (hends : raw.closing = some ends)
      (hopening : compilePattern begins = .ok opening) (hclosing : compilePattern ends = .ok closing)
      (hscopes : scopesOf raw.name = .ok scopes) (hinner : scopesOf raw.contentName = .ok inner)
      (hopens : capturesOf (raw.openingCaptures <|> raw.captures) = .ok openingCaptures)
      (hcloses : capturesOf (raw.closingCaptures <|> raw.captures) = .ok closingCaptures)
      (lists : Lists N raw.rules ids) :
      Realizes g N (.rule raw)
        (.region opening closing scopes inner openingCaptures closingCaptures ids)
  | group {raw : RuleText} {ids : List RuleId} (h : raw.includes = none)
      (hpattern : raw.pattern = none) (hopening : raw.opening = none) (hrules : raw.rules ≠ [])
      (lists : Lists N raw.rules ids) : Realizes g N (.rule raw) (.group ids)

/-- The first `size` numbers have nodes, which are those of the document. -/
structure Naming.Valid (g : GrammarText) (N : Naming) (size : Nat) : Prop where
  node : ∀ id, (∃ n, N.node id = some n) ↔ id < size
  root : N.node Grammar.root = some .grammar
  only : ∀ id, N.node id = some .grammar → id = Grammar.root
  occurs : ∀ id raw, N.node id = some (.rule raw) → Occurs g raw
  entries : ∀ name id, N.entryId name = some id →
    ∃ raw, KeyList.get? name g.repository = some raw ∧ N.node id = some (.rule raw)

/-- Every number of the table has a node, and the rule that the node demands. -/
structure Follows (g : GrammarText) (N : Naming) (rules : Array Rule) : Prop where
  valid : N.Valid g rules.size
  realizes : ∀ id rule, rules[id]? = some rule → ∃ n, N.node id = some n ∧ Realizes g N n rule
  listed : ∀ (id : RuleId) (rule : Rule), rules[id]? = some rule → ∀ i ∈ rule.listed, i < rules.size

theorem lists_nil {N : Naming} : Lists N [] [] := .nil

theorem Lists.append {N : Naming} {raws' : List RuleText} {ids' : List RuleId} (h : Lists N raws ids)
    (h' : Lists N raws' ids') : Lists N (raws ++ raws') (ids ++ ids') := by
  unfold Lists
  rw [List.filter_append]
  exact List.rel_append h h'

theorem lists_external {N : Naming} (h : external raw = true) : Lists N [raw] [] := by
  unfold Lists
  rw [List.filter_cons_of_neg (by simp [h])]
  exact .nil

theorem Refers.not_external {N : Naming} (h : Refers N raw id) : external raw = false := by
  cases h with
  | self h htarget => rcases htarget with rfl | rfl <;> simp [external, h]
  | entry h htarget hid => simp [external, h, htarget]
  | inline h hid => simp [external, h]

theorem Refers.lists {N : Naming} (h : Refers N raw id) : Lists N [raw] [id] := by
  unfold Lists
  rw [List.filter_cons_of_pos (by simp [h.not_external])]
  exact .cons h .nil

theorem Lists.exists_refers {N : Naming} (h : Lists N raws ids) (hid : id ∈ ids) :
    ∃ raw, Refers N raw id := by
  unfold Lists at h
  generalize raws.filter (fun raw => !external raw) = kept at h
  induction h with
  | nil => cases hid
  | cons hrefers _ ih =>
      rcases List.mem_cons.mp hid with rfl | hid
      · exact ⟨_, hrefers⟩
      · exact ih hid

structure Naming.Extends (N M : Naming) : Prop where
  node : ∀ id n, N.node id = some n → M.node id = some n
  entryId : ∀ name id, N.entryId name = some id → M.entryId name = some id

variable {N M L : Naming}

theorem Naming.Extends.refl (N : Naming) : N.Extends N := ⟨fun _ _ => id, fun _ _ => id⟩

theorem Naming.Extends.trans (h : N.Extends M) (k : M.Extends L) : N.Extends L :=
  ⟨fun id n hn => k.node id n (h.node id n hn),
    fun name id hid => k.entryId name id (h.entryId name id hid)⟩

theorem Refers.mono (hext : N.Extends M) (h : Refers N raw id) : Refers M raw id := by
  cases h with
  | self h htarget => exact .self h htarget
  | entry h htarget hid => exact .entry h htarget (hext.entryId _ _ hid)
  | inline h hid => exact .inline h (hext.node _ _ hid)

theorem Lists.mono (hext : N.Extends M) (h : Lists N raws ids) : Lists M raws ids :=
  h.imp fun _ _ => Refers.mono hext

theorem Realizes.mono {n : Node} {rule : Rule} (hext : N.Extends M) (h : Realizes g N n rule) :
    Realizes g M n rule := by
  cases h with
  | grammar lists => exact .grammar (lists.mono hext)
  | including h lists => exact .including h (lists.mono hext)
  | single h hsource hpattern hscopes hcaptures =>
      exact .single h hsource hpattern hscopes hcaptures
  | region h hpattern hbegins hends hopening hclosing hscopes hinner hopens hcloses lists =>
      exact .region h hpattern hbegins hends hopening hclosing hscopes hinner hopens hcloses
        (lists.mono hext)
  | group h hpattern hopening hrules lists =>
      exact .group h hpattern hopening hrules (lists.mono hext)

theorem Realizes.exists_lists {n : Node} {rule : Rule} (h : Realizes g N n rule) :
    ∃ raws, Lists N raws rule.listed := by
  cases h with
  | grammar lists | including _ lists | group _ _ _ _ lists => exact ⟨_, lists⟩
  | region _ _ _ _ _ _ _ _ _ _ lists => exact ⟨_, lists⟩
  | single => exact ⟨[], lists_nil⟩

theorem Refers.lt {size : Nat} (hvalid : N.Valid g size) (h : Refers N raw id) : id < size := by
  rw [← hvalid.node]
  cases h with
  | self => exact ⟨_, hvalid.root⟩
  | entry h htarget hid =>
      obtain ⟨_, _, hnode⟩ := hvalid.entries _ _ hid
      exact ⟨_, hnode⟩
  | inline h hid => exact ⟨_, hid⟩

end Scopemark.Grammar
